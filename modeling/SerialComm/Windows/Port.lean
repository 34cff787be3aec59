import SerialComm.Windows.Dcb
import SerialComm.Windows.PortNames

/-!
# A Windows port from `openComPort` on

For an open port the driver keeps the DCB that `SetCommState` last accepted, the RTS and DTR
lines and the break condition. `openComPort` (windows_serial.c) opens the port and writes
9600 8N1 with no flow control over the DCB it read; the other functions take the handle and
change the port through `SetCommState`, `EscapeCommFunction`, `SetCommBreak` and
`ClearCommBreak`, or transfer bytes with an overlapped `ReadFile` or `WriteFile`.

The result of every Win32 and JNI call a function makes is an input (`Win32`). `readBytes` and
`writeBytes` create an event object for their transfer, and `writeBytes` pins the Java array
with `GetByteArrayElements`; the port counts the event objects never closed and the arrays
never released. `session` runs any sequence of calls on a port.

The source as given does not compile (`erroVal`, `case 256000;`, a missing `;` after
`MARKPARITY`, C and C++ JNI calls mixed, `return -240` from functions returning arrays). The
model follows the evident intent of those lines and returns an error code where such a
`return` stands.
-/

namespace SerialComm.Windows

/-- The `errno` values the functions return negated, from headers outside the source. -/
structure Errno where
  EBUSY : Nat
  EACCES : Nat
  ENXIO : Nat
  EINVAL : Nat
  ETOOMANYOP : Nat
  ENOMEM : Nat
  ECANCELED : Nat
  deriving Inhabited

def ERROR_INVALID_PARAMETER : Int := 87
def ERROR_SHARING_VIOLATION : Int := 32
def ERROR_INVALID_NAME : Int := 123
def ERROR_IO_PENDING : Int := 997
def ERROR_INVALID_USER_BUFFER : Int := 1784
def ERROR_NOT_ENOUGH_MEMORY : Int := 8
def ERROR_NOT_ENOUGH_QUOTA : Int := 1816
def ERROR_INSUFFICIENT_BUFFER : Int := 122
def ERROR_OPERATION_ABORTED : Int := 995

def fprintfLine (s : String) : String := s ++ "\n"

def fprintfLineLd (s : String) (n : Int) : String := s ++ " " ++ toString n ++ "\n"

/-- What the driver keeps for an open port, and the event objects and pinned arrays the
library left behind. -/
structure Port where
  dcb : Dcb
  rts : Bool
  dtr : Bool
  inBreak : Bool
  events : Nat
  pinned : Nat
  deriving DecidableEq, Repr

/-- An overlapped `ReadFile` or `WriteFile`: it completes at once with the bytes moved, or
returns 0 with the value of `GetLastError`. When that is `ERROR_IO_PENDING`,
`GetOverlappedResult(…, TRUE)` waits and gives the bytes moved, or fails (`none`). -/
inductive Transfer where
  | done (bytes : List UInt8)
  | failed (errorVal : Int) (overlapped : Option (List UInt8))
  deriving DecidableEq, Repr, Inhabited

/-- What the Win32 calls of one library call return: whether each succeeds, the transfer, the
queue sizes `ClearCommError` reports, the modem status, and `GetLastError` after a failure. -/
structure Win32 where
  getCommState : Bool
  setCommState : Bool
  escapeCommFunction : Bool
  setCommBreak : Bool
  clearCommBreak : Bool
  purgeComm : Bool
  flushFileBuffers : Bool
  closeHandle : Bool
  createEvent : Bool
  transfer : Transfer
  clearCommError : Option (Nat × Nat)
  modemStatus : Option Nat
  lastError : Int
  deriving Inhabited

inductive Reply where
  | code (ret : Int)
  | bytes (data : List UInt8)
  | strings (s : List String)
  | ints (v : List Int)
  deriving DecidableEq, Repr

-- ---------------------------------------------------------------------------
-- Configuration
-- ---------------------------------------------------------------------------

/-- `configureComPortData`: read the DCB, translate the baud code, set the data format and write
the DCB back. `custBaudTranslated` is not read; the final `PurgeComm` touches no modelled
state. -/
def configureComPortData (E : Errno) (p : Port) (w : Win32)
    (dataBits stopBits parity baudRateTranslated _custBaudTranslated : Int) :
    Port × Reply × List String :=
  if !w.getCommState then
    (p, .code (-240), [fprintfLineLd
      "NATIVE SetCommState() in configureComPortData() failed with error number : " w.lastError])
  else
    match translateBaud baudRateTranslated with
    | .error msg => (p, .code (-E.EINVAL), [fprintfLine msg])
    | .ok baud =>
      let dcb := p.dcb.setData baud dataBits stopBits parity
      if !w.setCommState then
        (p, .code (-240), [fprintfLineLd
          "NATIVE SetCommState() in configureComPortData() failed with error number : "
          w.lastError])
      else ({ p with dcb := dcb }, .code 0, [])

/-- `configureComPortControl`: read the DCB and set the flow control in the local copy `dcb`,
which no `SetCommState` follows. The parity, framing and overrun arguments are not read. -/
def configureComPortControl (p : Port) (w : Win32) (flowctrl : Int) (xon xoff : UInt16)
    (_parFraError _overFlowErr : Bool) : Port × Reply × List String :=
  if !w.getCommState then
    (p, .code (-240), [fprintfLineLd
      "NATIVE GetCommState() in configureComPortControl() failed with error number : "
      w.lastError])
  else
    let _dcb := p.dcb.setFlowControl flowctrl xon xoff
    (p, .code 0, [])

def getCurrentConfigurationW (lc : UInt8 → String) (p : Port) (w : Win32) :
    Reply × List String :=
  if !w.getCommState then
    (.code (-240), [fprintfLineLd
      "NATIVE GetCommState() in getCurrentConfiguration() failed with error number : "
      w.lastError])
  else (.strings (configStrings lc p.dcb), [])

-- ---------------------------------------------------------------------------
-- Lines
-- ---------------------------------------------------------------------------

/-- The body of `setRTS` and `setDTR`: `EscapeCommFunction` with `SET…` or `CLR…` as `enabled`
says, on the line `line` drives; `name` is the function's name in its message. -/
def escapeLine (name : String) (line : Port → Bool → Port) (p : Port) (w : Win32)
    (enabled : Bool) : Port × Reply × List String :=
  if !w.escapeCommFunction then
    (p, .code (-240), [fprintfLineLd
      ("NATIVE EscapeCommFunction() in " ++ name ++ "() failed with error number : ")
      w.lastError])
  else (line p enabled, .code 0, [])

def setRTS : Port → Win32 → Bool → Port × Reply × List String :=
  escapeLine "setRTS" fun p b => { p with rts := b }

def setDTR : Port → Win32 → Bool → Port × Reply × List String :=
  escapeLine "setDTR" fun p b => { p with dtr := b }

def sendBreak (p : Port) (w : Win32) (_duration : Int) : Port × Reply × List String :=
  if !w.setCommBreak then
    (p, .code (-240), [fprintfLineLd
      "NATIVE SetCommBreak() in sendBreak() failed with error number : " w.lastError])
  else if !w.clearCommBreak then
    ({ p with inBreak := true }, .code (-240), [fprintfLineLd
      "NATIVE ClearCommBreak() in sendBreak() failed with error number : " w.lastError])
  else ({ p with inBreak := false }, .code 0, [])

def MS_CTS_ON : Nat := 0x10
def MS_DSR_ON : Nat := 0x20
def MS_RING_ON : Nat := 0x40
def MS_RLSD_ON : Nat := 0x80

def lineBit (modemStat bit : Nat) : Int := if modemStat &&& bit ≠ 0 then 1 else 0

def getLinesStatus (w : Win32) : Reply × List String :=
  match w.modemStatus with
  | none =>
    (.ints [-240, 0, 0, 0, 0, 0, 0, 0], [fprintfLineLd
      "NATIVE GetCommModemStatus() in getLinesStatus() failed with error number : "
      w.lastError])
  | some s =>
    (.ints [0, lineBit s MS_CTS_ON, lineBit s MS_DSR_ON, lineBit s MS_RLSD_ON,
      lineBit s MS_RING_ON, 0, 0, 0], [])

def getByteCount (w : Win32) : Reply × List String :=
  match w.clearCommError with
  | none =>
    (.ints [-240, 0, 0], [fprintfLineLd
      "NATIVE ClearCommError() in getByteCount() failed with error number : " w.lastError])
  | some (inQue, outQue) => (.ints [0, inQue, outQue], [])

def PURGE_TXCLEAR : UInt32 := 0x4
def PURGE_RXCLEAR : UInt32 := 0x8

/-- The flags `clearPortIOBuffers` passes to `PurgeComm`. When neither buffer is asked for,
`PORTIOBUFFER` keeps its initial -1, which `PurgeComm` receives as the `DWORD` with every bit
set. -/
def portIOBuffer (rxPortbuf txPortbuf : Bool) : UInt32 :=
  if rxPortbuf && txPortbuf then PURGE_RXCLEAR ||| PURGE_TXCLEAR
  else if rxPortbuf then PURGE_RXCLEAR
  else if txPortbuf then PURGE_TXCLEAR
  else dwordMinusOne

def clearPortIOBuffers (w : Win32) : Reply × List String :=
  if !w.purgeComm then
    (.code (-240), [fprintfLineLd
      "NATIVE PurgeComm() in clearPortIOBuffers() failed with error number : " w.lastError])
  else (.code 0, [])

-- ---------------------------------------------------------------------------
-- Transfers
-- ---------------------------------------------------------------------------

def Transfer.completed : Transfer → Bool
  | .done _ => true
  | .failed errorVal overlapped => errorVal = ERROR_IO_PENDING && overlapped.isSome

def readFileFailed (E : Errno) (errorVal : Int) : Reply × List String :=
  if errorVal = ERROR_INVALID_USER_BUFFER ∨ errorVal = ERROR_NOT_ENOUGH_MEMORY then
    (.code (-E.ETOOMANYOP), [])
  else if errorVal = ERROR_NOT_ENOUGH_QUOTA ∨ errorVal = ERROR_INSUFFICIENT_BUFFER then
    (.code (-E.ENOMEM), [])
  else if errorVal = ERROR_OPERATION_ABORTED then (.code (-E.ECANCELED), [])
  else
    (.bytes [], [fprintfLineLd
      "NATIVE ReadFile() in readBytes() failed with error number : " errorVal])

/-- `readBytes`. The event object is closed only after a completed transfer; every other path
returns with it open. The format `"%s %ld\n"` of the `CreateEvent` message has no number to
print; the model prints the text alone. -/
def readBytes (E : Errno) (p : Port) (w : Win32) (_count : Int) : Port × Reply × List String :=
  if !w.createEvent then
    (p, .code (-240), [fprintfLine
      "NATIVE CreateEvent() in readBytes() failed creating overlapped event handle !"])
  else
    let leaked := { p with events := p.events + 1 }
    match w.transfer with
    | .done data => (p, .bytes data, [])
    | .failed errorVal overlapped =>
      if errorVal = ERROR_IO_PENDING then
        match overlapped with
        | some data => (p, .bytes data, [])
        | none =>
          (leaked, .bytes [], [fprintfLineLd
            "NATIVE GetOverlappedResult() in readBytes() failed with error number : "
            w.lastError])
      else (leaked, readFileFailed E errorVal)

/-- What `writeBytes` returns when `WriteFile` fails with an `errorVal` other than
`ERROR_IO_PENDING`. Unlike `readFileFailed` it does not test `ERROR_INSUFFICIENT_BUFFER`. -/
def writeFileFailed (E : Errno) (errorVal : Int) : Reply × List String :=
  if errorVal = ERROR_INVALID_USER_BUFFER ∨ errorVal = ERROR_NOT_ENOUGH_MEMORY then
    (.code (-E.ETOOMANYOP), [])
  else if errorVal = ERROR_NOT_ENOUGH_QUOTA then (.code (-E.ENOMEM), [])
  else if errorVal = ERROR_OPERATION_ABORTED then (.code (-E.ECANCELED), [])
  else
    (.code (-240), [fprintfLineLd
      "NATIVE WriteFile() in writeBytes() failed with error number : " errorVal])

/-- `writeFileFailed` differs from `readFileFailed` only where the read answers with an empty
array, which the write reports as -240, and at `ERROR_INSUFFICIENT_BUFFER`, which the write does
not test and so also reports as -240. -/
theorem writeFileFailed_eq (E : Errno) (errorVal : Int) :
    (writeFileFailed E errorVal).1 =
      if errorVal = ERROR_INSUFFICIENT_BUFFER then .code (-240)
      else match (readFileFailed E errorVal).1 with
        | .bytes _ => .code (-240)
        | r => r := by
  unfold writeFileFailed readFileFailed
  by_cases hb : errorVal = ERROR_INSUFFICIENT_BUFFER
  · subst hb; rfl
  · simp only [hb, or_false, if_false]
    split_ifs <;> rfl

/-- `writeBytes`. The array is pinned first; it is released, and the event object closed, only
after a completed transfer. `delay` is not read. -/
def writeBytes (E : Errno) (p : Port) (w : Win32) (_buffer : List UInt8) (_delay : Int) :
    Port × Reply × List String :=
  let pinned := { p with pinned := p.pinned + 1 }
  if !w.createEvent then
    (pinned, .code (-240), [fprintfLine
      "NATIVE CreateEvent() in writeBytes() failed creating overlapped event handle !"])
  else
    let leaked := { pinned with events := p.events + 1 }
    match w.transfer with
    | .done _ => (p, .code 0, [])
    | .failed errorVal overlapped =>
      if errorVal = ERROR_IO_PENDING then
        match overlapped with
        | some _ => (p, .code 0, [])
        | none =>
          (leaked, .code (-240), [fprintfLineLd
            "NATIVE GetOverlappedResult() in writeBytes() failed with error number : "
            w.lastError])
      else (leaked, writeFileFailed E errorVal)

-- ---------------------------------------------------------------------------
-- Opening
-- ---------------------------------------------------------------------------

def GENERIC_READ : UInt32 := 0x80000000
def GENERIC_WRITE : UInt32 := 0x40000000
def FILE_SHARE_READ : UInt32 := 0x1
def FILE_SHARE_WRITE : UInt32 := 0x2

structure CreateFileArgs where
  portFullName : String
  openMode : UInt32
  sharing : UInt32
  deriving DecidableEq, Repr

def createFileArgs (port : String) (enableRead enableWrite exclusiveOwner : Bool) :
    CreateFileArgs :=
  ⟨"\\\\.\\" ++ port,
    if enableRead && enableWrite then GENERIC_READ ||| GENERIC_WRITE
    else if enableRead then GENERIC_READ
    else if enableWrite then GENERIC_WRITE
    else 0,
    if exclusiveOwner then 0 else FILE_SHARE_READ ||| FILE_SHARE_WRITE⟩

/-- What a call of `openComPort` does: its return value (the handle, or a negative code), the
port when it is left open, the `CreateFile` arguments, whether it gives the port name back with
`ReleaseStringUTFChars`, whether it closes the handle, and what it prints. -/
structure Opened where
  ret : Int
  port : Option Port
  createFile : Option CreateFileArgs
  released : Bool
  closed : Bool
  stderr : List String

/-- `openComPort`, from what `GetStringUTFChars` gives, the flags, what `CreateFile` gives (the
handle, or the `GetLastError` value after it), the DCB `GetCommState` reads, the lines' state at
open, and whether `SetCommTimeouts` succeeds (the code fills the timeouts through an
uninitialised pointer; the model takes the call's result as given). A `CreateFile` error the code
does not map falls through to `GetCommState` on `INVALID_HANDLE_VALUE`, which fails. -/
def openComPort (E : Errno) (port : Option String) (enableRead enableWrite exclusiveOwner : Bool)
    (createFile : Except Int Int) (prev : Dcb) (rts dtr : Bool) (w : Win32)
    (setCommTimeouts : Bool) : Opened :=
  match port with
  | none =>
    ⟨-240, none, none, false, false, [fprintfS
      "NATIVE openComPort() failed to create port name string from JNI environment."]⟩
  | some port =>
    let args := createFileArgs port enableRead enableWrite exclusiveOwner
    let getFailed := fprintfS "NATIVE GetCommState() in openComPort() failed."
    match createFile with
    | .error errorVal =>
      let msg := fprintfLineLd
        "NATIVE CreateFile() in openComPort() failed with error number : " errorVal
      if errorVal = ERROR_SHARING_VIOLATION then ⟨-E.EBUSY, none, some args, false, false, [msg]⟩
      else if errorVal = ERROR_ACCESS_DENIED then ⟨-E.EACCES, none, some args, false, false, [msg]⟩
      else if errorVal = ERROR_FILE_NOT_FOUND then ⟨-E.ENXIO, none, some args, false, false, [msg]⟩
      else if errorVal = ERROR_INVALID_NAME then ⟨-E.EINVAL, none, some args, false, false, [msg]⟩
      else ⟨-E.EINVAL, none, some args, false, true, [msg, getFailed]⟩
    | .ok handle =>
      if !w.getCommState then ⟨-E.EINVAL, none, some args, false, true, [getFailed]⟩
      else if !w.setCommState then
        let msg := fprintfLineLd
          "NATIVE SetCommState() in openComPort() failed with error number : " w.lastError
        if w.lastError = ERROR_INVALID_PARAMETER then ⟨-E.EINVAL, none, some args, true, true, [msg]⟩
        else ⟨-240, none, some args, true, true, [msg]⟩
      else if !setCommTimeouts then
        ⟨-240, none, some args, true, true, [fprintfLineLd
          "NATIVE SetCommTimeouts() in openComPort() failed with error number : " w.lastError,
          fprintfS "PLEASE RETRY OPENING SERIAL PORT"]⟩
      else ⟨handle, some ⟨prev.openSettings, rts, dtr, false, 0, 0⟩, some args, true, false, []⟩

def closeComPort (w : Win32) : Reply × List String :=
  let flushed := if w.flushFileBuffers then [] else [fprintfLineLd
    "NATIVE FlushFileBuffers() in closeComPort() failed to flush data with error number : "
    w.lastError]
  if !w.closeHandle then
    (.code (-240), flushed ++ [fprintfLineLd
      "NATIVE CloseHandle() in closeComPort() failed with error number : " w.lastError])
  else (.code 0, flushed)

-- ---------------------------------------------------------------------------
-- Sessions
-- ---------------------------------------------------------------------------

inductive PortCall where
  | configureComPortData (dataBits stopBits parity baudRateTranslated custBaudTranslated : Int)
  | configureComPortControl (flowctrl : Int) (xon xoff : UInt16) (parFraError overFlowErr : Bool)
  | setRTS (enabled : Bool)
  | setDTR (enabled : Bool)
  | sendBreak (duration : Int)
  | readBytes (count : Int)
  | writeBytes (buffer : List UInt8) (delay : Int)
  | getCurrentConfigurationW
  | getLinesStatus
  | getByteCount
  | clearPortIOBuffers (rxPortbuf txPortbuf : Bool)

def callStep (E : Errno) (lc : UInt8 → String) (p : Port) (w : Win32) :
    PortCall → Port × Reply × List String
  | .configureComPortData d s par b c => configureComPortData E p w d s par b c
  | .configureComPortControl f xon xoff a b => configureComPortControl p w f xon xoff a b
  | .setRTS b => setRTS p w b
  | .setDTR b => setDTR p w b
  | .sendBreak d => sendBreak p w d
  | .readBytes n => readBytes E p w n
  | .writeBytes buf d => writeBytes E p w buf d
  | .getCurrentConfigurationW => let r := getCurrentConfigurationW lc p w; (p, r)
  | .getLinesStatus => let r := getLinesStatus w; (p, r)
  | .getByteCount => let r := getByteCount w; (p, r)
  | .clearPortIOBuffers _ _ => let r := clearPortIOBuffers w; (p, r)

/-- A sequence of calls on the port: the port after them, and each call's reply. -/
def session (E : Errno) (lc : UInt8 → String) (p : Port) :
    List (PortCall × Win32) → Port × List Reply
  | [] => (p, [])
  | (c, w) :: cs =>
    let r := callStep E lc p w c
    let s := session E lc r.1 cs
    (s.1, r.2.1 :: s.2)

-- ---------------------------------------------------------------------------
-- What each call does to the port
-- ---------------------------------------------------------------------------

section Calls

variable (E : Errno) (lc : UInt8 → String) (p : Port) (w : Win32)

theorem configureComPortData_port (d s par b c : Int) :
    (configureComPortData E p w d s par b c).1 = p ∨
      ∃ baud, translateBaud b = .ok baud ∧
        (configureComPortData E p w d s par b c).1 = { p with dcb := p.dcb.setData baud d s par } := by
  unfold configureComPortData
  split
  · exact .inl rfl
  · split
    · exact .inl rfl
    · rename_i baud hb
      split
      exacts [.inl rfl, .inr ⟨baud, hb, rfl⟩]

@[simp] theorem configureComPortControl_port (f : Int) (xon xoff : UInt16) (a b : Bool) :
    (configureComPortControl p w f xon xoff a b).1 = p := by
  unfold configureComPortControl; split <;> rfl

theorem escapeLine_port (name : String) (line : Port → Bool → Port) (b : Bool) :
    (escapeLine name line p w b).1 = if w.escapeCommFunction then line p b else p := by
  unfold escapeLine; cases w.escapeCommFunction <;> rfl

theorem sendBreak_port (d : Int) :
    (sendBreak p w d).1 = if w.setCommBreak then { p with inBreak := !w.clearCommBreak } else p := by
  unfold sendBreak; cases w.setCommBreak <;> cases w.clearCommBreak <;> rfl

theorem readBytes_port (n : Int) :
    (readBytes E p w n).1 =
      if w.createEvent && !w.transfer.completed then { p with events := p.events + 1 } else p := by
  unfold readBytes
  cases w.createEvent
  · rfl
  · rcases w.transfer with _ | ⟨errorVal, _ | _⟩
    · rfl
    all_goals by_cases h : errorVal = ERROR_IO_PENDING <;> simp [Transfer.completed, h]

theorem writeBytes_port (buf : List UInt8) (d : Int) :
    (writeBytes E p w buf d).1 =
      if w.createEvent && w.transfer.completed then p
      else { p with pinned := p.pinned + 1, events := p.events + if w.createEvent then 1 else 0 } := by
  unfold writeBytes
  cases w.createEvent
  · rfl
  · rcases w.transfer with _ | ⟨errorVal, _ | _⟩
    · rfl
    all_goals by_cases h : errorVal = ERROR_IO_PENDING <;> simp [Transfer.completed, h]

end Calls

/-- A call leaves an event object open: a `readBytes` or `writeBytes` that created its event and
whose transfer did not complete. -/
def leavesEvent : PortCall × Win32 → Bool
  | (.readBytes _, w) | (.writeBytes _ _, w) => w.createEvent && !w.transfer.completed
  | _ => false

def leavesArray : PortCall × Win32 → Bool
  | (.writeBytes _ _, w) => !(w.createEvent && w.transfer.completed)
  | _ => false

section Step

variable (E : Errno) (lc : UInt8 → String) (p : Port) (w : Win32)

theorem callStep_dcb (c : PortCall) :
    (callStep E lc p w c).1.dcb = p.dcb ∨
      ∃ baud d s par, (callStep E lc p w c).1.dcb = p.dcb.setData baud d s par := by
  cases c with
  | configureComPortData d s par b c =>
    rcases configureComPortData_port E p w d s par b c with h | ⟨baud, -, h⟩
    · exact .inl (congrArg Port.dcb h)
    · exact .inr ⟨baud, d, s, par, congrArg Port.dcb h⟩
  | setRTS b | setDTR b =>
    exact .inl (by simp only [callStep, setRTS, setDTR, escapeLine_port]; split <;> rfl)
  | sendBreak d => exact .inl (by simp only [callStep, sendBreak_port]; split <;> rfl)
  | readBytes n => exact .inl (by simp only [callStep, readBytes_port]; split <;> rfl)
  | writeBytes buf d => exact .inl (by simp only [callStep, writeBytes_port]; split <;> rfl)
  | configureComPortControl f xon xoff a b => exact .inl (by simp [callStep])
  | _ => exact .inl rfl

theorem callStep_dataFormat (c : PortCall) :
    ∃ f, (callStep E lc p w c).1.dcb = p.dcb.withDataFormat f := by
  rcases callStep_dcb E lc p w c with h | ⟨baud, d, s, par, h⟩ <;> rw [h]
  exacts [⟨_, (Dcb.withDataFormat_dataFormat _).symm⟩, ⟨_, Dcb.setData_eq _ _ _ _ _⟩]

theorem callStep_strings (c : PortCall) (ss : List String)
    (h : (callStep E lc p w c).2.1 = .strings ss) : ss = configStrings lc p.dcb := by
  cases c <;> simp only [callStep, configureComPortData, configureComPortControl, setRTS, setDTR,
    escapeLine, sendBreak, readBytes, readFileFailed, writeBytes, writeFileFailed,
    getCurrentConfigurationW, getLinesStatus, getByteCount, clearPortIOBuffers] at h <;>
    (repeat' split at h) <;> cases h
  rfl

/-- The event object and the array a call leaves behind. -/
theorem callStep_leaks (c : PortCall) :
    (callStep E lc p w c).1.events = p.events + (if leavesEvent (c, w) then 1 else 0) ∧
      (callStep E lc p w c).1.pinned = p.pinned + if leavesArray (c, w) then 1 else 0 := by
  cases c with
  | configureComPortData d s par b c =>
    rcases configureComPortData_port E p w d s par b c with h | ⟨baud, -, h⟩ <;>
      simp [callStep, leavesEvent, leavesArray, h]
  | setRTS b | setDTR b =>
    simp only [callStep, setRTS, setDTR, escapeLine_port, leavesEvent, leavesArray]
    split <;> exact ⟨rfl, rfl⟩
  | sendBreak d =>
    simp only [callStep, sendBreak_port, leavesEvent, leavesArray]
    split <;> exact ⟨rfl, rfl⟩
  | readBytes n =>
    simp only [callStep, readBytes_port, leavesEvent, leavesArray]
    split <;> simp_all
  | writeBytes buf d =>
    simp only [callStep, writeBytes_port, leavesEvent, leavesArray]
    by_cases h₁ : w.createEvent <;> by_cases h₂ : w.transfer.completed <;> simp [h₁, h₂]
  | configureComPortControl f xon xoff a b => simp [callStep, leavesEvent, leavesArray]
  | _ => exact ⟨rfl, rfl⟩

end Step

-- ---------------------------------------------------------------------------
-- Sessions
-- ---------------------------------------------------------------------------

section Session

variable (E : Errno) (lc : UInt8 → String)

@[simp] theorem session_nil (p : Port) : session E lc p [] = (p, []) := rfl

@[simp] theorem session_cons (p : Port) (c : PortCall) (w : Win32) (cs : List (PortCall × Win32)) :
    session E lc p ((c, w) :: cs) =
      ((session E lc (callStep E lc p w c).1 cs).1,
        (callStep E lc p w c).2.1 :: (session E lc (callStep E lc p w c).1 cs).2) := rfl

/-- Along a session the DCB changes only its data format, and every configuration the session
reports is that of the starting DCB with some data format. -/
theorem session_dataFormat (calls : List (PortCall × Win32)) : ∀ p : Port,
    (∃ f, (session E lc p calls).1.dcb = p.dcb.withDataFormat f) ∧
      ∀ ss, Reply.strings ss ∈ (session E lc p calls).2 →
        ∃ f, ss = configStrings lc (p.dcb.withDataFormat f) := by
  induction calls with
  | nil => exact fun p => ⟨⟨_, (Dcb.withDataFormat_dataFormat _).symm⟩, by simp⟩
  | cons cw cs ih =>
    intro p
    obtain ⟨c, w⟩ := cw
    obtain ⟨f₀, h₀⟩ := callStep_dataFormat E lc p w c
    obtain ⟨⟨f, hf⟩, hs⟩ := ih (callStep E lc p w c).1
    simp only [h₀, Dcb.withDataFormat_withDataFormat] at hf hs
    refine ⟨⟨f, hf⟩, fun ss hss => ?_⟩
    rcases List.mem_cons.1 hss with hss | hss
    · exact ⟨p.dcb.dataFormat, by
        rw [callStep_strings E lc p w c ss hss.symm, Dcb.withDataFormat_dataFormat]⟩
    · exact hs ss hss

end Session

-- ---------------------------------------------------------------------------
-- From `openComPort` on
-- ---------------------------------------------------------------------------

section Open

variable (E : Errno) (enableRead enableWrite exclusiveOwner : Bool) (createFile : Except Int Int)
  (prev : Dcb) (rts dtr : Bool) (w : Win32) (setCommTimeouts : Bool)

theorem openComPort_port (port : Option String) :
    (openComPort E port enableRead enableWrite exclusiveOwner createFile prev rts dtr w
        setCommTimeouts).port =
      if port.isSome && createFile.isOk && w.getCommState && w.setCommState && setCommTimeouts
      then some ⟨prev.openSettings, rts, dtr, false, 0, 0⟩ else none := by
  unfold openComPort
  rcases port with _ | name
  · rfl
  rcases createFile with errorVal | handle
  · simp only [apply_ite Opened.port, ite_self]; rfl
  · cases w.getCommState <;> cases w.setCommState <;> cases setCommTimeouts <;>
      simp only [apply_ite Opened.port, ite_self] <;> rfl

theorem openComPort_port_dcb {port : Option String} {p : Port}
    (hp : p ∈ (openComPort E port enableRead enableWrite exclusiveOwner createFile prev rts dtr w
      setCommTimeouts).port) : p.dcb = prev.openSettings := by
  rw [openComPort_port] at hp
  split at hp
  · cases hp; rfl
  · cases hp

theorem openComPort_released (port : String) :
    (openComPort E (some port) enableRead enableWrite exclusiveOwner createFile prev rts dtr w
      setCommTimeouts).released = (createFile.isOk && w.getCommState) := by
  unfold openComPort
  rcases createFile with errorVal | handle
  · simp only [apply_ite Opened.released, ite_self]; rfl
  · cases w.getCommState <;> cases w.setCommState <;> cases setCommTimeouts <;>
      simp only [apply_ite Opened.released, ite_self] <;> rfl

end Open

/-- Flow control never reaches the driver: from a port `openComPort` opened, along any session,
whatever `configureComPortControl` is asked for, the DCB keeps no hardware or software flow
control with DTR and RTS disabled, and so does every configuration `getCurrentConfigurationW`
reports. -/
theorem openComPort_session_openControl (E : Errno) (lc : UInt8 → String) (port : Option String)
    (enableRead enableWrite exclusiveOwner : Bool) (createFile : Except Int Int) (prev : Dcb)
    (rts dtr : Bool) (w : Win32) (setCommTimeouts : Bool) (calls : List (PortCall × Win32)) :
    ∀ p ∈ (openComPort E port enableRead enableWrite exclusiveOwner createFile prev rts dtr w
        setCommTimeouts).port,
      (session E lc p calls).1.dcb.OpenControl ∧
        ∀ ss, Reply.strings ss ∈ (session E lc p calls).2 →
          ∃ d : Dcb, d.OpenControl ∧ ss = configStrings lc d := by
  intro p hp
  have hc : p.dcb.OpenControl := by
    rw [openComPort_port_dcb E enableRead enableWrite exclusiveOwner createFile prev rts dtr w
      setCommTimeouts hp]
    exact Dcb.openSettings_openControl prev
  obtain ⟨⟨f, hf⟩, hs⟩ := session_dataFormat E lc calls p
  refine ⟨by rw [hf]; exact hc, fun ss hss => ?_⟩
  obtain ⟨f', rfl⟩ := hs ss hss
  exact ⟨p.dcb.withDataFormat f', hc, rfl⟩

theorem openComPort_session_hardwareFlow :
    (openComPort default (some "COM3") true true true (.ok 7) default false false
        { (default : Win32) with getCommState := true, setCommState := true } true).port =
      some ⟨(default : Dcb).openSettings, false, false, false, 0, 0⟩ ∧
    ((session default toString ⟨(default : Dcb).openSettings, false, false, false, 0, 0⟩
        [(.configureComPortControl 2 0x11 0x13 false false,
          { (default : Win32) with getCommState := true }),
         (.getCurrentConfigurationW, { (default : Win32) with getCommState := true })]).1.dcb.OpenControl ∧
      ∀ ss, Reply.strings ss ∈ (session default toString
          ⟨(default : Dcb).openSettings, false, false, false, 0, 0⟩
          [(.configureComPortControl 2 0x11 0x13 false false,
            { (default : Win32) with getCommState := true }),
           (.getCurrentConfigurationW, { (default : Win32) with getCommState := true })]).2 →
        ∃ d : Dcb, d.OpenControl ∧ ss = configStrings toString d) :=
  ⟨rfl, openComPort_session_openControl default toString (some "COM3") true true true (.ok 7)
    default false false { (default : Win32) with getCommState := true, setCommState := true } true
    _ _ rfl⟩

/-- No call changes a DCB member outside the data format: every configuration a session reports
agrees with the port's DCB at its start except in the BaudRate, fParity, ByteSize, Parity and
StopBits entries. -/
theorem session_configuration_frame (E : Errno) (lc : UInt8 → String) (p : Port)
    (calls : List (PortCall × Win32)) :
    ∀ ss, Reply.strings ss ∈ (session E lc p calls).2 →
      ∀ i, i ∉ [1, 3, 19, 20, 21] → ss[i]? = (configStrings lc p.dcb)[i]? := by
  intro ss hss i hi
  obtain ⟨f, rfl⟩ := (session_dataFormat E lc calls p).2 ss hss
  simp only [List.mem_cons, List.mem_singleton, not_or] at hi
  obtain ⟨h1, h3, h19, h20, h21, -⟩ := hi
  simp only [configStrings_withDataFormat, List.getElem?_set_ne (Ne.symm h1),
    List.getElem?_set_ne (Ne.symm h3), List.getElem?_set_ne (Ne.symm h19),
    List.getElem?_set_ne (Ne.symm h20), List.getElem?_set_ne (Ne.symm h21)]

theorem session_configuration_frame_19200 :
    Reply.strings (configStrings toString ((default : Dcb).setData 19200 8 1 3)) ∈
        (session default toString ⟨default, false, false, false, 0, 0⟩
          [(.configureComPortData 8 1 3 15 0,
            { (default : Win32) with getCommState := true, setCommState := true }),
           (.getCurrentConfigurationW, { (default : Win32) with getCommState := true })]).2 ∧
      0 ∉ [1, 3, 19, 20, 21] ∧
      (configStrings toString ((default : Dcb).setData 19200 8 1 3))[0]? =
        (configStrings toString (default : Dcb))[0]? :=
  have hm : Reply.strings (configStrings toString ((default : Dcb).setData 19200 8 1 3)) ∈
      (session default toString ⟨default, false, false, false, 0, 0⟩
        [(.configureComPortData 8 1 3 15 0,
          { (default : Win32) with getCommState := true, setCommState := true }),
         (.getCurrentConfigurationW, { (default : Win32) with getCommState := true })]).2 :=
    List.mem_cons_of_mem _ (List.mem_singleton.2 rfl)
  ⟨hm, by decide, session_configuration_frame default toString _ _ _ hm 0 (by decide)⟩

/-- The leaks of a session: the event objects left open are the `readBytes` and `writeBytes`
calls that created theirs and whose transfer did not complete, and the Java arrays left pinned the
`writeBytes` calls whose transfer did not complete. -/
theorem session_leaks (E : Errno) (lc : UInt8 → String) (p : Port)
    (calls : List (PortCall × Win32)) :
    (session E lc p calls).1.events = p.events + calls.countP leavesEvent ∧
      (session E lc p calls).1.pinned = p.pinned + calls.countP leavesArray := by
  induction calls generalizing p with
  | nil => simp
  | cons cw cs ih =>
    obtain ⟨c, w⟩ := cw
    obtain ⟨he, hp⟩ := ih (callStep E lc p w c).1
    obtain ⟨he₀, hp₀⟩ := callStep_leaks E lc p w c
    simp only [session_cons, List.countP_cons, he, hp, he₀, hp₀]
    omega

end SerialComm.Windows
