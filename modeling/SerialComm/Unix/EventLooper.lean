import Mathlib.Data.Nat.Bitwise

/-!
# The wait loop of `event_looper`

Each cycle of `event_looper` (unix_like_serial_lib.c) reads the modem status word with
`ioctl(fd, TIOCMGET, &lines_status)`, maps its CTS, DSR, DCD and RI bits to the bits 0x01,
0x02, 0x04 and 0x08 of `event`, and calls `insertInEventQueue`. On Linux the cycle first blocks
in `TIOCMIWAIT` and delivers every decoded word; on macOS it sleeps half a second and delivers
only when the word differs from `oldstate`, the last word it delivered. A failed `ioctl` skips
the rest of the cycle. Over any sequence of cycles, every decoded word reaches the looper on
Linux, and on macOS the decoded words that differ from the previous successful cycle's.
-/

namespace SerialComm.Unix

structure ModemBits where
  TIOCM_CTS : Nat
  TIOCM_DSR : Nat
  TIOCM_CD : Nat
  TIOCM_RI : Nat

structure Ioctl where
  ret : Int
  value : Nat
  deriving DecidableEq, Repr

/-- The `cts`, `dsr`, `dcd`, `ri` flags of the status word and the `event |= …` steps. -/
def bitMappedEvent (B : ModemBits) (linesStatus : Nat) : Nat :=
  let cts := if linesStatus &&& B.TIOCM_CTS ≠ 0 then 1 else 0
  let dsr := if linesStatus &&& B.TIOCM_DSR ≠ 0 then 1 else 0
  let dcd := if linesStatus &&& B.TIOCM_CD ≠ 0 then 1 else 0
  let ri := if linesStatus &&& B.TIOCM_RI ≠ 0 then 1 else 0
  let event := 0
  let event := if cts ≠ 0 then event ||| 0x01 else event
  let event := if dsr ≠ 0 then event ||| 0x02 else event
  let event := if dcd ≠ 0 then event ||| 0x04 else event
  if ri ≠ 0 then event ||| 0x08 else event

def eventCycleLinux (B : ModemBits) (miwait : Int) (mget : Ioctl) : List Nat :=
  if miwait < 0 then []
  else if mget.ret < 0 then []
  else [bitMappedEvent B mget.value]

/-- `event_looper` on Linux over a sequence of cycles: the values passed to
`insertInEventQueue`. -/
def eventLooperLinux (B : ModemBits) : List (Int × Ioctl) → List Nat
  | [] => []
  | c :: cs => eventCycleLinux B c.1 c.2 ++ eventLooperLinux B cs

def eventCycleMac (B : ModemBits) (oldstate : Nat) (mget : Ioctl) : Nat × List Nat :=
  if mget.ret < 0 then (oldstate, [])
  else
    let newstate := bitMappedEvent B mget.value
    if newstate ≠ oldstate then (newstate, [newstate]) else (oldstate, [])

def eventLooperMac (B : ModemBits) : Nat → List Ioctl → List Nat
  | _, [] => []
  | oldstate, c :: cs =>
    (eventCycleMac B oldstate c).2 ++ eventLooperMac B (eventCycleMac B oldstate c).1 cs

-- ---------------------------------------------------------------------------
-- What the loops deliver
-- ---------------------------------------------------------------------------

/-- The 4-bit mask of a status word: 0x01 when `TIOCM_CTS` is set in it, 0x02 for `TIOCM_DSR`,
0x04 for `TIOCM_CD`, 0x08 for `TIOCM_RI`. -/
def decode (B : ModemBits) (s : Nat) : Nat :=
  (if s &&& B.TIOCM_CTS ≠ 0 then 0x01 else 0) + (if s &&& B.TIOCM_DSR ≠ 0 then 0x02 else 0) +
    (if s &&& B.TIOCM_CD ≠ 0 then 0x04 else 0) + (if s &&& B.TIOCM_RI ≠ 0 then 0x08 else 0)

/-- Edge-triggered delivery: the decoded words of the successful cycles that differ from the
decoded word of the latest earlier successful cycle, `prev`. -/
def edgeTriggered (B : ModemBits) : Nat → List Ioctl → List Nat
  | _, [] => []
  | prev, c :: cs =>
    if c.ret < 0 then edgeTriggered B prev cs
    else (if decode B c.value ≠ prev then [decode B c.value] else []) ++
      edgeTriggered B (decode B c.value) cs

theorem bitMappedEvent_eq_decode (B : ModemBits) (s : Nat) : bitMappedEvent B s = decode B s := by
  unfold bitMappedEvent decode
  by_cases h1 : s &&& B.TIOCM_CTS = 0 <;> by_cases h2 : s &&& B.TIOCM_DSR = 0 <;>
    by_cases h3 : s &&& B.TIOCM_CD = 0 <;> by_cases h4 : s &&& B.TIOCM_RI = 0 <;>
    simp [h1, h2, h3, h4]

theorem eventLooperMac_eq_edgeTriggered (B : ModemBits) (oldstate : Nat) (cs : List Ioctl) :
    eventLooperMac B oldstate cs = edgeTriggered B oldstate cs := by
  induction cs generalizing oldstate with
  | nil => rfl
  | cons c cs ih =>
    simp only [eventLooperMac, edgeTriggered, eventCycleMac, bitMappedEvent_eq_decode]
    split_ifs with h1 h2 <;> simp_all

theorem eventLooperLinux_eq (B : ModemBits) (cs : List (Int × Ioctl)) :
    eventLooperLinux B cs =
      (cs.filter fun c => 0 ≤ c.1 ∧ 0 ≤ c.2.ret).map fun c => decode B c.2.value := by
  induction cs with
  | nil => rfl
  | cons c cs ih =>
    simp only [eventLooperLinux, eventCycleLinux, bitMappedEvent_eq_decode, ih, List.filter_cons]
    split_ifs <;> simp_all <;> omega

/-- The values `event_looper` passes to `insertInEventQueue` over any sequence of cycles: on
macOS the decoded words of the successful cycles that differ from the previous successful
cycle's (0 before the first), on Linux the decoded word of every cycle in which both `ioctl`
calls succeed. -/
theorem eventLooper_delivers (B : ModemBits) :
    (∀ cs, eventLooperMac B 0 cs = edgeTriggered B 0 cs) ∧
      ∀ cs, eventLooperLinux B cs =
        (cs.filter fun c => 0 ≤ c.1 ∧ 0 ≤ c.2.ret).map fun c => decode B c.2.value :=
  ⟨eventLooperMac_eq_edgeTriggered B 0, eventLooperLinux_eq B⟩

end SerialComm.Unix
