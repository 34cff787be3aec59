import Mathlib.Data.List.Basic
import Mathlib.Algebra.Group.Int

/-!
# The device control block of a Windows port

Every function of windows_serial.c that configures a port reads the port's `DCB` with
`GetCommState` and changes some of its members: `openComPort` puts the port in 9600 8N1 with
no flow control, `configureComPortData` sets baud rate, data bits, stop bits and parity,
`configureComPortControl` sets the flow control. `getCurrentConfigurationW` prints the DCB as
28 strings. Here each of these is a function of the DCB; whether the result reaches the
driver, through `SetCommState`, is the business of `Windows.Port`.

The constants are those of winbase.h.
-/

namespace SerialComm.Windows

/-- The members of a `DCB` the library reads or writes, in their C types: `DWORD` for
`DCBlength` and `BaudRate`, `WORD` for the limits, `BYTE` for `ByteSize`, `Parity` and
`StopBits`, `char` for the special characters, and the one- and two-bit fields. -/
structure Dcb where
  DCBlength : UInt32
  BaudRate : UInt32
  fBinary : Bool
  fParity : Bool
  fOutxCtsFlow : Bool
  fOutxDsrFlow : Bool
  fDtrControl : Fin 4
  fDsrSensitivity : Bool
  fTXContinueOnXoff : Bool
  fOutX : Bool
  fInX : Bool
  fErrorChar : Bool
  fNull : Bool
  fRtsControl : Fin 4
  fAbortOnError : Bool
  XonLim : UInt16
  XoffLim : UInt16
  ByteSize : UInt8
  Parity : UInt8
  StopBits : UInt8
  XonChar : UInt8
  XoffChar : UInt8
  ErrorChar : UInt8
  EofChar : UInt8
  EvtChar : UInt8
  deriving DecidableEq, Repr, Inhabited

-- ---------------------------------------------------------------------------
-- winbase.h
-- ---------------------------------------------------------------------------

def DTR_CONTROL_DISABLE : Fin 4 := 0
def DTR_CONTROL_ENABLE : Fin 4 := 1
def DTR_CONTROL_HANDSHAKE : Fin 4 := 2
def RTS_CONTROL_DISABLE : Fin 4 := 0
def RTS_CONTROL_HANDSHAKE : Fin 4 := 2
def RTS_CONTROL_TOGGLE : Fin 4 := 3
def NOPARITY : UInt8 := 0
def ODDPARITY : UInt8 := 1
def EVENPARITY : UInt8 := 2
def MARKPARITY : UInt8 := 3
def SPACEPARITY : UInt8 := 4
def ONESTOPBIT : UInt8 := 0
def ONE5STOPBITS : UInt8 := 1
def TWOSTOPBITS : UInt8 := 2
def CBR_9600 : UInt32 := 9600

-- ---------------------------------------------------------------------------
-- openComPort
-- ---------------------------------------------------------------------------

/-- The settings `openComPort` writes over the DCB it read: "9600 8N1 setting, no flow
control". `fParity`, `ErrorChar`, `EofChar` and `EvtChar` keep what the port had. -/
def Dcb.openSettings (dcb : Dcb) : Dcb :=
  { dcb with
    BaudRate := CBR_9600
    ByteSize := 8
    Parity := NOPARITY
    StopBits := ONESTOPBIT
    fBinary := true
    fOutxCtsFlow := false
    fOutxDsrFlow := false
    fDtrControl := DTR_CONTROL_DISABLE
    fDsrSensitivity := false
    fTXContinueOnXoff := true
    fOutX := false
    fInX := false
    fErrorChar := false
    fRtsControl := RTS_CONTROL_DISABLE
    fAbortOnError := false
    XonLim := 1
    XoffLim := 1
    XonChar := 0x11
    XoffChar := 0x13
    fNull := false }

/-- The members `openComPort` sets besides the data format, at the values it sets them to:
no hardware or software flow control, DTR and RTS disabled, binary mode, no error
replacement, null bytes kept, no abort on error. -/
def Dcb.OpenControl (dcb : Dcb) : Prop :=
  dcb.fBinary = true ∧ dcb.fOutxCtsFlow = false ∧ dcb.fOutxDsrFlow = false ∧
    dcb.fDtrControl = DTR_CONTROL_DISABLE ∧ dcb.fDsrSensitivity = false ∧
    dcb.fTXContinueOnXoff = true ∧ dcb.fOutX = false ∧ dcb.fInX = false ∧
    dcb.fErrorChar = false ∧ dcb.fRtsControl = RTS_CONTROL_DISABLE ∧
    dcb.fAbortOnError = false ∧ dcb.XonLim = 1 ∧ dcb.XoffLim = 1 ∧ dcb.XonChar = 0x11 ∧
    dcb.XoffChar = 0x13 ∧ dcb.fNull = false

instance (dcb : Dcb) : Decidable dcb.OpenControl :=
  inferInstanceAs (Decidable (_ ∧ _))

theorem Dcb.openSettings_openControl (dcb : Dcb) : dcb.openSettings.OpenControl := by
  simp [Dcb.openSettings, Dcb.OpenControl]

/-- The members `configureComPortData` writes: the data format. -/
structure DataFormat where
  BaudRate : UInt32
  fParity : Bool
  ByteSize : UInt8
  Parity : UInt8
  StopBits : UInt8
  deriving DecidableEq, Repr

def Dcb.dataFormat (dcb : Dcb) : DataFormat :=
  ⟨dcb.BaudRate, dcb.fParity, dcb.ByteSize, dcb.Parity, dcb.StopBits⟩

def Dcb.withDataFormat (dcb : Dcb) (f : DataFormat) : Dcb :=
  { dcb with
    BaudRate := f.BaudRate
    fParity := f.fParity
    ByteSize := f.ByteSize
    Parity := f.Parity
    StopBits := f.StopBits }

@[simp] theorem Dcb.withDataFormat_withDataFormat (dcb : Dcb) (f g : DataFormat) :
    (dcb.withDataFormat f).withDataFormat g = dcb.withDataFormat g := rfl

@[simp] theorem Dcb.withDataFormat_dataFormat (dcb : Dcb) : dcb.withDataFormat dcb.dataFormat = dcb :=
  rfl

@[simp] theorem Dcb.withDataFormat_openControl (dcb : Dcb) (f : DataFormat) :
    (dcb.withDataFormat f).OpenControl ↔ dcb.OpenControl := Iff.rfl

-- ---------------------------------------------------------------------------
-- configureComPortData
-- ---------------------------------------------------------------------------

/-- The cases of `switch(baudRateTranslated)` that select a rate: the code and its `CBR_*`. -/
def baudRates : List (Int × UInt32) :=
  [(4, 110), (8, 300), (9, 600), (10, 1200), (12, 2400), (13, 4800), (14, 9600), (14400, 14400),
    (15, 19200), (16, 38400), (17, 57600), (18, 115200), (128000, 128000), (256000, 256000)]

def unsupportedBauds : List Int :=
  [1, 2, 3, 5, 6, 7, 11, 19, 20, 21, 22, 23, 24, 25, 26, 27, 28, 29, 30, 31]

def dwordMinusOne : UInt32 := 0xFFFFFFFF

/-- The baud code's translation: the rate, or the message printed before `return -EINVAL`. The
code 251 stands for a non-standard rate. -/
def translateBaud (baudRateTranslated : Int) : Except String UInt32 :=
  if baudRateTranslated = 251 then
    .error "Non-standard baud rates are not supported by Windows OS platform."
  else if baudRateTranslated ∈ unsupportedBauds then
    .error "This baud rate is not supported by this OS platform."
  else .ok ((baudRates.lookup baudRateTranslated).getD dwordMinusOne)

def toByte (n : Int) : UInt8 := UInt8.ofNat (n % 256).toNat

/-- `/* Set stop bits. */`: codes 1, 4 and 2; any other code leaves `StopBits` as it was. -/
def Dcb.setStopBits (dcb : Dcb) (stopBits : Int) : Dcb :=
  if stopBits = 1 then { dcb with StopBits := ONESTOPBIT }
  else if stopBits = 4 then { dcb with StopBits := ONE5STOPBITS }
  else if stopBits = 2 then { dcb with StopBits := TWOSTOPBITS }
  else dcb

/-- `/* Set parity */`: `fParity` is set for every code but 1, and codes 1 to 5 choose the
parity; any other code leaves `Parity` as it was. -/
def Dcb.setParity (dcb : Dcb) (parity : Int) : Dcb :=
  let dcb := { dcb with fParity := true }
  if parity = 1 then { dcb with fParity := false, Parity := NOPARITY }
  else if parity = 2 then { dcb with Parity := ODDPARITY }
  else if parity = 3 then { dcb with Parity := EVENPARITY }
  else if parity = 4 then { dcb with Parity := MARKPARITY }
  else if parity = 5 then { dcb with Parity := SPACEPARITY }
  else dcb

/-- The members `configureComPortData` sets once the baud code was accepted. -/
def Dcb.setData (dcb : Dcb) (baud : UInt32) (dataBits stopBits parity : Int) : Dcb :=
  (({ dcb with BaudRate := baud, ByteSize := toByte dataBits } : Dcb).setStopBits stopBits).setParity
    parity

theorem Dcb.setStopBits_eq (dcb : Dcb) (stopBits : Int) :
    dcb.setStopBits stopBits = dcb.withDataFormat (dcb.setStopBits stopBits).dataFormat := by
  unfold Dcb.setStopBits
  simp only [apply_ite Dcb.dataFormat, apply_ite (Dcb.withDataFormat dcb)]
  rfl

theorem Dcb.setParity_eq (dcb : Dcb) (parity : Int) :
    dcb.setParity parity = dcb.withDataFormat (dcb.setParity parity).dataFormat := by
  unfold Dcb.setParity
  simp only [apply_ite Dcb.dataFormat, apply_ite (Dcb.withDataFormat dcb)]
  rfl

theorem Dcb.setData_eq (dcb : Dcb) (baud : UInt32) (dataBits stopBits parity : Int) :
    dcb.setData baud dataBits stopBits parity =
      dcb.withDataFormat (dcb.setData baud dataBits stopBits parity).dataFormat := by
  unfold Dcb.setData
  rw [Dcb.setParity_eq, Dcb.setStopBits_eq]
  rfl

-- ---------------------------------------------------------------------------
-- configureComPortControl
-- ---------------------------------------------------------------------------

/-- The flow control `configureComPortControl` writes into the DCB it read: none (1), hardware
(2) or software (3) with the given XON and XOFF characters; other codes change nothing. -/
def Dcb.setFlowControl (dcb : Dcb) (flowctrl : Int) (xon xoff : UInt16) : Dcb :=
  if flowctrl = 1 then
    { dcb with
      fOutX := false
      fInX := false
      fOutxCtsFlow := false
      fOutxDsrFlow := false
      fDsrSensitivity := false
      fDtrControl := DTR_CONTROL_DISABLE
      fRtsControl := RTS_CONTROL_DISABLE }
  else if flowctrl = 2 then
    { dcb with
      fOutX := false
      fInX := false
      fOutxCtsFlow := true
      fOutxDsrFlow := true
      fDsrSensitivity := true
      fRtsControl := RTS_CONTROL_HANDSHAKE
      fDtrControl := DTR_CONTROL_HANDSHAKE }
  else if flowctrl = 3 then
    { dcb with
      fOutX := true
      fInX := true
      fOutxCtsFlow := false
      fOutxDsrFlow := false
      fDsrSensitivity := false
      fDtrControl := DTR_CONTROL_DISABLE
      fRtsControl := RTS_CONTROL_DISABLE
      XonChar := xon.toUInt8
      XoffChar := xoff.toUInt8
      XonLim := 2048
      XoffLim := 512 }
  else dcb

-- ---------------------------------------------------------------------------
-- getCurrentConfigurationW
-- ---------------------------------------------------------------------------

def numEntry (label : String) (v : Nat) : String := label ++ toString v ++ "\n"

def boolEntry (label : String) (b : Bool) : String := label ++ if b then "TRUE" else "FALSE"

/-- As `numEntry` with `"%lc"`: `lc` is the C library's conversion of a character in the
current locale. -/
def charEntry (lc : UInt8 → String) (label : String) (c : UInt8) : String :=
  label ++ lc c ++ "\n"

def dtrEntry (v : Fin 4) : String :=
  "fDtrControl : " ++
    if v = DTR_CONTROL_DISABLE then "DTR_CONTROL_DISABLE"
    else if v = DTR_CONTROL_ENABLE then "DTR_CONTROL_ENABLE"
    else if v = DTR_CONTROL_HANDSHAKE then "DTR_CONTROL_HANDSHAKE"
    else ""

/-- The `fRtsControl` entry, which tests the value against the `DTR_CONTROL_*` constants and
then `RTS_CONTROL_TOGGLE`. -/
def rtsEntry (v : Fin 4) : String :=
  "fRtsControl : " ++
    if v = DTR_CONTROL_DISABLE then "RTS_CONTROL_DISABLE"
    else if v = DTR_CONTROL_ENABLE then "RTS_CONTROL_ENABLE"
    else if v = DTR_CONTROL_HANDSHAKE then "RTS_CONTROL_HANDSHAKE"
    else if v = RTS_CONTROL_TOGGLE then "RTS_CONTROL_TOGGLE"
    else ""

/-- The 28 strings `getCurrentConfigurationW` puts in `current_config`, in order. Entry 25, for
`EofChar`, is built on `dcbsb`, the label of `StopBits`. -/
def configStrings (lc : UInt8 → String) (dcb : Dcb) : List String :=
  [numEntry "DCBlength : " dcb.DCBlength.toNat,
    numEntry "BaudRate : " dcb.BaudRate.toNat,
    boolEntry "fBinary : " dcb.fBinary,
    boolEntry "fParity : " dcb.fParity,
    boolEntry "fOutxCtsFlow : " dcb.fOutxCtsFlow,
    boolEntry "fOutxDsrFlow : " dcb.fOutxDsrFlow,
    dtrEntry dcb.fDtrControl,
    boolEntry "fDsrSensitivity : " dcb.fDsrSensitivity,
    boolEntry "fTXContinueOnXoff : " dcb.fTXContinueOnXoff,
    boolEntry "fOutX : " dcb.fOutX,
    boolEntry "fInX : " dcb.fInX,
    boolEntry "fErrorChar : " dcb.fErrorChar,
    boolEntry "fNull : " dcb.fNull,
    rtsEntry dcb.fRtsControl,
    boolEntry "fAbortOnError : " dcb.fAbortOnError,
    "fDummy2 : NA",
    "wReserved : NA",
    numEntry "XonLim : " dcb.XonLim.toNat,
    numEntry "XoffLim : " dcb.XoffLim.toNat,
    numEntry "ByteSize : " dcb.ByteSize.toNat,
    numEntry "Parity : " dcb.Parity.toNat,
    numEntry "StopBits : " dcb.StopBits.toNat,
    charEntry lc "XonChar : " dcb.XonChar,
    charEntry lc "XoffChar : " dcb.XoffChar,
    charEntry lc "ErrorChar : " dcb.ErrorChar,
    charEntry lc "StopBits : " dcb.EofChar,
    charEntry lc "EvtChar : " dcb.EvtChar,
    "wReserved1 : NA"]

/-- A new data format changes the BaudRate, fParity, ByteSize, Parity and StopBits entries and no
other. -/
theorem configStrings_withDataFormat (lc : UInt8 → String) (dcb : Dcb) (f : DataFormat) :
    configStrings lc (dcb.withDataFormat f) =
      (((((configStrings lc dcb).set 1 (numEntry "BaudRate : " f.BaudRate.toNat)).set 3
        (boolEntry "fParity : " f.fParity)).set 19 (numEntry "ByteSize : " f.ByteSize.toNat)).set 20
        (numEntry "Parity : " f.Parity.toNat)).set 21 (numEntry "StopBits : " f.StopBits.toNat) :=
  rfl

end SerialComm.Windows
