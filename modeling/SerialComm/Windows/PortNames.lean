import Mathlib.Data.List.Basic
import Mathlib.Algebra.Group.Int

/-!
# Enumerating the serial ports on Windows

`getSerialPortNames` (windows_serial.c) opens `HKEY_LOCAL_MACHINE\HARDWARE\DEVICEMAP\SERIALCOMM`,
counts the key's values with `RegEnumValueA` in a `while` loop, makes an array of that many
strings and fills it from the values' data in a `for` loop.

Three of its locals are never initialised: `count`, where the counting loop starts; `lpcbData`,
the size of the data buffer the filling loop passes; and `name_of_value`, whose address both
loops pass as `lpcchValueName`, so that its first four bytes are the size of the name buffer.
`RegEnumValueA` reads that size and, on success, writes back the name's length without its final
zero. Nothing resets it, so once a value has been enumerated only a strictly shorter name fits.
The filling loop `for(i=0; i<count; count++)` increments `count`, not `i`.
-/

namespace SerialComm.Windows

structure RegValue where
  name : String
  data : String
  deriving DecidableEq, Repr

/-- The values of the `SERIALCOMM` key in the order `RegEnumValueA` enumerates them.
`RegQueryInfoKey` counts a key's values in a `DWORD`, so there are fewer than `2^32`. -/
structure SerialCommKey where
  values : List RegValue
  length_lt : values.length < 2 ^ 32

def ERROR_FILE_NOT_FOUND : Int := 2

def ERROR_ACCESS_DENIED : Int := 5

def ERROR_MORE_DATA : Int := 234

def ERROR_NO_MORE_ITEMS : Int := 259

inductive RegStatus where
  | success (data : String)
  | moreData
  | noMoreItems
  deriving DecidableEq, Repr

def RegStatus.code : RegStatus → Int
  | .success _ => 0
  | .moreData => ERROR_MORE_DATA
  | .noMoreItems => ERROR_NO_MORE_ITEMS

def nameLength (name : String) : Nat := name.utf8ByteSize

def dataSize (data : String) : Nat := data.utf8ByteSize + 1

/-- `RegEnumValueA(phkey, index, name_of_value, lpcchValueName, NULL, NULL, lpData, lpcbData)`
from `*lpcchValueName` and `*lpcbData` (`none` when the data and its size are `NULL`, as in the
counting loop): the status, and `*lpcchValueName` after the call. The name must fit with its
zero; a successful call stores the name's length. -/
def regEnumValueA (key : SerialCommKey) (index lpcchValueName : Nat) (lpcbData : Option Nat) :
    RegStatus × Nat :=
  match key.values[index]? with
  | none => (.noMoreItems, lpcchValueName)
  | some v =>
    if nameLength v.name < lpcchValueName then
      match lpcbData with
      | none => (.success v.data, nameLength v.name)
      | some size =>
        if dataSize v.data ≤ size then (.success v.data, nameLength v.name)
        else (.moreData, lpcchValueName)
    else (.moreData, lpcchValueName)

def fprintfS (s : String) : String := s ++ " \n"

def fprintfSLd (s : String) (n : Int) : String := s ++ " " ++ toString n ++ " \n"

def openFailed (result : Int) : String :=
  if result = ERROR_FILE_NOT_FOUND then
    fprintfS "NATIVE getSerialPortNames() failed to open registry key with ERROR_FILE_NOT_FOUND !"
  else if result = ERROR_ACCESS_DENIED then
    fprintfS "NATIVE getSerialPortNames() failed to open registry key with ERROR_ACCESS_DENIED !"
  else
    fprintfSLd "NATIVE getSerialPortNames() failed to open registry key with error number " result

-- ---------------------------------------------------------------------------
-- DWORD arithmetic and the registry
-- ---------------------------------------------------------------------------

theorem toNat_add_one (c : UInt32) : (c + 1).toNat = (c.toNat + 1) % 2 ^ 32 := by
  simp [UInt32.add_def, UInt32.toNat]

theorem zero_lt_toNat {c : UInt32} : 0 < c ↔ 0 < c.toNat := by
  simp [UInt32.lt_def, BitVec.lt_def, UInt32.toNat]

section
variable {key : SerialCommKey} {index size : Nat} {v : RegValue}

theorem regEnumValueA_lt {lpcbData : Option Nat} {data : String}
    (h : (regEnumValueA key index size lpcbData).1 = .success data) : index < key.values.length := by
  by_contra hn
  simp [regEnumValueA, List.getElem?_eq_none (Nat.le_of_not_lt hn)] at h

theorem regEnumValueA_fits (hv : key.values[index]? = some v) (hs : nameLength v.name < size) :
    regEnumValueA key index size none = (.success v.data, nameLength v.name) := by
  simp [regEnumValueA, hv, hs]

theorem regEnumValueA_too_long {lpcbData : Option Nat} (hv : key.values[index]? = some v)
    (hs : size ≤ nameLength v.name) :
    regEnumValueA key index size lpcbData = (.moreData, size) := by
  simp [regEnumValueA, hv, Nat.not_lt.mpr hs]

theorem regEnumValueA_size_le {lpcbData : Option Nat} :
    (regEnumValueA key index size lpcbData).2 ≤ size := by
  unfold regEnumValueA
  split
  · exact le_rfl
  · split_ifs with h
    · split
      · exact Nat.le_of_lt h
      · split_ifs <;> first | exact Nat.le_of_lt h | exact le_rfl
    · exact le_rfl

end

/-- `while(more_entires) { result = RegEnumValueA(phkey, count, …, NULL, NULL); … }` from the
values `count` and the name size hold: the count and the name size it ends with, and the
indices it asks for. Any code but `ERROR_SUCCESS` ends the loop. -/
def countLoop (key : SerialCommKey) (count : UInt32) (lpcchValueName : Nat) :
    UInt32 × Nat × List Nat :=
  match h : regEnumValueA key count.toNat lpcchValueName none with
  | (.success _, n) =>
    let r := countLoop key (count + 1) n
    (r.1, r.2.1, count.toNat :: r.2.2)
  | (_, n) => (count, n, [count.toNat])
termination_by key.values.length - count.toNat
decreasing_by
  have := regEnumValueA_lt (congrArg Prod.fst h)
  have := key.length_lt
  rw [toNat_add_one]
  omega

/-- `for(i=0; i<count; count++) { result = RegEnumValueA(phkey, i, …, lpData, &lpcbData); … }`
from the array, the two sizes and `count` it is entered with: the array (`none` after
`return NULL`), the indices asked for and what is printed. A successful call leaves the data's
size in `lpcbData`. The loop stops when `count` wraps round to `i`'s value or below. -/
def fillLoop (key : SerialCommKey) (i : Nat) (portsFound : List (Option String))
    (lpcchValueName lpcbData : Nat) (count : UInt32) :
    Option (List (Option String)) × List Nat × List String :=
  if i < count.toNat then
    match regEnumValueA key i lpcchValueName (some lpcbData) with
    | (.success data, n) =>
      let r := fillLoop key i (portsFound.set i (some data)) n (dataSize data) (count + 1)
      (r.1, i :: r.2.1, r.2.2)
    | (.moreData, _) =>
      (none, [i], [fprintfS
        "NATIVE getSerialPortNames() failed to read registry value with ERROR_MORE_DATA !"])
    | (s, _) =>
      (none, [i], [fprintfSLd
        "NATIVE getSerialPortNames() failed to read registry value with error number " s.code])
  else (some portsFound, [], [])
termination_by (2 ^ 32 - count.toNat) % 2 ^ 32
decreasing_by
  have := count.toNat_lt_size
  simp only [UInt32.size] at this
  rw [toNat_add_one]
  omega

/-- What a call of `getSerialPortNames` does: the array it returns (`none` is `NULL`, an element
`none` a null reference), the indices `RegEnumValueA` is asked for by each loop, whether
`RegCloseKey` is called, and what is printed on stderr. -/
structure PortNames where
  portsFound : Option (List (Option String))
  countCalls : List Nat
  fillCalls : List Nat
  regCloseKey : Bool
  stderr : List String
  deriving Repr

/-- `getSerialPortNames`, from what `RegOpenKeyEx` gives (the opened key, or its error code)
and the values the uninitialised `count`, `name_of_value` (its first four bytes, read as the
name size) and `lpcbData` hold. `NewObjectArray(count, …)` makes `count` null elements. -/
def getSerialPortNames (opened : Except Int SerialCommKey) (count nameOfValue lpcbData : UInt32) :
    PortNames :=
  match opened with
  | .error result => ⟨none, [], [], false, [openFailed result]⟩
  | .ok key =>
    let counted := countLoop key count nameOfValue.toNat
    if 0 < counted.1 then
      let filled := fillLoop key 0 (List.replicate counted.1.toNat none) counted.2.1
        lpcbData.toNat counted.1
      ⟨filled.1, counted.2.2, filled.2.1, filled.1.isSome, filled.2.2⟩
    else ⟨none, counted.2.2, [], true, []⟩

-- ---------------------------------------------------------------------------
-- The two loops
-- ---------------------------------------------------------------------------

/-- The counting loop counts up from where `count` started, to at most the number of values,
asks for every index from its start up to the one that failed, and never makes the name size
larger. -/
theorem countLoop_spec (key : SerialCommKey) (count : UInt32) (size : Nat) :
    count.toNat ≤ (countLoop key count size).1.toNat ∧
      (countLoop key count size).1.toNat ≤ max count.toNat key.values.length ∧
      (countLoop key count size).2.1 ≤ size ∧
      (countLoop key count size).2.2 =
        List.range' count.toNat ((countLoop key count size).1.toNat - count.toNat + 1) := by
  induction count, size using countLoop.induct key with
  | case1 c s data n h ih =>
    have hlt := regEnumValueA_lt (congrArg Prod.fst h)
    have hc : (c + 1).toNat = c.toNat + 1 := by
      rw [toNat_add_one]; have := key.length_lt; omega
    have hn : n ≤ s := by simpa only [h] using @regEnumValueA_size_le key c.toNat s none
    rw [countLoop.eq_1]
    split
    · next heq =>
      rw [h] at heq
      obtain ⟨-, rfl⟩ := Prod.mk.inj heq
      rw [hc] at ih
      obtain ⟨ih1, ih2, ih3, ih4⟩ := ih
      refine ⟨by dsimp only; omega, by dsimp only; omega, by dsimp only; omega, ?_⟩
      dsimp only
      rw [ih4, show (countLoop key (c + 1) n).1.toNat - c.toNat + 1 =
        ((countLoop key (c + 1) n).1.toNat - (c.toNat + 1) + 1) + 1 by omega]
      rfl
    · next hne => simp_all
  | case2 c s st n hst h =>
    have hn : n ≤ s := by simpa only [h] using @regEnumValueA_size_le key c.toNat s none
    rw [countLoop.eq_1]
    split
    · next heq =>
      rw [h] at heq
      exact absurd (Prod.mk.inj heq).1 (hst _)
    · exact ⟨le_rfl, le_max_left _ _, by simp_all, by simp⟩

theorem countLoop_zero (key : SerialCommKey) (v : RegValue) (rest : List RegValue)
    (hkey : key.values = v :: rest) (size : Nat) :
    countLoop key 0 size =
      if nameLength v.name < size then
        let r := countLoop key 1 (nameLength v.name)
        (r.1, r.2.1, 0 :: r.2.2)
      else (0, size, [0]) := by
  have hv : key.values[(0 : UInt32).toNat]? = some v := by simp [hkey]
  rw [countLoop.eq_1]
  split_ifs with hs
  · rw [regEnumValueA_fits hv hs]; rfl
  · rw [regEnumValueA_too_long hv (Nat.le_of_not_lt hs)]; rfl

theorem fillLoop_too_long (key : SerialCommKey) {i : Nat} {v : RegValue}
    (hv : key.values[i]? = some v) (a : List (Option String)) {size : Nat} (cb : Nat)
    (count : UInt32) (hs : size ≤ nameLength v.name) (hi : i < count.toNat) :
    fillLoop key i a size cb count = (none, [i], [fprintfS
      "NATIVE getSerialPortNames() failed to read registry value with ERROR_MORE_DATA !"]) := by
  rw [fillLoop.eq_1, if_pos hi, regEnumValueA_too_long hv hs]

-- ---------------------------------------------------------------------------
-- The whole call
-- ---------------------------------------------------------------------------

/-- From `count = 0` on a key with a value, the call returns `NULL` either way. When the first
value's name does not fit the uninitialised name size, the counting loop stops at once and
the key is closed. Otherwise the count reaches a value whose name is no shorter than the last
one counted, and the filling loop then asks for value 0 with that last name's length, which
value 0's name does not fit: it prints the `ERROR_MORE_DATA` message and returns without
`RegCloseKey`. -/
theorem getSerialPortNames_zero (key : SerialCommKey) (v : RegValue) (rest : List RegValue)
    (hkey : key.values = v :: rest) (nameOfValue lpcbData : UInt32) :
    getSerialPortNames (.ok key) 0 nameOfValue lpcbData =
      if nameLength v.name < nameOfValue.toNat then
        ⟨none, (countLoop key 0 nameOfValue.toNat).2.2, [0], false, [fprintfS
          "NATIVE getSerialPortNames() failed to read registry value with ERROR_MORE_DATA !"]⟩
      else ⟨none, [0], [], true, []⟩ := by
  have hv : key.values[0]? = some v := by simp [hkey]
  obtain ⟨h1, -, h3, -⟩ := countLoop_spec key 1 (nameLength v.name)
  replace h1 : 1 ≤ (countLoop key 1 (nameLength v.name)).1.toNat := h1
  simp only [getSerialPortNames, countLoop_zero key v rest hkey]
  by_cases hs : nameLength v.name < nameOfValue.toNat
  · have hpos : 0 < (countLoop key 1 (nameLength v.name)).1 := zero_lt_toNat.mpr (by omega)
    simp only [hs, if_true, hpos]
    rw [fillLoop_too_long key hv _ _ _ h3 (by omega)]
    rfl
  · simp [hs]

def twoPorts : SerialCommKey :=
  ⟨[⟨"\\Device\\Serial0", "COM1"⟩, ⟨"\\Device\\Serial1", "COM3"⟩], by decide⟩

/-- From `count = 0`, on every key with a value and whatever the name and data sizes hold, the
call returns `NULL` after at most one call more than the key has values in the counting loop
and at most one in the filling loop. -/
theorem getSerialPortNames_null (key : SerialCommKey) (hkey : key.values ≠ [])
    (nameOfValue lpcbData : UInt32) :
    (getSerialPortNames (.ok key) 0 nameOfValue lpcbData).portsFound = none ∧
      (getSerialPortNames (.ok key) 0 nameOfValue lpcbData).countCalls.length ≤
        key.values.length + 1 ∧
      (getSerialPortNames (.ok key) 0 nameOfValue lpcbData).fillCalls.length ≤ 1 := by
  obtain ⟨v, rest, hvs⟩ := List.exists_cons_of_ne_nil hkey
  obtain ⟨-, h2, -, h4⟩ := countLoop_spec key 0 nameOfValue.toNat
  rw [getSerialPortNames_zero key v rest hvs]
  split_ifs
  · simp only [h4, List.length_range', true_and, List.length_singleton, le_refl, and_true]
    simp only [UInt32.toNat_zero, Nat.zero_le, max_eq_right] at h2
    omega
  · simp

theorem getSerialPortNames_twoPorts :
    twoPorts.values ≠ [] ∧
      (getSerialPortNames (.ok twoPorts) 0 512 512).portsFound = none ∧
      (getSerialPortNames (.ok twoPorts) 0 512 512).countCalls.length ≤ twoPorts.values.length + 1 ∧
      (getSerialPortNames (.ok twoPorts) 0 512 512).fillCalls.length ≤ 1 :=
  ⟨by simp [twoPorts], getSerialPortNames_null twoPorts (by simp [twoPorts]) 512 512⟩

end SerialComm.Windows
