import Mathlib.Data.List.Basic

/-!
# The read loop of `data_looper`

`data_looper` (unix_like_serial_lib.c) reads the port in a `do … while(1)` loop each time the
wait reports it readable. A read that returns bytes with `errno == EINTR` is copied into
`final_buf` and the loop reads again; a clean read is handed on, from `buffer` when no partial
read was kept before, from `final_buf` otherwise. `index`, `partialData` and `final_buf` are
locals of the thread, so they carry over from one notification to the next.

`final_buf` starts uninitialised: a cell the loop never wrote reads as `none`. `buffer[i]` is
only read below the count of the read that filled it, so a read outcome's bytes stand for it.
-/

namespace SerialComm.Unix

/-- One outcome of `read(fd, buffer, sizeof(buffer))`: the count, the bytes it put at the
front of `buffer`, and `errno` after the call. -/
structure ReadResult where
  ret : Int
  bytes : List UInt8
  errno : Nat
  ret_le : ret ≤ 1024
  bytes_length : bytes.length = ret.toNat

structure ReadState where
  index : Nat
  partialData : Int
  finalBuf : Nat → Option UInt8

/-- `int index = 0; int partialData = -1;` and an uninitialised `final_buf`. -/
def ReadState.init : ReadState := ⟨0, -1, fun _ => none⟩

/-- `for(i = index; i < ret; i++) final_buf[i] = buffer[i];` -/
def copyPartial (finalBuf : Nat → Option UInt8) (buffer : List UInt8) (index ret : Nat) :
    Nat → Option UInt8 :=
  fun i => if index ≤ i ∧ i < ret then buffer[i]? else finalBuf i

/-- How the read loop is left: `data_available = 1` with `dataRead`, the call of
`insertInDataErrorQueue` with `errno`, or the `ret == 0` break. -/
inductive LoopExit where
  | delivered (dataRead : List (Option UInt8))
  | readError (errno : Nat)
  | noData
  deriving DecidableEq, Repr

def LoopExit.IsDelivered : Option LoopExit → Prop
  | some (.delivered _) => True
  | _ => False

instance : DecidablePred LoopExit.IsDelivered := fun e =>
  match e with
  | some (.delivered _) => isTrue trivial
  | some (.readError _) | some .noData | none => isFalse id

/-- The body of the read loop for one outcome of `read`; `none` is `continue`. -/
def readBody (EINTR : Nat) (st : ReadState) (r : ReadResult) : ReadState × Option LoopExit :=
  if 0 < r.ret ∧ r.errno = 0 then
    if st.partialData = 1 then
      let fb := copyPartial st.finalBuf r.bytes st.index r.ret.toNat
      ({ st with finalBuf := fb },
        some (.delivered ((List.range (st.index + r.ret.toNat)).map fb)))
    else (st, some (.delivered (r.bytes.map some)))
  else if 0 < r.ret ∧ r.errno = EINTR then
    (⟨r.ret.toNat, 1, copyPartial st.finalBuf r.bytes st.index r.ret.toNat⟩, none)
  else if r.ret < 0 then
    if r.errno = EINTR then (st, none) else (st, some (.readError r.errno))
  else if r.ret = 0 then (st, some .noData)
  else (st, none)

/-- The arrays of the read loop: `jbyte buffer[1024]` and `jbyte final_buf[1024 * 3]`. -/
inductive LoopArray where
  | buffer
  | finalBuf
  deriving DecidableEq, Repr

def LoopArray.size : LoopArray → Nat
  | .buffer => 1024
  | .finalBuf => 1024 * 3

/-- An access of the loop body to one of its arrays: one element, read or written, or the
first `len` bytes that `SetByteArrayRegion(env, dataRead, 0, len, a)` reads. -/
inductive Access where
  | elem (a : LoopArray) (i : Nat)
  | region (a : LoopArray) (len : Nat)
  deriving DecidableEq, Repr

def Access.InBounds : Access → Prop
  | .elem a i => i < a.size
  | .region a len => len ≤ a.size

instance : DecidablePred Access.InBounds := fun acc => by
  cases acc <;> unfold Access.InBounds <;> infer_instance

def AccessesInBounds (accs : List Access) : Prop := ∀ acc ∈ accs, acc.InBounds

def copyAccesses (index ret : Nat) : List Access :=
  (List.range' index (ret - index)).flatMap fun i => [.elem .buffer i, .elem .finalBuf i]

/-- The accesses of the body for one outcome of `read`, in the branches of `readBody`: the copy
of a partial read, and the region `SetByteArrayRegion` reads after a clean one, `index + ret`
bytes of `final_buf` or `ret` bytes of `buffer`. -/
def bodyAccesses (EINTR : Nat) (st : ReadState) (r : ReadResult) : List Access :=
  if 0 < r.ret ∧ r.errno = 0 then
    if st.partialData = 1 then
      copyAccesses st.index r.ret.toNat ++ [.region .finalBuf (st.index + r.ret.toNat)]
    else [.region .buffer r.ret.toNat]
  else if 0 < r.ret ∧ r.errno = EINTR then copyAccesses st.index r.ret.toNat
  else []

/-- The `do { … } while(1)` loop over the outcomes of successive reads. It returns the state,
how the loop was left, and the outcomes it did not consume; `none` means the outcomes ran out
while the loop was still reading. -/
def readLoop (EINTR : Nat) : ReadState → List ReadResult →
    ReadState × Option LoopExit × List ReadResult
  | st, [] => (st, none, [])
  | st, r :: rs =>
    match readBody EINTR st r with
    | (st', some e) => (st', some e, rs)
    | (st', none) => readLoop EINTR st' rs

/-- The locals after the loop body has run on each of `reads` in turn. Nothing else writes
them between two runs of the read loop, so this is also their value across notifications. -/
def readThrough (EINTR : Nat) (st : ReadState) (reads : List ReadResult) : ReadState :=
  reads.foldl (fun st r => (readBody EINTR st r).1) st

def readsAccesses (EINTR : Nat) : ReadState → List ReadResult → List Access
  | _, [] => []
  | st, r :: rs => bodyAccesses EINTR st r ++ readsAccesses EINTR (readBody EINTR st r).1 rs

-- ---------------------------------------------------------------------------
-- The loop body, case by case
-- ---------------------------------------------------------------------------

section
variable {EINTR : Nat} {st : ReadState} {r : ReadResult}

def ReadResult.Clean (r : ReadResult) : Prop := 0 < r.ret ∧ r.errno = 0

instance (r : ReadResult) : Decidable r.Clean := inferInstanceAs (Decidable (_ ∧ _))

theorem readBody_clean (h : r.Clean) :
    readBody EINTR st r =
      if st.partialData = 1 then
        ({ st with finalBuf := copyPartial st.finalBuf r.bytes st.index r.ret.toNat },
          some (.delivered ((List.range (st.index + r.ret.toNat)).map
            (copyPartial st.finalBuf r.bytes st.index r.ret.toNat))))
      else (st, some (.delivered (r.bytes.map some))) := by
  simp [readBody, h.1, h.2]

theorem readBody_delivered (h : readBody EINTR st r = (st', some (.delivered d))) : r.Clean := by
  unfold readBody at h
  by_contra hc
  simp only [ReadResult.Clean] at hc
  simp only [hc, ↓reduceIte] at h
  split_ifs at h <;> simp at h

theorem readBody_delivered_iff (EINTR : Nat) (st : ReadState) (r : ReadResult) :
    LoopExit.IsDelivered (readBody EINTR st r).2 ↔ r.Clean := by
  refine ⟨fun h => ?_, fun h => ?_⟩
  · rcases hb : readBody EINTR st r with ⟨st', _ | _ | _ | _⟩ <;> rw [hb] at h
    exacts [h.elim, readBody_delivered hb, h.elim, h.elim]
  · rw [readBody_clean h]; split <;> trivial

/-- The outcomes after which the body leaves the loop: a clean read, a failed read that no
signal interrupted, and end of file. -/
def ReadResult.EndsLoop (EINTR : Nat) (r : ReadResult) : Prop :=
  r.Clean ∨ r.ret < 0 ∧ r.errno ≠ EINTR ∨ r.ret = 0

instance (EINTR : Nat) (r : ReadResult) : Decidable (r.EndsLoop EINTR) :=
  inferInstanceAs (Decidable (_ ∨ _))

theorem readBody_ends_iff (EINTR : Nat) (st : ReadState) (r : ReadResult) :
    (readBody EINTR st r).2.isSome ↔ r.EndsLoop EINTR := by
  unfold readBody ReadResult.EndsLoop ReadResult.Clean
  split_ifs <;> simp only [Option.isSome_some, Option.isSome_none, Bool.false_eq_true, true_iff,
    false_iff] <;> omega

end

-- ---------------------------------------------------------------------------
-- The loop
-- ---------------------------------------------------------------------------

@[simp] theorem readLoop_nil (EINTR : Nat) (st : ReadState) :
    readLoop EINTR st [] = (st, none, []) := rfl

theorem readLoop_cons (EINTR : Nat) (st : ReadState) (r : ReadResult) (rs : List ReadResult) :
    readLoop EINTR st (r :: rs) =
      match readBody EINTR st r with
      | (st', some e) => (st', some e, rs)
      | (st', none) => readLoop EINTR st' rs := rfl

/-- The loop takes the outcomes up to the first clean read when it delivers, and only outcomes
that are not clean reads otherwise. -/
theorem readLoop_consumes (EINTR : Nat) (st : ReadState) (reads : List ReadResult) :
    ∃ used, reads = used ++ (readLoop EINTR st reads).2.2 ∧
      if LoopExit.IsDelivered (readLoop EINTR st reads).2.1 then
        ∃ pre r, used = pre ++ [r] ∧ r.Clean ∧ ∀ x ∈ pre, ¬ x.Clean
      else ∀ x ∈ used, ¬ x.Clean := by
  induction reads generalizing st with
  | nil => exact ⟨[], rfl, by simp [LoopExit.IsDelivered]⟩
  | cons r rs ih =>
    have hr := readBody_delivered_iff EINTR st r
    rw [readLoop_cons]
    rcases hb : readBody EINTR st r with ⟨st', _ | e⟩
    · obtain ⟨used, hu, hc⟩ := ih st'
      have hr : ¬ r.Clean := by simpa [hb, LoopExit.IsDelivered] using hr
      refine ⟨r :: used, by simp only [List.cons_append, ← hu], ?_⟩
      split_ifs at hc ⊢
      · obtain ⟨pre, x, rfl, hx, hpre⟩ := hc
        exact ⟨r :: pre, x, rfl, hx, List.forall_mem_cons.mpr ⟨hr, hpre⟩⟩
      · exact List.forall_mem_cons.mpr ⟨hr, hc⟩
    · rw [hb] at hr
      refine ⟨[r], rfl, ?_⟩
      split_ifs with hd
      · exact ⟨[], r, rfl, hr.mp hd, List.forall_mem_nil _⟩
      · simpa using mt hr.mpr hd

/-- The loop stops at the first outcome that ends it, or reads all the outcomes when none
does. -/
theorem readLoop_countP_ends (EINTR : Nat) (st : ReadState) (reads : List ReadResult) :
    reads.countP (fun r => decide (r.EndsLoop EINTR)) =
      if (readLoop EINTR st reads).2.1.isSome then
        (readLoop EINTR st reads).2.2.countP (fun r => decide (r.EndsLoop EINTR)) + 1
      else 0 := by
  induction reads generalizing st with
  | nil => rfl
  | cons r rs ih =>
    have hr := readBody_ends_iff EINTR st r
    rw [readLoop_cons]
    rcases hb : readBody EINTR st r with ⟨st', _ | e⟩
    · rw [hb] at hr
      simp only [List.countP_cons, ← ih st', decide_eq_true_eq, ← hr]
      simp
    · rw [hb] at hr
      simp [List.countP_cons, ← hr]

theorem readThrough_append (EINTR : Nat) (st : ReadState) (used rest : List ReadResult) :
    readThrough EINTR st (used ++ rest) = readThrough EINTR (readThrough EINTR st used) rest :=
  List.foldl_append _ _ _ _

theorem readLoop_readThrough (EINTR : Nat) (st : ReadState) (reads : List ReadResult) :
    ∃ used, reads = used ++ (readLoop EINTR st reads).2.2 ∧
      (readLoop EINTR st reads).1 = readThrough EINTR st used := by
  induction reads generalizing st with
  | nil => exact ⟨[], rfl, rfl⟩
  | cons r rs ih =>
    rw [readLoop_cons]
    rcases hb : readBody EINTR st r with ⟨st', _ | e⟩
    · obtain ⟨used, hu, hs⟩ := ih st'
      exact ⟨r :: used, by simp only [List.cons_append, ← hu],
        by simp only [hs, readThrough, List.foldl_cons, hb]⟩
    · exact ⟨[r], rfl, by simp [readThrough, hb]⟩

-- ---------------------------------------------------------------------------
-- Bounds of the arrays
-- ---------------------------------------------------------------------------

theorem ReadResult.ret_toNat_le (r : ReadResult) : r.ret.toNat ≤ 1024 := by
  have := r.ret_le
  omega

theorem copyAccesses_inBounds {index ret : Nat} (h : ret ≤ 1024) :
    AccessesInBounds (copyAccesses index ret) := by
  intro acc hacc
  simp only [copyAccesses, List.mem_flatMap, List.mem_range', List.mem_cons,
    List.mem_singleton, List.not_mem_nil, or_false] at hacc
  obtain ⟨i, ⟨k, hk, rfl⟩, rfl | rfl⟩ := hacc <;>
    simp only [Access.InBounds, LoopArray.size] <;> omega

theorem bodyAccesses_inBounds (EINTR : Nat) {st : ReadState} (h : st.index ≤ 1024)
    (r : ReadResult) : AccessesInBounds (bodyAccesses EINTR st r) := by
  have hr := r.ret_toNat_le
  have hcopy : AccessesInBounds (copyAccesses st.index r.ret.toNat) := copyAccesses_inBounds hr
  unfold bodyAccesses
  split_ifs <;> simp only [AccessesInBounds, List.forall_mem_append, List.forall_mem_singleton,
    List.forall_mem_nil, Access.InBounds, LoopArray.size] at hcopy ⊢
  exacts [⟨hcopy, by omega⟩, hr, hcopy, List.forall_mem_nil _]

theorem readBody_index_le (EINTR : Nat) {st : ReadState} (h : st.index ≤ 1024) (r : ReadResult) :
    (readBody EINTR st r).1.index ≤ 1024 := by
  unfold readBody
  split_ifs <;> first | exact h | exact r.ret_toNat_le

theorem readThrough_index_le (EINTR : Nat) {st : ReadState} (h : st.index ≤ 1024)
    (reads : List ReadResult) : (readThrough EINTR st reads).index ≤ 1024 := by
  induction reads generalizing st with
  | nil => exact h
  | cons r rs ih => exact ih (readBody_index_le EINTR h r)

theorem readsAccesses_inBounds (EINTR : Nat) {st : ReadState} (h : st.index ≤ 1024)
    (reads : List ReadResult) : AccessesInBounds (readsAccesses EINTR st reads) := by
  induction reads generalizing st with
  | nil => exact List.forall_mem_nil _
  | cons r rs ih =>
    exact List.forall_mem_append.mpr
      ⟨bodyAccesses_inBounds EINTR h r, ih (readBody_index_le EINTR h r)⟩

/-- However many reads are interrupted in a row, and across any number of notifications, the
read loop stays inside `buffer` and `final_buf`: `index` never passes 1024. -/
theorem readLoop_in_bounds (EINTR : Nat) (reads : List ReadResult) :
    AccessesInBounds (readsAccesses EINTR ReadState.init reads) ∧
      (readThrough EINTR ReadState.init reads).index ≤ 1024 :=
  ⟨readsAccesses_inBounds EINTR (Nat.zero_le _) reads,
    readThrough_index_le EINTR (Nat.zero_le _) reads⟩

end SerialComm.Unix
