import Mathlib.Data.List.Basic

/-!
# The looper registry of the Windows library

`setUpDataLooperThread` and `setUpEventLooperThread` (windows_serial.c) scan
`handle_looper_info[MAX_NUM_THREADS]` for an entry of the port handle. When there is one they add
their events to the port's comm mask; otherwise `setupLooperThread` enters `csmutex`, stores the
looper's parameters at `dtp_index`, starts `event_data_looper` with them and increments
`dtp_index`. `destroyDataLooperThread` and `destroyEventLooperThread` set `thread_exit` in the
handle's entry and wake the looper with `SetCommMask(hComm, EV_BREAK)`.

Here each call ends before the next starts. A write at an index past the table is kept at that
index, so that runs which reach one can be stated. `GetCommMask` is taken to succeed: the code
never tests its result.
-/

namespace SerialComm.Windows

def maxNumThreads : Nat := 1024

/-- The `EV_*` bits of the comm mask, from winbase.h. -/
structure CommEvents where
  EV_RXCHAR : Nat
  EV_RXFLAG : Nat
  EV_CTS : Nat
  EV_DSR : Nat
  EV_RLSD : Nat
  EV_BREAK : Nat
  EV_ERR : Nat
  EV_RING : Nat

def CommEvents.winbase : CommEvents :=
  ⟨0x0001, 0x0002, 0x0008, 0x0010, 0x0020, 0x0040, 0x0080, 0x0100⟩

/-- `EV_BREAK | EV_CTS | EV_DSR | EV_ERR | EV_RING | EV_RLSD | EV_RXFLAG`, the events of an event
listener. -/
def CommEvents.control (E : CommEvents) : Nat :=
  E.EV_BREAK ||| E.EV_CTS ||| E.EV_DSR ||| E.EV_ERR ||| E.EV_RING ||| E.EV_RLSD ||| E.EV_RXFLAG

/-- The fields of `struct looper_thread_params` that these functions write; `threadHandle` is
`none` while it holds the indeterminate value copied from the uninitialised `params`. -/
structure LooperThreadParams where
  hComm : Nat
  looperRef : Nat
  dataEnabled : Nat
  eventEnabled : Nat
  threadExit : Nat
  threadHandle : Option Nat
  deriving DecidableEq, Repr

def LooperThreadParams.zero : LooperThreadParams := ⟨0, 0, 0, 0, 0, some 0⟩

/-- The library's globals: `dtp_index`, `handle_looper_info`, the comm mask of each port, how
many times `csmutex` was entered and not left, and the global references made for loopers. -/
structure Registry where
  dtpIndex : Nat
  handleLooperInfo : Nat → LooperThreadParams
  commMask : Nat → Nat
  csmutex : Nat
  globalRefs : List Nat

def Registry.init (commMask : Nat → Nat) : Registry := ⟨0, fun _ => .zero, commMask, 0, []⟩

/-- What the system returns during one call: whether `SetCommMask` succeeds, the reference
`NewGlobalRef` returns (0 is `NULL`) and the handle `_beginthreadex` returns (0 is failure). -/
structure Outcome where
  setCommMask : Bool
  newGlobalRef : Nat
  beginthreadex : Nat
  deriving DecidableEq, Repr

/-- The scan `for(x=0; x<MAX_NUM_THREADS; x++) { if(ptr->hComm == hComm) break; … }`: the slot
it stops at, `none` when it runs to the end. Proofs use `findLooper_eq_none` and
`findLooper_eq_some`, never its evaluation over the 1024 slots. -/
@[irreducible] def findLooper (info : Nat → LooperThreadParams) (hComm : Nat) : Option Nat :=
  (List.range maxNumThreads).find? fun x => (info x).hComm = hComm

def Registry.setCommMask (r : Registry) (ok : Bool) (hComm mask : Nat) : Registry :=
  if ok then { r with commMask := Function.update r.commMask hComm mask } else r

/-- `setupLooperThread(env, obj, handle, looper, data_enabled, event_enabled)`. -/
def setupLooperThread (r : Registry) (o : Outcome) (hComm dataEnabled eventEnabled : Nat) :
    Registry × Int :=
  let r := { r with csmutex := r.csmutex + 1 }
  let looperRef := o.newGlobalRef
  if looperRef = 0 then (r, -240)
  else
    let r := { r with globalRefs := r.globalRefs ++ [looperRef] }
    let params : LooperThreadParams := ⟨hComm, looperRef, dataEnabled, eventEnabled, 0, none⟩
    let r := { r with handleLooperInfo := Function.update r.handleLooperInfo r.dtpIndex params }
    let threadHandle := o.beginthreadex
    if threadHandle = 0 then (r, -240)
    else
      ({ r with
        handleLooperInfo := Function.update r.handleLooperInfo r.dtpIndex
          { params with threadHandle := some threadHandle }
        dtpIndex := r.dtpIndex + 1
        csmutex := r.csmutex - 1 }, 0)

/-- The body of `setUpDataLooperThread` and `setUpEventLooperThread`, which differ in the events
`bits` they add to the mask of a handle with an entry and in the `data_enabled` and
`event_enabled` they pass on. When `SetCommMask` succeeds the function ends without a `return`:
its value is indeterminate, `none`. -/
def setUpLooperThread (bits dataEnabled eventEnabled : Nat) (r : Registry) (o : Outcome)
    (hComm : Nat) : Registry × Option Int :=
  match findLooper r.handleLooperInfo hComm with
  | some _ =>
    let updatedMask := r.commMask hComm ||| bits
    (r.setCommMask o.setCommMask hComm updatedMask, if o.setCommMask then none else some (-240))
  | none =>
    let p := setupLooperThread r o hComm dataEnabled eventEnabled
    (p.1, some p.2)

def setUpDataLooperThread (E : CommEvents) : Registry → Outcome → Nat → Registry × Option Int :=
  setUpLooperThread E.EV_RXCHAR 1 0

def setUpEventLooperThread (E : CommEvents) : Registry → Outcome → Nat → Registry × Option Int :=
  setUpLooperThread E.control 0 1

def Registry.markExit (r : Registry) (hComm : Nat) : Registry :=
  match findLooper r.handleLooperInfo hComm with
  | some x =>
    { r with handleLooperInfo :=
        Function.update r.handleLooperInfo x { r.handleLooperInfo x with threadExit := 1 } }
  | none => r

/-- The body of `destroyDataLooperThread` and `destroyEventLooperThread`. `other` is the event of
the other role, tested through `b = a & other` with `a = 0`; `mask` is what the mask is set to
when the test passes. -/
def destroyLooperThread (E : CommEvents) (other mask : Nat) (r : Registry) (o : Outcome)
    (hComm : Nat) : Registry × Int :=
  let a := 0
  let b := a &&& other
  let eventMask := r.commMask hComm
  if b &&& eventMask = 1 then
    (r.setCommMask o.setCommMask hComm mask, if o.setCommMask then 0 else -240)
  else ((r.markExit hComm).setCommMask o.setCommMask hComm E.EV_BREAK, 0)

def destroyDataLooperThread (E : CommEvents) : Registry → Outcome → Nat → Registry × Int :=
  destroyLooperThread E E.EV_CTS E.control

def destroyEventLooperThread (E : CommEvents) : Registry → Outcome → Nat → Registry × Int :=
  destroyLooperThread E E.EV_RXCHAR E.EV_RXCHAR

inductive Call where
  | setUpData (hComm : Nat)
  | setUpEvent (hComm : Nat)
  | destroyData (hComm : Nat)
  | destroyEvent (hComm : Nat)
  deriving DecidableEq, Repr

def Call.run (E : CommEvents) (r : Registry) (o : Outcome) : Call → Registry × Option Int
  | .setUpData h => setUpDataLooperThread E r o h
  | .setUpEvent h => setUpEventLooperThread E r o h
  | .destroyData h => let p := destroyDataLooperThread E r o h; (p.1, some p.2)
  | .destroyEvent h => let p := destroyEventLooperThread E r o h; (p.1, some p.2)

def runCalls (E : CommEvents) (r : Registry) (cs : List (Call × Outcome)) : Registry :=
  cs.foldl (fun r c => (c.1.run E r c.2).1) r

/-- The listeners registered on a handle: a setUp call registers its role until the destroy call
of that role. -/
structure Roles where
  data : Bool
  event : Bool
  deriving DecidableEq, Repr

def noRoles : Nat → Roles := fun _ => ⟨false, false⟩

def Call.roles : Call → (Nat → Roles) → Nat → Roles
  | .setUpData h, g => Function.update g h { g h with data := true }
  | .setUpEvent h, g => Function.update g h { g h with event := true }
  | .destroyData h, g => Function.update g h { g h with data := false }
  | .destroyEvent h, g => Function.update g h { g h with event := false }

def rolesAfter (g : Nat → Roles) (cs : List Call) : Nat → Roles := cs.foldl (fun g c => c.roles g) g

def AtMostRegistered (n : Nat) (g : Nat → Roles) : Prop :=
  ∃ hs : List Nat, hs.length ≤ n ∧ ∀ h, g h ≠ ⟨false, false⟩ → h ∈ hs

/-- At most `n` handles have a registered listener at any time: after every prefix of the calls. -/
def RegisteredAtMost (n : Nat) (g : Nat → Roles) (cs : List Call) : Prop :=
  ∀ i ≤ cs.length, AtMostRegistered n (rolesAfter g (cs.take i))

-- ---------------------------------------------------------------------------
-- The scan
-- ---------------------------------------------------------------------------

theorem findLooper_eq_none {info : Nat → LooperThreadParams} {hComm : Nat} :
    findLooper info hComm = none ↔ ∀ x < maxNumThreads, (info x).hComm ≠ hComm := by
  simp [findLooper, List.find?_eq_none]

theorem findLooper_eq_some {info : Nat → LooperThreadParams} {hComm x : Nat} :
    findLooper info hComm = some x ↔
      x < maxNumThreads ∧ (info x).hComm = hComm ∧ ∀ y < x, (info y).hComm ≠ hComm := by
  simp only [findLooper, List.find?_range_eq_some, decide_eq_true_eq, List.mem_range,
    Bool.not_eq_true', decide_eq_false_iff_not]
  tauto

theorem findLooper_zero {hComm : Nat} (h : hComm ≠ 0) :
    findLooper (fun _ => .zero) hComm = none :=
  findLooper_eq_none.mpr fun _ _ => Ne.symm h

theorem findLooper_first {info : Nat → LooperThreadParams} {hComm : Nat}
    (h : (info 0).hComm = hComm) : findLooper info hComm = some 0 :=
  findLooper_eq_some.mpr ⟨by decide, h, fun _ hy => absurd hy (Nat.not_lt_zero _)⟩

-- ---------------------------------------------------------------------------
-- What each call does to the table
-- ---------------------------------------------------------------------------

section
variable (r : Registry) (ok : Bool) (hComm mask : Nat)

@[simp] theorem Registry.setCommMask_handleLooperInfo :
    (r.setCommMask ok hComm mask).handleLooperInfo = r.handleLooperInfo := by
  unfold Registry.setCommMask; split_ifs <;> rfl

@[simp] theorem Registry.setCommMask_dtpIndex : (r.setCommMask ok hComm mask).dtpIndex = r.dtpIndex := by
  unfold Registry.setCommMask; split_ifs <;> rfl

@[simp] theorem Registry.markExit_dtpIndex : (r.markExit hComm).dtpIndex = r.dtpIndex := by
  unfold Registry.markExit; split <;> rfl

@[simp] theorem Registry.markExit_hComm (x : Nat) :
    ((r.markExit hComm).handleLooperInfo x).hComm = (r.handleLooperInfo x).hComm := by
  unfold Registry.markExit
  split
  · dsimp only
    rw [Function.update_apply]
    split_ifs with h
    exacts [h ▸ rfl, rfl]
  · rfl

end

/-- The test `(b & event_mask) == 1` never passes, since `b = 0 & …` is 0: both destroy calls
always set `thread_exit` in the handle's entry and the mask to `EV_BREAK`. -/
theorem destroyLooperThread_eq (E : CommEvents) (other mask : Nat) (r : Registry) (o : Outcome)
    (hComm : Nat) :
    destroyLooperThread E other mask r o hComm =
      ((r.markExit hComm).setCommMask o.setCommMask hComm E.EV_BREAK, 0) := by
  simp [destroyLooperThread]

section
variable {r : Registry} {o : Outcome} {hComm dataEnabled eventEnabled : Nat}

theorem setupLooperThread_ok (h1 : o.newGlobalRef ≠ 0) (h2 : o.beginthreadex ≠ 0) :
    setupLooperThread r o hComm dataEnabled eventEnabled =
      ({ r with
        handleLooperInfo := Function.update r.handleLooperInfo r.dtpIndex
          ⟨hComm, o.newGlobalRef, dataEnabled, eventEnabled, 0, some o.beginthreadex⟩
        dtpIndex := r.dtpIndex + 1
        globalRefs := r.globalRefs ++ [o.newGlobalRef] }, 0) := by
  simp [setupLooperThread, h1, h2]

theorem setupLooperThread_noRef (h : o.newGlobalRef = 0) :
    setupLooperThread r o hComm dataEnabled eventEnabled = ({ r with csmutex := r.csmutex + 1 }, -240) := by
  simp [setupLooperThread, h]

theorem setupLooperThread_noThread (h1 : o.newGlobalRef ≠ 0) (h2 : o.beginthreadex = 0) :
    setupLooperThread r o hComm dataEnabled eventEnabled =
      ({ r with
        handleLooperInfo := Function.update r.handleLooperInfo r.dtpIndex
          ⟨hComm, o.newGlobalRef, dataEnabled, eventEnabled, 0, none⟩
        csmutex := r.csmutex + 1
        globalRefs := r.globalRefs ++ [o.newGlobalRef] }, -240) := by
  simp [setupLooperThread, h1, h2]

theorem setupLooperThread_frame (r : Registry) (o : Outcome) (hComm dataEnabled eventEnabled : Nat) :
    let r' := (setupLooperThread r o hComm dataEnabled eventEnabled).1
    (r'.dtpIndex = r.dtpIndex ∨ r'.dtpIndex = r.dtpIndex + 1) ∧
      ∀ x ≠ r.dtpIndex, r'.handleLooperInfo x = r.handleLooperInfo x := by
  by_cases h1 : o.newGlobalRef = 0
  · rw [setupLooperThread_noRef h1]; exact ⟨.inl rfl, fun _ _ => rfl⟩
  by_cases h2 : o.beginthreadex = 0
  · rw [setupLooperThread_noThread h1 h2]; exact ⟨.inl rfl, fun x hx => Function.update_noteq hx _ _⟩
  · rw [setupLooperThread_ok h1 h2]; exact ⟨.inr rfl, fun x hx => Function.update_noteq hx _ _⟩

end

/-- What a call can do to the table: `dtp_index` only grows, and the entries below it keep
their handles. -/
def Keeps (r r' : Registry) : Prop :=
  r.dtpIndex ≤ r'.dtpIndex ∧
    ∀ x < r.dtpIndex, (r'.handleLooperInfo x).hComm = (r.handleLooperInfo x).hComm

theorem Keeps.trans {r r' r'' : Registry} (h : Keeps r r') (h' : Keeps r' r'') : Keeps r r'' :=
  ⟨h.1.trans h'.1, fun x hx => (h'.2 x (lt_of_lt_of_le hx h.1)).trans (h.2 x hx)⟩

theorem setUpLooperThread_keeps (bits dataEnabled eventEnabled : Nat) (r : Registry)
    (o : Outcome) (hComm : Nat) :
    Keeps r (setUpLooperThread bits dataEnabled eventEnabled r o hComm).1 := by
  unfold setUpLooperThread
  split
  · exact ⟨by simp, fun x _ => by simp⟩
  · obtain ⟨hd, hx⟩ := setupLooperThread_frame r o hComm dataEnabled eventEnabled
    exact ⟨by dsimp only; omega, fun x hlt => by dsimp only; rw [hx x (by omega)]⟩

theorem Call.run_keeps (E : CommEvents) (r : Registry) (o : Outcome) (c : Call) :
    Keeps r (c.run E r o).1 := by
  cases c with
  | setUpData h | setUpEvent h =>
    simp only [Call.run, setUpDataLooperThread, setUpEventLooperThread]
    exact setUpLooperThread_keeps _ _ _ r o h
  | destroyData h | destroyEvent h =>
    simp only [Call.run, destroyDataLooperThread, destroyEventLooperThread, destroyLooperThread_eq]
    exact ⟨by simp, fun x _ => by simp⟩

theorem runCalls_append (E : CommEvents) (r : Registry) (cs cs' : List (Call × Outcome)) :
    runCalls E r (cs ++ cs') = runCalls E (runCalls E r cs) cs' := List.foldl_append _ _ _ _

theorem runCalls_keeps (E : CommEvents) (r : Registry) (cs : List (Call × Outcome)) :
    Keeps r (runCalls E r cs) := by
  induction cs generalizing r with
  | nil => exact ⟨le_rfl, fun _ _ => rfl⟩
  | cons c cs ih => exact (c.1.run_keeps E r c.2).trans (ih _)

-- ---------------------------------------------------------------------------
-- Entries are never removed
-- ---------------------------------------------------------------------------

/-- Once a looper was started for `hComm`, its entry keeps its handle whatever calls follow, so a
later setUp call for `hComm` only updates the mask: it never starts another looper, even after
both listeners were destroyed. -/
theorem setUp_after_started (E : CommEvents) (r : Registry) (cs : List (Call × Outcome))
    {hComm x : Nat} (hx : x < r.dtpIndex) (hm : x < maxNumThreads)
    (hh : (r.handleLooperInfo x).hComm = hComm) (bits dataEnabled eventEnabled : Nat) (o : Outcome) :
    let r' := runCalls E r cs
    (setUpLooperThread bits dataEnabled eventEnabled r' o hComm).1 =
      r'.setCommMask o.setCommMask hComm (r'.commMask hComm ||| bits) := by
  intro r'
  have hf : findLooper r'.handleLooperInfo hComm ≠ none := by
    rw [Ne, findLooper_eq_none]
    exact fun h => h x hm (((runCalls_keeps E r cs).2 x hx).trans hh)
  obtain ⟨y, hy⟩ := Option.ne_none_iff_exists'.mp hf
  simp [setUpLooperThread, hy]

theorem setUp_after_started_destroyed :
    let r := runCalls .winbase (Registry.init fun _ => 0) [(.setUpData 1, ⟨true, 7, 9⟩)]
    let r' := runCalls .winbase r [(.destroyData 1, ⟨true, 7, 9⟩)]
    (0 < r.dtpIndex ∧ 0 < maxNumThreads ∧ (r.handleLooperInfo 0).hComm = 1) ∧
      (setUpLooperThread 1 1 0 r' ⟨true, 8, 10⟩ 1).1 = r'.setCommMask true 1 (r'.commMask 1 ||| 1) := by
  intro r r'
  have h : 0 < r.dtpIndex ∧ 0 < maxNumThreads ∧ (r.handleLooperInfo 0).hComm = 1 := by
    simp [r, runCalls, Call.run, setUpDataLooperThread, setUpLooperThread, Registry.init,
      findLooper_zero, setupLooperThread_ok, maxNumThreads]
  exact ⟨h, setUp_after_started .winbase r _ h.1 h.2.1 h.2.2 1 1 0 ⟨true, 8, 10⟩⟩

/-- An event listener and then a data listener are registered on handle 1, and the data listener
is unregistered: the event listener is still registered, yet the handle's only entry has
`thread_exit = 1` and the mask is `EV_BREAK` alone. -/
theorem destroyData_stops_event_looper (E : CommEvents) (masks : Nat → Nat) :
    let ok : Outcome := ⟨true, 7, 9⟩
    let calls : List (Call × Outcome) := [(.setUpEvent 1, ok), (.setUpData 1, ok), (.destroyData 1, ok)]
    let r := runCalls E (Registry.init masks) calls
    (rolesAfter noRoles (calls.map Prod.fst) 1).event = true ∧
      (∀ x, (r.handleLooperInfo x).hComm = 1 → (r.handleLooperInfo x).threadExit = 1) ∧
      r.commMask 1 = E.EV_BREAK := by
  intro ok calls r
  refine ⟨by decide, ?_⟩
  simp [r, calls, ok, runCalls, Call.run, setUpEventLooperThread, setUpDataLooperThread,
    destroyDataLooperThread, destroyLooperThread_eq, setUpLooperThread, Registry.init, findLooper_zero,
    setupLooperThread_ok, findLooper_first, Registry.markExit, Registry.setCommMask]
  intro x
  rw [Function.update_apply]
  split_ifs <;> simp [LooperThreadParams.zero]

/-- `setupLooperThread` for handle 5 on a fresh registry, when `NewGlobalRef` returns `NULL`
and when `_beginthreadex` fails: both return -240 with `csmutex` still entered, and the second
leaves its entry, live, in slot 0, where the next scan for handle 5 finds it, and its global
reference live. -/
theorem setupLooperThread_error_keeps_lock (masks : Nat → Nat) :
    setupLooperThread (Registry.init masks) ⟨true, 0, 0⟩ 5 1 0 =
        ({ Registry.init masks with csmutex := 1 }, -240) ∧
      let p := setupLooperThread (Registry.init masks) ⟨true, 7, 0⟩ 5 1 0
      p.2 = -240 ∧ p.1.csmutex = 1 ∧ p.1.dtpIndex = 0 ∧
        p.1.handleLooperInfo 0 = ⟨5, 7, 1, 0, 0, none⟩ ∧ p.1.globalRefs = [7] ∧
        findLooper p.1.handleLooperInfo 5 = some 0 := by
  refine ⟨setupLooperThread_noRef rfl, ?_⟩
  rw [setupLooperThread_noThread (by decide) rfl]
  exact ⟨rfl, rfl, rfl, by simp [Registry.init], rfl, findLooper_first (by simp [Registry.init])⟩

-- ---------------------------------------------------------------------------
-- `dtp_index` grows past the table
-- ---------------------------------------------------------------------------

def cycle (k : Nat) : List (Call × Outcome) :=
  [(.setUpData (k + 1), ⟨true, k + 1, k + 1⟩), (.destroyData (k + 1), ⟨true, k + 1, k + 1⟩)]

/-- After the cycles of handles `1, …, k`: slot `x < k` holds handle `x + 1`, the later slots
are as loaded. -/
def Cycled (k : Nat) (r : Registry) : Prop :=
  r.dtpIndex = k ∧ (∀ x < k, (r.handleLooperInfo x).hComm = x + 1) ∧
    ∀ x, k ≤ x → (r.handleLooperInfo x).hComm = 0

theorem Cycled.findLooper {k : Nat} {r : Registry} (h : Cycled k r) :
    findLooper r.handleLooperInfo (k + 1) = none :=
  findLooper_eq_none.mpr fun x _ => by
    rcases Nat.lt_or_ge x k with hx | hx
    · rw [h.2.1 x hx]; omega
    · rw [h.2.2 x hx]; omega

theorem Cycled.setUpData {k : Nat} {r : Registry} (h : Cycled k r) (E : CommEvents) (o : Outcome)
    (h1 : o.newGlobalRef ≠ 0) (h2 : o.beginthreadex ≠ 0) :
    (setUpDataLooperThread E r o (k + 1)).1 =
      { r with
        handleLooperInfo := Function.update r.handleLooperInfo k
          ⟨k + 1, o.newGlobalRef, 1, 0, 0, some o.beginthreadex⟩
        dtpIndex := k + 1
        globalRefs := r.globalRefs ++ [o.newGlobalRef] } := by
  simp only [setUpDataLooperThread, setUpLooperThread, h.findLooper, setupLooperThread_ok h1 h2, h.1]

theorem Cycled.cycle {k : Nat} {r : Registry} (h : Cycled k r) (E : CommEvents) :
    Cycled (k + 1) (runCalls E r (cycle k)) := by
  have hs := h.setUpData E ⟨true, k + 1, k + 1⟩ (by simp) (by simp)
  simp only [runCalls, cycle, List.foldl, Call.run, hs, destroyDataLooperThread, destroyLooperThread_eq]
  refine ⟨by simp, fun x hx => ?_, fun x hx => ?_⟩ <;>
    simp only [Registry.setCommMask_handleLooperInfo, Registry.markExit_hComm, Function.update_apply]
  · split_ifs with hxk
    · rw [hxk]
    · exact h.2.1 x (by omega)
  · rw [if_neg (by omega)]; exact h.2.2 x (by omega)

theorem cycles_cycled (E : CommEvents) (masks : Nat → Nat) (k : Nat) :
    Cycled k (runCalls E (Registry.init masks) ((List.range k).flatMap cycle)) := by
  induction k with
  | zero => exact ⟨rfl, fun _ h => absurd h (Nat.not_lt_zero _), fun _ _ => rfl⟩
  | succ k ih =>
    rw [List.range_succ, List.flatMap_append, List.flatMap_singleton, runCalls, List.foldl_append]
    exact ih.cycle E

theorem rolesAfter_append (g : Nat → Roles) (cs cs' : List Call) :
    rolesAfter g (cs ++ cs') = rolesAfter (rolesAfter g cs) cs' := List.foldl_append _ _ _ _

theorem registeredAtMost_append (n : Nat) (g : Nat → Roles) (cs cs' : List Call) :
    RegisteredAtMost n g (cs ++ cs') ↔
      RegisteredAtMost n g cs ∧ RegisteredAtMost n (rolesAfter g cs) cs' := by
  simp only [RegisteredAtMost, List.length_append, List.take_append_eq_append_take, rolesAfter_append]
  refine ⟨fun h => ⟨fun i hi => ?_, fun j hj => ?_⟩, fun ⟨h1, h2⟩ i hi => ?_⟩
  · simpa [List.take_of_length_le, Nat.sub_eq_zero_of_le hi] using h i (by omega)
  · simpa [List.take_of_length_le] using h (cs.length + j) (by omega)
  · rcases Nat.le_total i cs.length with hle | hle
    · simpa [Nat.sub_eq_zero_of_le hle] using h1 i hle
    · simpa [List.take_of_length_le hle] using h2 (i - cs.length) (by omega)

theorem atMostRegistered_one (h : Nat) (v : Roles) : AtMostRegistered 1 (Function.update noRoles h v) :=
  ⟨[h], le_rfl, fun h' hne => by
    by_contra hh
    exact hne (by rw [Function.update_noteq (List.ne_of_not_mem_cons hh)]; rfl)⟩

theorem atMostRegistered_none (n : Nat) : AtMostRegistered n noRoles :=
  ⟨[], Nat.zero_le _, fun _ h => absurd rfl h⟩

theorem cycle_roles (k : Nat) :
    RegisteredAtMost 1 noRoles ((cycle k).map Prod.fst) ∧
      rolesAfter noRoles ((cycle k).map Prod.fst) = noRoles := by
  have hend : rolesAfter noRoles ((cycle k).map Prod.fst) = noRoles := by
    funext x
    simp only [rolesAfter, cycle, List.map, List.foldl, Call.roles, Function.update_apply]
    split_ifs <;> rfl
  refine ⟨fun i hi => ?_, hend⟩
  rcases (show i = 0 ∨ i = 1 ∨ i = 2 by simp [cycle] at hi; omega) with rfl | rfl | rfl
  · exact atMostRegistered_none 1
  · exact atMostRegistered_one _ _
  · exact (congrArg (AtMostRegistered 1) hend).mpr (atMostRegistered_none 1)

theorem cycles_roles (k : Nat) :
    RegisteredAtMost 1 noRoles (((List.range k).flatMap cycle).map Prod.fst) ∧
      rolesAfter noRoles (((List.range k).flatMap cycle).map Prod.fst) = noRoles := by
  induction k with
  | zero => exact ⟨fun _ _ => by simp [rolesAfter, atMostRegistered_none], rfl⟩
  | succ k ih =>
    rw [List.range_succ, List.flatMap_append, List.flatMap_singleton, List.map_append,
      registeredAtMost_append, rolesAfter_append, ih.2]
    exact ⟨⟨ih.1, (cycle_roles k).1⟩, (cycle_roles k).2⟩

theorem cycles_then_setUp (k : Nat) (o : Outcome) :
    RegisteredAtMost 1 noRoles
      (((List.range k).flatMap cycle ++ [(Call.setUpData (k + 1), o)]).map Prod.fst) := by
  rw [List.map_append, registeredAtMost_append, (cycles_roles k).2]
  refine ⟨(cycles_roles k).1, fun i hi => ?_⟩
  rcases (show i = 0 ∨ i = 1 by simp at hi; omega) with rfl | rfl
  · exact atMostRegistered_none 1
  · exact atMostRegistered_one _ _

theorem Cycled.setUpData_slot {k : Nat} {r : Registry} (h : Cycled k r) (E : CommEvents)
    (o : Outcome) (h1 : o.newGlobalRef ≠ 0) (h2 : o.beginthreadex ≠ 0) :
    (runCalls E r [(Call.setUpData (k + 1), o)]).handleLooperInfo k =
      ⟨k + 1, o.newGlobalRef, 1, 0, 0, some o.beginthreadex⟩ := by
  simp only [runCalls, List.foldl, Call.run, h.setUpData E o h1 h2]
  exact Function.update_same _ _ _

/-- `MAX_NUM_THREADS` data listeners registered and unregistered in turn, on handles 1 to 1024,
then one on handle 1025: no more than one listener is registered at any time, yet `dtp_index`
reaches `MAX_NUM_THREADS` and `setupLooperThread` writes the new entry at
`handle_looper_info[MAX_NUM_THREADS]`, past the table. -/
theorem setupLooperThread_writes_past_table (E : CommEvents) (masks : Nat → Nat) :
    let cycles := (List.range maxNumThreads).flatMap cycle
    let calls := cycles ++ [(.setUpData (maxNumThreads + 1), ⟨true, 1025, 1025⟩)]
    RegisteredAtMost 1 noRoles (calls.map Prod.fst) ∧
      (runCalls E (Registry.init masks) cycles).dtpIndex = maxNumThreads ∧
      (runCalls E (Registry.init masks) calls).handleLooperInfo maxNumThreads =
        ⟨maxNumThreads + 1, 1025, 1, 0, 0, some 1025⟩ := by
  have hc := cycles_cycled E masks maxNumThreads
  refine ⟨cycles_then_setUp _ _, hc.1, ?_⟩
  rw [runCalls_append]
  exact hc.setUpData_slot E _ (by decide) (by decide)

end SerialComm.Windows
