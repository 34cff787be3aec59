import SerialComm.Windows.Registry

/-!
# Concurrent calls on the looper registry

The registry functions run on the Java threads that call them, and only `setupLooperThread`
enters `csmutex`: the scans of the setUp and destroy calls, their reads and writes of the comm
mask and the write of `thread_exit` run outside it. Here each caller thread runs one call, one
atomic step at a time: the scan; the read and the write of the mask; entering `csmutex`;
`NewGlobalRef`; the claim of the slot at `dtp_index`; `_beginthreadex`; the write of
`thread_handle`; the increment of `dtp_index`; leaving `csmutex`; and the write of
`thread_exit`. A schedule says which caller moves next.

`csmutex` is a `CRITICAL_SECTION`: its owner may enter it again, and it is free once it has been
left as many times as it was entered.
-/

namespace SerialComm.Windows

/-- The values a call's member function passes to the shared body: `setUpLooperThread bits
dataEnabled eventEnabled` or `destroyLooperThread other mask`. -/
inductive Body where
  | setUp (bits dataEnabled eventEnabled : Nat)
  | destroy (other mask : Nat)

def Call.body (E : CommEvents) : Call → Body
  | .setUpData _ => .setUp E.EV_RXCHAR 1 0
  | .setUpEvent _ => .setUp E.control 0 1
  | .destroyData _ => .destroy E.EV_CTS E.control
  | .destroyEvent _ => .destroy E.EV_RXCHAR E.EV_RXCHAR

def Call.hComm : Call → Nat
  | .setUpData h | .setUpEvent h | .destroyData h | .destroyEvent h => h

inductive Pc where
  | start
  | getMask
  | setMask (mask : Nat)
  | enter
  | newRef
  | claim (looperRef : Nat)
  | beginThread (slot : Nat)
  | publish (slot threadHandle : Nat)
  | increment
  | leave
  | setKeep
  | destroyScan
  | exitWrite (slot : Nat)
  | setBreak
  | done (ret : Option Int)
  deriving DecidableEq, Repr

structure Caller where
  call : Call
  o : Outcome
  pc : Pc
  deriving DecidableEq, Repr

/-- The registry, the caller that owns `csmutex`, and the callers. -/
structure Sys where
  reg : Registry
  owner : Option Nat
  callers : List Caller

def Sys.init (reg : Registry) (calls : List (Call × Outcome)) : Sys :=
  ⟨reg, none, calls.map fun c => ⟨c.1, c.2, .start⟩⟩

/-- One atomic step of caller `i` on handle `hComm`: the registry, the owner of `csmutex` and
the caller's next point after it, or `none` when the caller waits for `csmutex` or has
returned. -/
def stepBody (E : CommEvents) (reg : Registry) (owner : Option Nat) (i : Nat) (o : Outcome)
    (hComm : Nat) : Body → Pc → Option (Registry × Option Nat × Pc)
  | .setUp _ _ _, .start =>
    some (reg, owner, match findLooper reg.handleLooperInfo hComm with
      | some _ => .getMask
      | none => .enter)
  | .setUp bits _ _, .getMask => some (reg, owner, .setMask (reg.commMask hComm ||| bits))
  | .setUp _ _ _, .setMask mask =>
    some (reg.setCommMask o.setCommMask hComm mask, owner,
      .done (if o.setCommMask then none else some (-240)))
  | .setUp _ _ _, .enter =>
    if owner = none ∨ owner = some i then
      some ({ reg with csmutex := reg.csmutex + 1 }, some i, .newRef)
    else none
  | .setUp _ _ _, .newRef =>
    if o.newGlobalRef = 0 then some (reg, owner, .done (some (-240)))
    else
      some ({ reg with globalRefs := reg.globalRefs ++ [o.newGlobalRef] }, owner,
        .claim o.newGlobalRef)
  | .setUp _ dataEnabled eventEnabled, .claim looperRef =>
    some ({ reg with
      handleLooperInfo := Function.update reg.handleLooperInfo reg.dtpIndex
        ⟨hComm, looperRef, dataEnabled, eventEnabled, 0, none⟩ }, owner, .beginThread reg.dtpIndex)
  | .setUp _ _ _, .beginThread slot =>
    if o.beginthreadex = 0 then some (reg, owner, .done (some (-240)))
    else some (reg, owner, .publish slot o.beginthreadex)
  | .setUp _ _ _, .publish slot threadHandle =>
    some ({ reg with
      handleLooperInfo := Function.update reg.handleLooperInfo slot
        { reg.handleLooperInfo slot with threadHandle := some threadHandle } }, owner, .increment)
  | .setUp _ _ _, .increment => some ({ reg with dtpIndex := reg.dtpIndex + 1 }, owner, .leave)
  | .setUp _ _ _, .leave =>
    some ({ reg with csmutex := reg.csmutex - 1 }, if reg.csmutex - 1 = 0 then none else owner,
      .done (some 0))
  | .destroy other _, .start =>
    let a := 0
    let b := a &&& other
    some (reg, owner, if b &&& reg.commMask hComm = 1 then .setKeep else .destroyScan)
  | .destroy _ mask, .setKeep =>
    some (reg.setCommMask o.setCommMask hComm mask, owner,
      .done (some (if o.setCommMask then 0 else -240)))
  | .destroy _ _, .destroyScan =>
    some (reg, owner, match findLooper reg.handleLooperInfo hComm with
      | some x => .exitWrite x
      | none => .setBreak)
  | .destroy _ _, .exitWrite x =>
    some ({ reg with
      handleLooperInfo := Function.update reg.handleLooperInfo x
        { reg.handleLooperInfo x with threadExit := 1 } }, owner, .setBreak)
  | .destroy _ _, .setBreak =>
    some (reg.setCommMask o.setCommMask hComm E.EV_BREAK, owner, .done (some 0))
  | _, _ => none

def Sys.step (E : CommEvents) (s : Sys) (i : Nat) : Option Sys :=
  match s.callers[i]? with
  | none => none
  | some c =>
    (stepBody E s.reg s.owner i c.o c.call.hComm (c.call.body E) c.pc).map fun p =>
      { s with reg := p.1, owner := p.2.1, callers := s.callers.set i { c with pc := p.2.2 } }

/-- The states the callers can reach from `s0`, in any interleaving of their steps. -/
inductive Reach (E : CommEvents) (s0 : Sys) : Sys → Prop
  | refl : Reach E s0 s0
  | tail {s s' : Sys} (i : Nat) : Reach E s0 s → s.step E i = some s' → Reach E s0 s'

/-- The callers move in the order of `sched`; a caller that cannot move is passed over. -/
def runSchedule (E : CommEvents) (s : Sys) : List Nat → Sys
  | [] => s
  | i :: sched => runSchedule E ((s.step E i).getD s) sched

theorem reach_runSchedule {E : CommEvents} {s0 s : Sys} (h : Reach E s0 s) (sched : List Nat) :
    Reach E s0 (runSchedule E s sched) := by
  induction sched generalizing s with
  | nil => exact h
  | cons i sched ih =>
    apply ih
    cases hs : s.step E i with
    | none => exact h
    | some s' => exact .tail i h hs

def LiveSlot (r : Registry) (hComm x : Nat) : Prop :=
  x < maxNumThreads ∧ (r.handleLooperInfo x).hComm = hComm ∧ (r.handleLooperInfo x).threadExit = 0

-- ---------------------------------------------------------------------------
-- A call run alone is the sequential call
-- ---------------------------------------------------------------------------

def soloRun (E : CommEvents) (i : Nat) (o : Outcome) (hComm : Nat) (body : Body) :
    Nat → Registry × Option Nat × Pc → Registry × Option Nat × Pc
  | 0, st => st
  | n + 1, st =>
    match stepBody E st.1 st.2.1 i o hComm body st.2.2 with
    | some st' => soloRun E i o hComm body n st'
    | none => st

theorem runSchedule_stuck (E : CommEvents) (s : Sys) (i n : Nat) (h : s.step E i = none) :
    runSchedule E s (List.replicate n i) = s := by
  induction n with
  | zero => rfl
  | succ n ih => rw [List.replicate_succ, runSchedule, h, Option.getD_none, ih]

theorem runSchedule_single (E : CommEvents) (c : Caller) (reg : Registry) (owner : Option Nat) (n : Nat) :
    runSchedule E ⟨reg, owner, [c]⟩ (List.replicate n 0) =
      let st := soloRun E 0 c.o c.call.hComm (c.call.body E) n (reg, owner, c.pc)
      ⟨st.1, st.2.1, [{ c with pc := st.2.2 }]⟩ := by
  induction n generalizing reg owner c with
  | zero => rfl
  | succ n ih =>
    have hstep : Sys.step E ⟨reg, owner, [c]⟩ 0 =
        (stepBody E reg owner 0 c.o c.call.hComm (c.call.body E) c.pc).map fun p =>
          ⟨p.1, p.2.1, [{ c with pc := p.2.2 }]⟩ := rfl
    rw [List.replicate_succ, runSchedule, soloRun, hstep]
    cases hb : stepBody E reg owner 0 c.o c.call.hComm (c.call.body E) c.pc with
    | none => rw [hb] at hstep; exact runSchedule_stuck E _ 0 n hstep
    | some st' => exact ih _ _ _

section
variable (E : CommEvents) (reg : Registry) (hComm : Nat) (o : Outcome)

theorem soloRun_setUp (bits dataEnabled eventEnabled : Nat) :
    let st := soloRun E 0 o hComm (.setUp bits dataEnabled eventEnabled) 8 (reg, none, .start)
    let p := setUpLooperThread bits dataEnabled eventEnabled reg o hComm
    st.1 = p.1 ∧ st.2.2 = .done p.2 := by
  rcases hf : findLooper reg.handleLooperInfo hComm with _ | x
  · by_cases h1 : o.newGlobalRef = 0
    · simp [soloRun, stepBody, hf, h1, setUpLooperThread, setupLooperThread_noRef]
    by_cases h2 : o.beginthreadex = 0
    · simp [soloRun, stepBody, hf, h1, h2, setUpLooperThread, setupLooperThread_noThread]
    · simp [soloRun, stepBody, hf, h1, h2, setUpLooperThread, setupLooperThread_ok]
  · cases ho : o.setCommMask <;> simp [soloRun, stepBody, hf, ho, setUpLooperThread]

theorem soloRun_destroy (other mask : Nat) :
    let st := soloRun E 0 o hComm (.destroy other mask) 8 (reg, none, .start)
    let p := destroyLooperThread E other mask reg o hComm
    st.1 = p.1 ∧ st.2.2 = .done (some p.2) := by
  rw [destroyLooperThread_eq]
  rcases hf : findLooper reg.handleLooperInfo hComm with _ | x <;>
    simp [soloRun, stepBody, hf, Registry.markExit]

end

/-- A call run alone ends as the sequential model says: its atomic steps compose to
`Call.run`. -/
theorem runSchedule_solo (E : CommEvents) (reg : Registry) (c : Call) (o : Outcome) :
    let s := runSchedule E (Sys.init reg [(c, o)]) (List.replicate 8 0)
    s.reg = (c.run E reg o).1 ∧ s.callers = [⟨c, o, .done (c.run E reg o).2⟩] := by
  simp only [Sys.init, List.map, runSchedule_single, List.cons.injEq, and_true, Caller.mk.injEq,
    true_and]
  cases c with
  | setUpData h | setUpEvent h => exact soloRun_setUp E reg h o _ _ _
  | destroyData h | destroyEvent h =>
    obtain ⟨h1, h2⟩ := soloRun_destroy E reg h o _ _
    exact ⟨h1, h2⟩

-- ---------------------------------------------------------------------------
-- `csmutex` excludes
-- ---------------------------------------------------------------------------

def Pc.critical : Pc → Bool
  | .newRef | .claim _ | .beginThread _ | .publish _ _ | .increment | .leave => true
  | _ => false

/-- What a step does to the owner of `csmutex`: the step at `enter` makes its caller the owner,
the step at `leave` ends the critical part, and every other step keeps the owner and enters no
critical part. -/
theorem stepBody_owner {E : CommEvents} {reg : Registry} {owner : Option Nat}
    {i : Nat} {o : Outcome} {hComm : Nat} {body : Body} {pc : Pc}
    {st : Registry × Option Nat × Pc} (h : stepBody E reg owner i o hComm body pc = some st) :
    (pc = .enter ∧ (owner = none ∨ owner = some i) ∧ st.2.1 = some i) ∨
      (pc = .leave ∧ st.2.2.critical = false) ∨
      (st.2.1 = owner ∧ (st.2.2.critical = true → pc.critical = true)) := by
  cases body <;> cases pc <;> simp only [stepBody] at h <;> (try split_ifs at h) <;>
    (try split at h) <;> cases h <;> simp_all [Pc.critical]

/-- Only the owner of `csmutex` is between entering and leaving it. -/
def MutexInv (s : Sys) : Prop :=
  ∀ i c, s.callers[i]? = some c → c.pc.critical = true → s.owner = some i

theorem Sys.step_eq {E : CommEvents} {s s' : Sys} {i : Nat} (h : s.step E i = some s') :
    ∃ c st, s.callers[i]? = some c ∧
      stepBody E s.reg s.owner i c.o c.call.hComm (c.call.body E) c.pc = some st ∧
      s' = { s with reg := st.1, owner := st.2.1, callers := s.callers.set i { c with pc := st.2.2 } } := by
  unfold Sys.step at h
  split at h
  · cases h
  · obtain ⟨st, hst, rfl⟩ := Option.map_eq_some'.mp h
    exact ⟨_, st, ‹_›, hst, rfl⟩

theorem mutexInv_step {E : CommEvents} {s s' : Sys} {i : Nat} (h : MutexInv s)
    (hs : s.step E i = some s') : MutexInv s' := by
  obtain ⟨c, st, hc, hst, rfl⟩ := Sys.step_eq hs
  intro j cj hj hcrit
  rw [List.getElem?_set] at hj
  split_ifs at hj with hij
  · cases hj
    rcases stepBody_owner hst with ⟨-, -, ho⟩ | ⟨-, hn⟩ | ⟨ho, hp⟩
    · rw [← hij]; exact ho
    · simp [hn] at hcrit
    · rw [← hij, ← h i c hc (hp hcrit)]; exact ho
  · have hown := h j cj hj hcrit
    rcases stepBody_owner hst with ⟨-, hfree, -⟩ | ⟨hpc, -⟩ | ⟨ho, -⟩
    · rcases hfree with hfree | hfree <;> rw [hown] at hfree <;> simp_all
    · have := h i c hc (by simp [hpc, Pc.critical]); rw [hown] at this; simp_all
    · exact ho.trans hown

theorem Sys.init_mutexInv (reg : Registry) (calls : List (Call × Outcome)) :
    MutexInv (Sys.init reg calls) := by
  intro i c hc hcrit
  simp only [Sys.init, List.getElem?_map, Option.map_eq_some'] at hc
  obtain ⟨_, -, rfl⟩ := hc
  simp [Pc.critical] at hcrit

theorem Reach.mutexInv {E : CommEvents} {s0 s : Sys} (h : Reach E s0 s) (h0 : MutexInv s0) :
    MutexInv s := by
  induction h with
  | refl => exact h0
  | tail _ _ hs ih => exact mutexInv_step ih hs

theorem Reach.trans {E : CommEvents} {s0 s s' : Sys} (h : Reach E s0 s) (h' : Reach E s s') :
    Reach E s0 s' := by
  induction h' with
  | refl => exact h
  | tail i _ hs ih => exact .tail i ih hs

-- ---------------------------------------------------------------------------
-- A return inside `csmutex`
-- ---------------------------------------------------------------------------

def HeldByReturned (i : Nat) (s : Sys) : Prop :=
  s.owner = some i ∧ ∃ c r, s.callers[i]? = some c ∧ c.pc = .done r

theorem stepBody_done (E : CommEvents) (reg : Registry) (owner : Option Nat) (i : Nat) (o : Outcome)
    (hComm : Nat) (body : Body) (r : Option Int) : stepBody E reg owner i o hComm body (.done r) = none := by
  cases body <;> rfl

theorem stepBody_scan_none {E : CommEvents} {reg : Registry} {owner : Option Nat} {i : Nat}
    {o : Outcome} {hComm bits dataEnabled eventEnabled : Nat}
    (h : findLooper reg.handleLooperInfo hComm = none) :
    stepBody E reg owner i o hComm (.setUp bits dataEnabled eventEnabled) .start =
      some (reg, owner, .enter) := by
  simp [stepBody, h]

theorem stepBody_enter_free {E : CommEvents} {reg : Registry} {i : Nat} {o : Outcome}
    {hComm bits dataEnabled eventEnabled : Nat} :
    stepBody E reg none i o hComm (.setUp bits dataEnabled eventEnabled) .enter =
      some ({ reg with csmutex := reg.csmutex + 1 }, some i, .newRef) := by
  simp [stepBody]

theorem stepBody_newRef_null {E : CommEvents} {reg : Registry} {owner : Option Nat} {i : Nat}
    {o : Outcome} {hComm bits dataEnabled eventEnabled : Nat} (h : o.newGlobalRef = 0) :
    stepBody E reg owner i o hComm (.setUp bits dataEnabled eventEnabled) .newRef =
      some (reg, owner, .done (some (-240))) := by
  simp [stepBody, h]

theorem step_enter_blocked {E : CommEvents} {s : Sys} {i j : Nat} {c : Caller}
    (ho : s.owner = some i) (hj : j ≠ i) (hc : s.callers[j]? = some c) (hpc : c.pc = .enter) :
    s.step E j = none := by
  simp only [Sys.step, hc, hpc, Option.map_eq_none']
  cases c.call.body E <;> simp [stepBody, ho, Ne.symm hj]

theorem heldByReturned_step {E : CommEvents} {s s' : Sys} {i j : Nat} (hinv : MutexInv s)
    (h : HeldByReturned i s) (hs : s.step E j = some s') : HeldByReturned i s' := by
  obtain ⟨ho, ci, r, hci, hpc⟩ := h
  obtain ⟨c, st, hc, hst, rfl⟩ := Sys.step_eq hs
  by_cases hji : j = i
  · subst hji
    rw [hci] at hc
    cases hc
    rw [hpc, stepBody_done] at hst
    cases hst
  · refine ⟨?_, ci, r, by dsimp only; rw [List.getElem?_set_ne hji]; exact hci, hpc⟩
    rcases stepBody_owner hst with ⟨-, hfree, -⟩ | ⟨hl, -⟩ | ⟨hkeep, -⟩
    · rw [ho] at hfree; simp [Ne.symm hji] at hfree
    · have := hinv j c hc (by simp [hl, Pc.critical]); rw [ho] at this; simp [Ne.symm hji] at this
    · exact hkeep.trans ho

theorem stepBody_leave {E : CommEvents} {reg : Registry} {owner : Option Nat} {i : Nat}
    {o : Outcome} {hComm : Nat} {body : Body} {st : Registry × Option Nat × Pc}
    (h : stepBody E reg owner i o hComm body .leave = some st) : st.2.2 = .done (some 0) := by
  cases body <;> simp only [stepBody] at h <;> cases h
  rfl

/-- A step from inside `csmutex` to a return of -240 keeps its caller the owner. -/
theorem heldByReturned_of_error {E : CommEvents} {s s1 : Sys} {i : Nat} {c : Caller}
    (hinv : MutexInv s) (hc : s.callers[i]? = some c) (hcrit : c.pc.critical = true)
    (hs1 : s.step E i = some s1) (hret : s1.callers[i]? = some { c with pc := .done (some (-240)) }) :
    HeldByReturned i s1 := by
  obtain ⟨c1, st, hc1, hst, rfl⟩ := Sys.step_eq hs1
  rw [hc] at hc1
  cases hc1
  have hpc : st.2.2 = .done (some (-240)) := by
    simpa [List.getElem?_set_self (List.getElem?_eq_some_iff.mp hc).1] using hret
  refine ⟨?_, _, _, hret, rfl⟩
  rcases stepBody_owner hst with ⟨hen, -⟩ | ⟨hl, -⟩ | ⟨hkeep, -⟩
  · simp [hen, Pc.critical] at hcrit
  · rw [hl] at hst
    simp [stepBody_leave hst] at hpc
  · exact hkeep.trans (hinv i c hc hcrit)

theorem Reach.heldByReturned {E : CommEvents} {s0 s s' : Sys} {i : Nat} (h : Reach E s0 s)
    (h0 : MutexInv s0) (hs : HeldByReturned i s) (h' : Reach E s s') : HeldByReturned i s' := by
  induction h' with
  | refl => exact hs
  | tail j hr hstep ih => exact heldByReturned_step ((h.trans hr).mutexInv h0) ih hstep

/-- A caller that returns -240 from inside `csmutex`, where `NewGlobalRef` returned `NULL` or
`_beginthreadex` failed, never leaves it: in every later state, whatever the other callers do,
its thread owns `csmutex` and every caller at `EnterCriticalSection` waits for ever. -/
theorem error_return_keeps_csmutex {E : CommEvents} {reg : Registry} {calls : List (Call × Outcome)}
    {s s1 s' : Sys} {i : Nat} {c : Caller} (h : Reach E (Sys.init reg calls) s)
    (hc : s.callers[i]? = some c) (hcrit : c.pc.critical = true) (hs1 : s.step E i = some s1)
    (hret : s1.callers[i]? = some { c with pc := .done (some (-240)) }) (h' : Reach E s1 s') :
    s'.owner = some i ∧
      ∀ j c', j ≠ i → s'.callers[j]? = some c' → c'.pc = .enter → s'.step E j = none := by
  have h0 := Sys.init_mutexInv reg calls
  have hheld := heldByReturned_of_error (h.mutexInv h0) hc hcrit hs1 hret
  have hrun := (Reach.tail i h hs1).heldByReturned h0 hheld h'
  exact ⟨hrun.1, fun j c' hj hc' hpc => step_enter_blocked hrun.1 hj hc' hpc⟩

theorem error_return_keeps_csmutex_noRef :
    let s0 := Sys.init (Registry.init fun _ => 0)
      [(.setUpData 1, ⟨true, 0, 9⟩), (.setUpData 2, ⟨true, 8, 10⟩)]
    let s := runSchedule .winbase s0 [0, 1, 0]
    let s1 := runSchedule .winbase s [0]
    s.callers[0]? = some ⟨.setUpData 1, ⟨true, 0, 9⟩, .newRef⟩ ∧ s.step .winbase 0 = some s1 ∧
      s1.callers[0]? = some ⟨.setUpData 1, ⟨true, 0, 9⟩, .done (some (-240))⟩ ∧
      s1.callers[1]? = some ⟨.setUpData 2, ⟨true, 8, 10⟩, .enter⟩ ∧
      s1.owner = some 0 ∧ s1.step .winbase 1 = none := by
  intro s0 s s1
  have h1 : findLooper (Registry.init fun _ => 0).handleLooperInfo 1 = none := findLooper_zero (by decide)
  have h2 : findLooper (Registry.init fun _ => 0).handleLooperInfo 2 = none := findLooper_zero (by decide)
  have hc : s.callers[0]? = some ⟨.setUpData 1, ⟨true, 0, 9⟩, .newRef⟩ := by
    simp [s, s0, runSchedule, Sys.step, Sys.init, stepBody_scan_none h1, stepBody_scan_none h2,
      stepBody_enter_free, Call.body, Call.hComm]
  have hs1 : s.step .winbase 0 = some s1 := by
    simp [s1, s, s0, runSchedule, Sys.step, Sys.init, stepBody_scan_none h1, stepBody_scan_none h2,
      stepBody_enter_free, stepBody_newRef_null, Call.body, Call.hComm]
  have hret : s1.callers[0]? = some ⟨.setUpData 1, ⟨true, 0, 9⟩, .done (some (-240))⟩ := by
    simp [s1, s, s0, runSchedule, Sys.step, Sys.init, stepBody_scan_none h1, stepBody_scan_none h2,
      stepBody_enter_free, stepBody_newRef_null, Call.body, Call.hComm]
  have hc1 : s1.callers[1]? = some ⟨.setUpData 2, ⟨true, 8, 10⟩, .enter⟩ := by
    simp [s1, s, s0, runSchedule, Sys.step, Sys.init, stepBody_scan_none h1, stepBody_scan_none h2,
      stepBody_enter_free, stepBody_newRef_null, Call.body, Call.hComm]
  obtain ⟨ho, hb⟩ := error_return_keeps_csmutex (reach_runSchedule .refl _) hc rfl hs1 hret .refl
  exact ⟨hc, hs1, hret, hc1, ho, hb 1 _ (by decide) hc1 rfl⟩

-- ---------------------------------------------------------------------------
-- Two setUp calls on one handle
-- ---------------------------------------------------------------------------

/-- Two threads call `setUpDataLooperThread` on handle 1 at once. Both scan the table before
either enters `csmutex`, so both go on to `setupLooperThread`: slots 0 and 1 then hold live
loopers of handle 1, and both calls return 0. -/
theorem setUp_race_two_loopers (E : CommEvents) (masks : Nat → Nat) :
    let s0 := Sys.init (Registry.init masks) [(.setUpData 1, ⟨true, 7, 9⟩), (.setUpData 1, ⟨true, 8, 10⟩)]
    let s := runSchedule E s0 [0, 1, 0, 0, 0, 0, 0, 0, 0, 1, 1, 1, 1, 1, 1, 1]
    Reach E s0 s ∧ LiveSlot s.reg 1 0 ∧ LiveSlot s.reg 1 1 ∧
      s.callers.map Caller.pc = [.done (some 0), .done (some 0)] := by
  intro s0 s
  refine ⟨reach_runSchedule .refl _, ?_⟩
  simp [s, s0, runSchedule, Sys.step, Sys.init, stepBody, Call.body, Call.hComm, Registry.init,
    findLooper_zero, LiveSlot, maxNumThreads]

end SerialComm.Windows
