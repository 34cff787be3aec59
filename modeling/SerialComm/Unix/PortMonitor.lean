import Mathlib.Data.List.Basic

/-!
# The macOS port monitor's driver references

On macOS `port_monitor` (unix_like_serial_lib.c) subscribes to IOKit and runs a run loop in its
own thread. `device_added` allocates a `struct driver_ref` for each matching service and keeps
it in the process-wide table `pm_info[2048]` at `pm_index`, which it then increments. When the
monitor is stopped, `exitMonitor_signal_handler` runs in the monitor's thread on `SIGUSR1`: it
walks `pm_info[0..2048)`, releases and frees the references whose `data->thread_id` is the
running thread, sets every slot to 0, and ends the thread.

Allocated references are kept with their addresses in `heap`, in allocation order; `malloc`
hands out fresh addresses. `released` records each release-and-free with the thread that ran
it, and `stores` each `pm_info[pm_index] = driver_reference` with the slot's previous content.
-/

namespace SerialComm.Unix

/-- A `struct driver_ref`: the service, its interest notification, and the `thread_id` of the
`port_info` its `data` points to. -/
structure DriverRef where
  service : Nat
  notification : Nat
  threadId : Nat
  deriving DecidableEq, Repr

/-- The state the monitors share: `pm_index`, `pm_info` (`none` is 0), the allocated
references, `malloc`'s next address, each monitor's `tempVal` by thread, and the logs. The slots
of `pmInfo` from 2048 on stand for the memory after the table: only a store past the table
writes there, and what such a store finds is not the code's. -/
structure Monitor where
  pmIndex : Nat
  pmInfo : Nat → Option Nat
  heap : List (Nat × DriverRef)
  nextAddr : Nat
  tempVal : Nat → Nat
  released : List (Nat × Nat)
  stores : List (Nat × Option Nat)
  portEvents : List (Nat × Nat)

def Monitor.init : Monitor := ⟨0, fun _ => none, [], 0, fun _ => 0, [], [], []⟩

/-- One matching service in `device_added`'s loop, with the notification object
`IOServiceAddInterestNotification` returns: `malloc`, then
`pm_info[pm_index] = driver_reference; pm_index++;`. -/
def addService (tid : Nat) (m : Monitor) (s : Nat × Nat) : Monitor :=
  { m with
    heap := m.heap ++ [(m.nextAddr, ⟨s.1, s.2, tid⟩)]
    nextAddr := m.nextAddr + 1
    stores := m.stores ++ [(m.pmIndex, m.pmInfo m.pmIndex)]
    pmInfo := Function.update m.pmInfo m.pmIndex (some m.nextAddr)
    pmIndex := m.pmIndex + 1 }

/-- `device_added` for the monitor of thread `tid`: the call of the listener with 1 unless
`tempVal` is 0, which it sets to 1, then the services the iterator yields. -/
def deviceAdded (tid : Nat) (services : List (Nat × Nat)) (m : Monitor) : Monitor :=
  services.foldl (addService tid)
    (if m.tempVal tid ≠ 0 then { m with portEvents := m.portEvents ++ [(tid, 1)] }
    else { m with tempVal := Function.update m.tempVal tid 1 })

def exitStep (tid : Nat) (m : Monitor) (x : Nat) : Monitor :=
  match m.pmInfo x with
  | none => m
  | some a =>
    let m :=
      if (m.heap.lookup a).map DriverRef.threadId = some tid then
        { m with heap := m.heap.filter (·.1 ≠ a), released := m.released ++ [(a, tid)] }
      else m
    { m with pmInfo := Function.update m.pmInfo x none }

def exitLoop (tid : Nat) : Nat → Monitor → Monitor
  | 0, m => m
  | n + 1, m => exitStep tid (exitLoop tid n m) n

def exitMonitorSignalHandler (tid : Nat) (m : Monitor) : Monitor := exitLoop tid 2048 m

/-- What happens to the monitors: `port_monitor` starting in thread `tid` (`tempVal = 0` and
the first `device_added` over the devices already present), a later `device_added`, and
`SIGUSR1` handled in thread `tid`. -/
inductive MonitorEvent where
  | start (tid : Nat) (present : List (Nat × Nat))
  | deviceAdded (tid : Nat) (services : List (Nat × Nat))
  | sigusr1 (tid : Nat)

def monitorStep (m : Monitor) : MonitorEvent → Monitor
  | .start tid present => deviceAdded tid present { m with tempVal := Function.update m.tempVal tid 0 }
  | .deviceAdded tid services => deviceAdded tid services m
  | .sigusr1 tid => exitMonitorSignalHandler tid m

def monitorRun (m : Monitor) (es : List MonitorEvent) : Monitor := es.foldl monitorStep m

theorem monitorRun_append (m : Monitor) (es es' : List MonitorEvent) :
    monitorRun m (es ++ es') = monitorRun (monitorRun m es) es' := List.foldl_append _ _ _ _

-- ---------------------------------------------------------------------------
-- The handler's loop
-- ---------------------------------------------------------------------------

section
variable (tid : Nat)

@[simp] theorem exitStep_pmInfo (m : Monitor) (x : Nat) :
    (exitStep tid m x).pmInfo = Function.update m.pmInfo x none := by
  unfold exitStep
  split
  · rename_i h
    funext y
    by_cases hy : y = x <;> simp [Function.update_apply, hy, h]
  · split_ifs <;> rfl

@[simp] theorem exitStep_pmIndex (m : Monitor) (x : Nat) : (exitStep tid m x).pmIndex = m.pmIndex := by
  unfold exitStep; split <;> [rfl; split_ifs <;> rfl]

@[simp] theorem exitStep_stores (m : Monitor) (x : Nat) : (exitStep tid m x).stores = m.stores := by
  unfold exitStep; split <;> [rfl; split_ifs <;> rfl]

theorem exitStep_of_none {m : Monitor} {x : Nat} (h : m.pmInfo x = none) : exitStep tid m x = m := by
  simp [exitStep, h]

theorem exitLoop_pmInfo (n : Nat) (m : Monitor) (x : Nat) :
    (exitLoop tid n m).pmInfo x = if x < n then none else m.pmInfo x := by
  induction n with
  | zero => simp [exitLoop]
  | succ n ih =>
    simp only [exitLoop, exitStep_pmInfo, Function.update_apply, ih]
    split_ifs <;> first | rfl | omega

@[simp] theorem exitLoop_pmIndex (n : Nat) (m : Monitor) : (exitLoop tid n m).pmIndex = m.pmIndex := by
  induction n <;> simp [exitLoop, *]

@[simp] theorem exitLoop_stores (n : Nat) (m : Monitor) : (exitLoop tid n m).stores = m.stores := by
  induction n <;> simp [exitLoop, *]

theorem exitLoop_skip {m : Monitor} {k n : Nat} (hk : k ≤ n)
    (h : ∀ x, k ≤ x → x < n → m.pmInfo x = none) : exitLoop tid n m = exitLoop tid k m := by
  induction n with
  | zero => rw [Nat.le_zero.mp hk]
  | succ n ih =>
    rcases Nat.lt_or_ge n k with hn | hn
    · rw [show k = n + 1 by omega]
    · rw [exitLoop, ih hn fun x h1 h2 => h x h1 (by omega), exitStep_of_none]
      rw [exitLoop_pmInfo, if_neg (by omega)]
      exact h n hn (by omega)

end

-- ---------------------------------------------------------------------------
-- Where `device_added` stores
-- ---------------------------------------------------------------------------

/-- The stores went to the slots 0, 1, … in turn, each then 0, and the slots from `pm_index`
on are 0. -/
def StoresInv (m : Monitor) : Prop :=
  m.stores = (List.range m.pmIndex).map (fun i => (i, none)) ∧ ∀ x, m.pmIndex ≤ x → m.pmInfo x = none

theorem addService_storesInv {m : Monitor} (h : StoresInv m) (tid : Nat) (s : Nat × Nat) :
    StoresInv (addService tid m s) := by
  refine ⟨?_, fun x hx => ?_⟩
  · simp [addService, h.1, List.range_succ, h.2 m.pmIndex le_rfl]
  · simp only [addService] at hx ⊢
    rw [Function.update_noteq (by omega)]
    exact h.2 x (by omega)

theorem deviceAdded_storesInv {m : Monitor} (h : StoresInv m) (tid : Nat) (services : List (Nat × Nat)) :
    StoresInv (deviceAdded tid services m) := by
  unfold deviceAdded
  generalize hm : (if m.tempVal tid ≠ 0 then _ else _) = m'
  have h' : StoresInv m' := by subst hm; split_ifs <;> exact h
  clear hm
  induction services generalizing m' with
  | nil => exact h'
  | cons s ss ih => exact ih _ (addService_storesInv h' tid s)

theorem exitLoop_storesInv {m : Monitor} (h : StoresInv m) (tid n : Nat) :
    StoresInv (exitLoop tid n m) := by
  refine ⟨by simpa using h.1, fun x hx => ?_⟩
  rw [exitLoop_pmInfo]
  split_ifs
  · rfl
  · exact h.2 x (by simpa using hx)

theorem monitorStep_storesInv {m : Monitor} (h : StoresInv m) (e : MonitorEvent) :
    StoresInv (monitorStep m e) := by
  cases e with
  | start tid present =>
    exact deviceAdded_storesInv (show StoresInv { m with tempVal := Function.update m.tempVal tid 0 }
      from h) tid present
  | deviceAdded tid services => exact deviceAdded_storesInv h tid services
  | sigusr1 tid => exact exitLoop_storesInv h tid 2048

/-- Over any run, the `i`-th store of `device_added` goes to `pm_info[i]`, and one inside the
table finds its slot 0: `pm_index` counts every store since the process started and is never
reset. -/
theorem monitorRun_stores (es : List MonitorEvent) :
    (monitorRun Monitor.init es).stores.map Prod.fst = List.range (monitorRun Monitor.init es).pmIndex ∧
      ∀ st ∈ (monitorRun Monitor.init es).stores, st.1 < 2048 → st.2 = none := by
  suffices ∀ m, StoresInv m → StoresInv (monitorRun m es) by
    obtain ⟨h, -⟩ := this Monitor.init ⟨rfl, fun _ _ => rfl⟩
    rw [h, List.map_map]
    refine ⟨List.map_id' _, fun st hst _ => ?_⟩
    obtain ⟨i, -, rfl⟩ := List.mem_map.mp hst
    rfl
  induction es with
  | nil => exact fun _ h => h
  | cons e es ih => exact fun m h => ih _ (monitorStep_storesInv h e)

-- ---------------------------------------------------------------------------
-- The handler in another monitor's thread
-- ---------------------------------------------------------------------------

def twoMonitors : Monitor := monitorRun Monitor.init [.start 1 [(10, 20)], .start 2 [(11, 21)]]

/-- `SIGUSR1` handled in thread 1 empties the slot of thread 2's reference without releasing it,
so the handler later run in thread 2 finds nothing: thread 2's reference is never released nor
freed. -/
theorem exitMonitor_drops_other_monitor :
    twoMonitors.pmInfo 1 = some 1 ∧ (twoMonitors.heap.lookup 1).map DriverRef.threadId = some 2 ∧
      (exitMonitorSignalHandler 1 twoMonitors).pmInfo 1 = none ∧
      (exitMonitorSignalHandler 2 (exitMonitorSignalHandler 1 twoMonitors)).released = [(0, 1)] ∧
      (exitMonitorSignalHandler 2 (exitMonitorSignalHandler 1 twoMonitors)).heap =
        [(1, ⟨11, 21, 2⟩)] := by
  have hidle : ∀ x, 2 ≤ x → twoMonitors.pmInfo x = none := fun x hx => by
    simp [twoMonitors, monitorRun, monitorStep, deviceAdded, addService, Monitor.init,
      Function.update_apply, show x ≠ 0 by omega, show x ≠ 1 by omega]
  have h1 : exitMonitorSignalHandler 1 twoMonitors = exitLoop 1 2 twoMonitors :=
    exitLoop_skip 1 (by omega) fun x hx _ => hidle x hx
  have h2 : exitMonitorSignalHandler 2 (exitLoop 1 2 twoMonitors) = exitLoop 1 2 twoMonitors := by
    rw [exitMonitorSignalHandler, exitLoop_skip 2 (Nat.zero_le _) fun x _ _ => ?_]
    · rfl
    · rw [exitLoop_pmInfo]; split_ifs; exacts [rfl, hidle x (by omega)]
  rw [h1, h2]
  decide

-- ---------------------------------------------------------------------------
-- Monitor sessions
-- ---------------------------------------------------------------------------

/-- At most `c` driver references are allocated before each event and after the last. -/
def HeldAtMost (c : Nat) : Monitor → List MonitorEvent → Prop
  | m, [] => m.heap.length ≤ c
  | m, e :: es => m.heap.length ≤ c ∧ HeldAtMost c (monitorStep m e) es

def session (k : Nat) : List MonitorEvent := [.start k [(k, k)], .sigusr1 k]

def Idle (k : Nat) (m : Monitor) : Prop :=
  m.pmIndex = k ∧ m.heap = [] ∧ m.nextAddr = k ∧ ∀ x, m.pmInfo x = none

theorem session_idle {k : Nat} {m : Monitor} (h : Idle k m) (hk : k < 2048) :
    HeldAtMost 1 m (session k) ∧ Idle (k + 1) (monitorRun m (session k)) := by
  obtain ⟨hi, hh, ha, hp⟩ := h
  set m1 := monitorStep m (.start k [(k, k)]) with hm1
  have h1 : m1.pmInfo = Function.update m.pmInfo k (some k) ∧ m1.heap = [(k, ⟨k, k, k⟩)] ∧
      m1.pmIndex = k + 1 ∧ m1.nextAddr = k + 1 := by
    simp only [hm1, monitorStep, deviceAdded, List.foldl, hi, ha, hh]
    split_ifs <;> simp [addService, hi, ha, hh]
  obtain ⟨hp1, hh1, hi1, ha1⟩ := h1
  have hx : ∀ x, x ≠ k → m1.pmInfo x = none := fun x hx => by
    rw [hp1, Function.update_noteq hx, hp]
  have hexit : exitMonitorSignalHandler k m1 = exitStep k m1 k := by
    rw [exitMonitorSignalHandler, exitLoop_skip k (by omega : k + 1 ≤ 2048)
      fun x h _ => hx x (by omega), exitLoop, exitLoop_skip k (Nat.zero_le k)
      fun x _ h => hx x (by omega)]
    rfl
  have hrun : monitorRun m (session k) = exitMonitorSignalHandler k m1 := by
    simp only [monitorRun, session, List.foldl, hm1]
    rfl
  have hown : (m1.heap.lookup k).map DriverRef.threadId = some k := by simp [hh1]
  have hend : Idle (k + 1) (exitStep k m1 k) := by
    simp only [exitStep, hp1, Function.update_same, hown, if_true]
    refine ⟨hi1, by simp [hh1], ha1, fun x => ?_⟩
    dsimp only
    rw [Function.update_idem, Function.update_apply]
    split_ifs
    exacts [rfl, hp x]
  have hlast : (monitorStep m1 (.sigusr1 k)).heap = [] := by rw [monitorStep, hexit]; exact hend.2.1
  refine ⟨?_, by rw [hrun, hexit]; exact hend⟩
  simp [HeldAtMost, session, ← hm1, hh, hh1, hlast]

theorem heldAtMost_append (c : Nat) (m : Monitor) (es es' : List MonitorEvent) :
    HeldAtMost c m (es ++ es') ↔ HeldAtMost c m es ∧ HeldAtMost c (monitorRun m es) es' := by
  induction es generalizing m with
  | nil => cases es' <;> simp [HeldAtMost, monitorRun]
  | cons e es ih => rw [List.cons_append, HeldAtMost, HeldAtMost, ih, and_assoc]; rfl

theorem sessions_idle {k : Nat} {m : Monitor} (j : Nat) (h : Idle k m) (hk : k + j ≤ 2048) :
    HeldAtMost 1 m ((List.range' k j).flatMap session) ∧
      Idle (k + j) (monitorRun m ((List.range' k j).flatMap session)) := by
  induction j generalizing k m with
  | zero => exact ⟨by simp [HeldAtMost, h.2.1], h⟩
  | succ j ih =>
    obtain ⟨h1, hidle⟩ := session_idle h (by omega)
    obtain ⟨ih1, ih2⟩ := ih hidle (by omega)
    rw [List.range'_succ, List.flatMap_cons, heldAtMost_append, monitorRun_append,
      show k + (j + 1) = k + 1 + j by omega]
    exact ⟨⟨h1, ih1⟩, ih2⟩

theorem start_heldAtMost {m : Monitor} (h : m.heap = []) (tid : Nat) (s : Nat × Nat) :
    HeldAtMost 1 m [.start tid [s]] := by
  simp [HeldAtMost, monitorStep, deviceAdded, addService, h]

theorem start_stores (m : Monitor) (tid : Nat) (s : Nat × Nat) :
    (monitorRun m [.start tid [s]]).stores = m.stores ++ [(m.pmIndex, m.pmInfo m.pmIndex)] := by
  simp [monitorRun, monitorStep, deviceAdded, addService]

/-- 2048 monitor sessions, each holding one reference and stopped, then a 2049th: at most one
reference is ever held, yet the device of the last session is stored at `pm_info[2048]`, one
past the table, since the handler empties the slots but never resets `pm_index`. -/
theorem deviceAdded_store_past_table :
    HeldAtMost 1 Monitor.init ((List.range 2048).flatMap session ++ [.start 2048 [(2048, 2048)]]) ∧
      (2048, none) ∈
        (monitorRun Monitor.init ((List.range 2048).flatMap session ++ [.start 2048 [(2048, 2048)]])).stores := by
  have h0 : Idle 0 Monitor.init := ⟨rfl, rfl, rfl, fun _ => rfl⟩
  obtain ⟨hs, hidle⟩ := sessions_idle 2048 h0 le_rfl
  rw [List.range_eq_range', heldAtMost_append, monitorRun_append]
  generalize monitorRun Monitor.init _ = m at hs hidle ⊢
  obtain ⟨hi, hh, -, hp⟩ := hidle
  refine ⟨⟨hs, ?_⟩, ?_⟩
  · exact start_heldAtMost hh _ _
  · simp [start_stores, hi, hp]

end SerialComm.Unix
