import SerialComm.Unix.ReadLoop

/-!
# The wait loop of `data_looper`

After its setup `data_looper` loops for ever. It waits, with `epoll_wait` on Linux and
`kevent` on macOS; it leaves when the exit descriptor fired and `data_thread_exit` is 1; it
runs the read loop when the first returned event says the port is readable; otherwise it
counts port errors in `errorCount` and calls `insertInDataErrorQueue` once every 100.

The platforms differ only in how the wait's result is read (`waitLinux`, `waitMac`); `run`
takes that reading as a parameter, so each law of the loop is proved once for both.
-/

namespace SerialComm.Unix

/-- The constants the loop tests, from the system headers the source includes. -/
structure Headers where
  EINTR : Nat
  EPOLLIN : Nat
  EPOLLERR : Nat
  EPOLLHUP : Nat
  EV_ERROR : Nat

/-- A call into the Java looper: `insertInDataQueue` after the read loop, and
`insertInDataErrorQueue` from its two sites, a failed read and the throttled port error. -/
inductive SinkCall where
  | data (dataRead : List (Option UInt8))
  | readError (errno : Nat)
  | portError (code : Int)
  deriving DecidableEq, Repr

/-- What the loop body does after the wait: `continue` on a failed wait, leave, read the
port, count a port error, or nothing. -/
inductive Wake where
  | retry
  | exit
  | readable
  | portError (code : Int)
  | idle
  deriving DecidableEq, Repr

/-- A return of the wait call: the count, and the entries it wrote at the front of an event
array of `cap` entries. -/
structure Waited (Ev : Type) (cap : Nat) where
  ret : Int
  ready : List Ev
  ret_le : ret ≤ cap
  ready_length : ready.length = ret.toNat

def Waited.write (w : Waited Ev cap) (events : Nat → Ev) : Nat → Ev :=
  fun i => w.ready[i]?.getD (events i)

structure EpollEvent where
  fd : Int
  events : Nat
  deriving DecidableEq, Repr

structure KEvent where
  ident : Int
  flags : Nat
  data : Int
  deriving DecidableEq, Repr

/-- The Linux branch after `epoll_wait(epfd, events, MAXEVENTS, -1)`, with `MAXEVENTS = 4`
and the value of `data_thread_exit` the exit test reads. -/
def waitLinux (H : Headers) (evfd : Int) (events : Nat → EpollEvent)
    (w : Waited EpollEvent 4) (dataThreadExit : Int) : (Nat → EpollEvent) × Wake :=
  let events := w.write events
  if w.ret ≤ 0 then (events, .retry)
  else if ((events 0).fd = evfd ∨ (events 1).fd = evfd) ∧ dataThreadExit = 1 then (events, .exit)
  else if (events 0).events &&& H.EPOLLIN ≠ 0 ∧ (events 0).events &&& H.EPOLLERR = 0 then
    (events, .readable)
  else if (events 0).events &&& (H.EPOLLERR ||| H.EPOLLHUP) ≠ 0 then
    (events, .portError (events 0).events)
  else (events, .idle)

/-- The macOS branch after `kevent(kq, chlist, 2, evlist, 2, NULL)`; `pipeRead` is `pipe1[0]`. -/
def waitMac (H : Headers) (fd pipeRead : Int) (evlist : Nat → KEvent)
    (w : Waited KEvent 2) (dataThreadExit : Int) : (Nat → KEvent) × Wake :=
  let evlist := w.write evlist
  if w.ret ≤ 0 then (evlist, .retry)
  else if ((evlist 0).ident = pipeRead ∨ (evlist 1).ident = pipeRead) ∧ dataThreadExit = 1 then
    (evlist, .exit)
  else if (evlist 0).ident = fd ∧ (evlist 0).flags &&& H.EV_ERROR = 0 then (evlist, .readable)
  else if (evlist 0).flags &&& H.EV_ERROR ≠ 0 then (evlist, .portError (evlist 0).data)
  else (evlist, .idle)

/-- `errorCount++`, and at 100 the call of `insertInDataErrorQueue` and `errorCount = 0`. -/
def throttle (errorCount : Nat) (code : Int) : Nat × List SinkCall :=
  if errorCount + 1 = 100 then (0, [.portError code]) else (errorCount + 1, [])

/-- The read loop, then `insertInDataQueue` when `data_available == 1`; `none` when the
outcomes ran out inside the loop. -/
def readPort (EINTR : Nat) (rs : ReadState) (reads : List ReadResult) :
    ReadState × List SinkCall × Option (List ReadResult) :=
  match readLoop EINTR rs reads with
  | (rs, some (.delivered d), rest) => (rs, [.data d], some rest)
  | (rs, some (.readError e), rest) => (rs, [.readError e], some rest)
  | (rs, some .noData, rest) => (rs, [], some rest)
  | (rs, none, _) => (rs, [], none)

structure Looper (Ev : Type) where
  rs : ReadState
  errorCount : Nat
  events : Nat → Ev

/-- The locals when the loop is entered: `errorCount = 0`, and the event array `events0`
(zeroed by `calloc` on Linux, uninitialised on macOS). -/
def Looper.init (events0 : Nat → Ev) : Looper Ev := ⟨ReadState.init, 0, events0⟩

structure Pass where
  wake : Wake
  calls : List SinkCall
  deriving DecidableEq, Repr

/-- The loop, over the successive wait results `ws` and read outcomes `reads`. It stops when
the thread exits, when the wait results run out, or when the reads run out inside the read
loop. -/
def run (EINTR : Nat) (wait : (Nat → Ev) → W → (Nat → Ev) × Wake) :
    Looper Ev → List W → List ReadResult → Looper Ev × List Pass
  | st, [], _ => (st, [])
  | st, w :: ws, reads =>
    let woken := wait st.events w
    let st := { st with events := woken.1 }
    match woken.2 with
    | .exit => (st, [⟨.exit, []⟩])
    | .readable =>
      match readPort EINTR st.rs reads with
      | (rs, calls, some rest) =>
        let r := run EINTR wait { st with rs } ws rest
        (r.1, ⟨.readable, calls⟩ :: r.2)
      | (rs, calls, none) => ({ st with rs }, [⟨.readable, calls⟩])
    | .portError code =>
      let r := run EINTR wait { st with errorCount := (throttle st.errorCount code).1 } ws reads
      (r.1, ⟨.portError code, (throttle st.errorCount code).2⟩ :: r.2)
    | wake =>
      let r := run EINTR wait st ws reads
      (r.1, ⟨wake, []⟩ :: r.2)

def dataLooperLinux (H : Headers) (evfd : Int) :
    Looper EpollEvent → List (Waited EpollEvent 4 × Int) → List ReadResult →
      Looper EpollEvent × List Pass :=
  run H.EINTR fun events w => waitLinux H evfd events w.1 w.2

def dataLooperMac (H : Headers) (fd pipeRead : Int) :
    Looper KEvent → List (Waited KEvent 2 × Int) → List ReadResult → Looper KEvent × List Pass :=
  run H.EINTR fun evlist w => waitMac H fd pipeRead evlist w.1 w.2

-- ---------------------------------------------------------------------------
-- One pass
-- ---------------------------------------------------------------------------

def Pass.Throttled (p : Pass) : Prop := ∃ c, SinkCall.portError c ∈ p.calls

def Wake.isPortError : Wake → Bool
  | .portError _ => true
  | _ => false

theorem readPort_not_throttled (EINTR : Nat) (rs : ReadState) (reads : List ReadResult) (c : Int) :
    SinkCall.portError c ∉ (readPort EINTR rs reads).2.1 := by
  unfold readPort
  split <;> simp

theorem throttle_count {e : Nat} (h : e < 100) (code : Int) :
    (throttle e code).1 = (e + 1) % 100 := by
  unfold throttle
  split <;> omega

theorem throttle_calls (e : Nat) (code : Int) :
    (∃ c, SinkCall.portError c ∈ (throttle e code).2) ↔ e + 1 = 100 := by
  unfold throttle
  split <;> simp_all

section
variable {Ev W : Type} (EINTR : Nat) (wait : (Nat → Ev) → W → (Nat → Ev) × Wake)

/-- What one pass of the loop does: its wake is the wait's, it makes the throttled call when
it brings `errorCount` to 100, and the loop goes on from a state whose `errorCount` counts it,
unless the pass was the exit or its read loop ran out of outcomes. -/
theorem run_cons (st : Looper Ev) (w : W) (ws : List W) (reads : List ReadResult) :
    ∃ p rest, (run EINTR wait st (w :: ws) reads).2 = p :: rest ∧
      p.wake = (wait st.events w).2 ∧
      (p.Throttled ↔ p.wake.isPortError ∧ st.errorCount + 1 = 100) ∧
      (rest = [] ∧ (p.wake = .exit ∨ (readPort EINTR st.rs reads).2.2 = none) ∨
        p.wake ≠ .exit ∧ ∃ st' reads', rest = (run EINTR wait st' ws reads').2 ∧
        st'.errorCount = if p.wake.isPortError then (if st.errorCount + 1 = 100 then 0 else st.errorCount + 1)
          else st.errorCount) := by
  simp only [run]
  rcases hk : (wait st.events w).2 with _ | _ | _ | code | _
  all_goals simp only [hk]
  · exact ⟨_, _, rfl, rfl, by simp [Pass.Throttled, Wake.isPortError],
      .inr ⟨by simp, _, _, rfl, by simp [Wake.isPortError]⟩⟩
  · exact ⟨_, _, rfl, rfl, by simp [Pass.Throttled, Wake.isPortError], .inl ⟨rfl, .inl rfl⟩⟩
  · rcases hr : readPort EINTR st.rs reads with ⟨rs, calls, _ | rest⟩
    all_goals
      have hc : ∀ c, SinkCall.portError c ∉ calls := fun c => by
        simpa [hr] using readPort_not_throttled EINTR st.rs reads c
      simp only [hr]
    · exact ⟨_, _, rfl, rfl, by simpa [Pass.Throttled, Wake.isPortError] using hc,
        .inl ⟨rfl, .inr trivial⟩⟩
    · exact ⟨_, _, rfl, rfl, by simpa [Pass.Throttled, Wake.isPortError] using hc,
        .inr ⟨by simp, _, _, rfl, by simp [Wake.isPortError]⟩⟩
  · exact ⟨_, _, rfl, rfl, by simp [Pass.Throttled, Wake.isPortError, throttle_calls],
      .inr ⟨by simp, _, _, rfl, by simp [Wake.isPortError, throttle]; split <;> rfl⟩⟩
  · exact ⟨_, _, rfl, rfl, by simp [Pass.Throttled, Wake.isPortError],
      .inr ⟨by simp, _, _, rfl, by simp [Wake.isPortError]⟩⟩

-- ---------------------------------------------------------------------------
-- The error throttle over a run
-- ---------------------------------------------------------------------------

theorem run_errorCount_lt (st : Looper Ev) (ws : List W) (reads : List ReadResult)
    (h : st.errorCount < 100) : (run EINTR wait st ws reads).1.errorCount < 100 := by
  induction ws generalizing st reads with
  | nil => exact h
  | cons w ws ih =>
    simp only [run]
    split
    · exact h
    · split
      · exact ih _ _ h
      · exact h
    · exact ih _ _ (by simp only [throttle_count h]; omega)
    · exact ih _ _ h

/-- The pass of the `i`-th wait result makes the throttled call exactly when that result is a
port error and the port errors up to it, counted from `errorCount`, reach a multiple of 100. -/
theorem run_throttled (P : W → Prop) [DecidablePred P]
    (hwait : ∀ events w, (wait events w).2 ≠ .exit → ((wait events w).2.isPortError ↔ P w))
    (st : Looper Ev) (ws : List W) (reads : List ReadResult) (h : st.errorCount < 100)
    (i : Nat) (hp : i < (run EINTR wait st ws reads).2.length) (hw : i < ws.length)
    (hx : ((run EINTR wait st ws reads).2[i]).wake ≠ .exit) :
    ((run EINTR wait st ws reads).2[i]).Throttled ↔
      P ws[i] ∧ (st.errorCount + (ws.take (i + 1)).countP (fun w => decide (P w))) % 100 = 0 := by
  induction ws generalizing st reads i with
  | nil => simp at hw
  | cons w ws ih =>
    obtain ⟨p, rest, hrun, hwake, hthr, hrest⟩ := run_cons EINTR wait st w ws reads
    simp only [hrun] at hp hx ⊢
    cases i with
    | zero =>
      have hP := hwait st.events w (hwake ▸ hx)
      rw [← hwake] at hP
      simp only [List.getElem_cons_zero, hthr, hP, List.take_succ_cons, List.take_zero,
        List.countP_singleton]
      by_cases hw0 : P w
      · simp only [hw0, decide_True, if_true, true_and]; omega
      · simp [hw0]
    | succ j =>
      rcases hrest with ⟨rfl, -⟩ | ⟨hpx, st', reads', rfl, hst'⟩
      · simp at hp
      have hP := hwait st.events w (hwake ▸ hpx)
      rw [← hwake] at hP
      have hcount : st'.errorCount < 100 ∧
          st'.errorCount % 100 = (st.errorCount + if P w then 1 else 0) % 100 := by
        by_cases hw0 : P w
        · rw [hst', hP.mpr hw0]; simp only [hw0, if_true]; split_ifs <;> omega
        · rw [hst', Bool.eq_false_iff.mpr fun h => hw0 (hP.mp h)]
          simpa only [hw0, if_false, Bool.false_eq_true, Nat.add_zero, and_true] using h
      rw [List.getElem_cons_succ, ih st' reads' hcount.1 j _ (by simpa using hw) hx]
      simp only [List.take_succ_cons, List.countP_cons, List.getElem_cons_succ, decide_eq_true_eq]
      generalize (if P w then 1 else 0) = k at hcount
      exact and_congr_right fun _ => by omega

end

-- ---------------------------------------------------------------------------
-- The read locals across notifications
-- ---------------------------------------------------------------------------

theorem readPort_readThrough (EINTR : Nat) (rs : ReadState) (reads : List ReadResult) :
    ∃ used, used <+: reads ∧ (readPort EINTR rs reads).1 = readThrough EINTR rs used ∧
      ∀ rest, (readPort EINTR rs reads).2.2 = some rest → reads = used ++ rest := by
  obtain ⟨used, hu, hs⟩ := readLoop_readThrough EINTR rs reads
  refine ⟨used, ⟨_, hu.symm⟩, ?_⟩
  unfold readPort
  split <;> simp_all

theorem readPort_countP_ends (EINTR : Nat) (rs : ReadState) (reads : List ReadResult) :
    (∀ rest, (readPort EINTR rs reads).2.2 = some rest →
      reads.countP (fun r => decide (r.EndsLoop EINTR)) =
        rest.countP (fun r => decide (r.EndsLoop EINTR)) + 1) ∧
    ((readPort EINTR rs reads).2.2 = none → reads.countP (fun r => decide (r.EndsLoop EINTR)) = 0) := by
  rw [readLoop_countP_ends EINTR rs reads]
  unfold readPort
  generalize readLoop EINTR rs reads = l
  rcases l with ⟨rs', _ | (_ | _ | _), rest⟩ <;> simp

section
variable {Ev W : Type} (EINTR : Nat) (wait : (Nat → Ev) → W → (Nat → Ev) × Wake)

/-- The loop makes one pass per wait result when no wait ends the thread and the read outcomes
hold, for each wait result, one that ends the read loop. -/
theorem run_length (Exits : W → Prop) (hexit : ∀ events w, (wait events w).2 = .exit → Exits w)
    (st : Looper Ev) (ws : List W) (reads : List ReadResult) (hx : ∀ w ∈ ws, ¬ Exits w)
    (hr : ws.length ≤ reads.countP (fun r => decide (r.EndsLoop EINTR))) :
    (run EINTR wait st ws reads).2.length = ws.length := by
  induction ws generalizing st reads with
  | nil => rfl
  | cons w ws ih =>
    have hws := List.forall_mem_cons.mp hx
    simp only [run]
    split
    · next hw => exact absurd (hexit _ _ hw) hws.1
    · have hc := readPort_countP_ends EINTR st.rs reads
      simp only [List.length_cons] at hr
      split
      · next rest hp =>
        have := hc.1 rest (by rw [hp])
        rw [List.length_cons, ih _ _ hws.2 (by omega), List.length_cons]
      · next hp =>
        have := hc.2 (by rw [hp])
        omega
    · simp only [List.length_cons, ih _ _ hws.2 (Nat.le_of_succ_le hr)]
    · simp only [List.length_cons, ih _ _ hws.2 (Nat.le_of_succ_le hr)]

/-- Whatever the waits return, the read locals after a run of the wait loop are those the read
loop's bodies leave, run in turn on a prefix of the read outcomes: port errors, throttling and
the other wakes never touch `index`, `partialData` or `final_buf`. -/
theorem run_readThrough (st : Looper Ev) (ws : List W) (reads : List ReadResult) :
    ∃ used, used <+: reads ∧ (run EINTR wait st ws reads).1.rs = readThrough EINTR st.rs used := by
  induction ws generalizing st reads with
  | nil => exact ⟨[], List.nil_prefix, rfl⟩
  | cons w ws ih =>
    obtain ⟨used, hp, hrs, hrest⟩ := readPort_readThrough EINTR st.rs reads
    simp only [run]
    split
    · exact ⟨[], List.nil_prefix, rfl⟩
    · split
      · next rs' calls rest hr =>
        obtain ⟨used', hp', hrs'⟩ := ih { st with events := _, rs := rs' } rest
        refine ⟨used ++ used', ?_, ?_⟩
        · rw [hrest rest (by rw [hr])]
          exact (List.prefix_append_right_inj used).mpr hp'
        · rw [hrs', readThrough_append, ← hrs, hr]
      · next rs' calls hr =>
        exact ⟨used, hp, by simp only [hr] at hrs; exact hrs⟩
    · exact ih _ reads
    · exact ih _ reads

end

-- ---------------------------------------------------------------------------
-- The two platforms
-- ---------------------------------------------------------------------------

def Waited.FirstIs (P : Ev → Prop) (w : Waited Ev cap) : Prop :=
  match w.ready with
  | [] => False
  | e :: _ => P e

instance {P : Ev → Prop} [DecidablePred P] (w : Waited Ev cap) : Decidable (w.FirstIs P) :=
  match h : w.ready with
  | [] => isFalse (by simp [Waited.FirstIs, h])
  | e :: _ => decidable_of_iff (P e) (by simp [Waited.FirstIs, h])

theorem Waited.ret_nonpos {w : Waited Ev cap} (h : w.ready = []) : w.ret ≤ 0 := by
  have := w.ready_length; rw [h] at this; simp at this; omega

theorem Waited.ret_pos {w : Waited Ev cap} (h : w.ready = e :: rest) : 0 < w.ret := by
  have := w.ready_length; rw [h] at this; simp at this; omega

theorem Waited.write_zero {w : Waited Ev cap} (h : w.ready = e :: rest) (events : Nat → Ev) :
    w.write events 0 = e := by
  simp [Waited.write, h]

/-- A port error on Linux, read from `events[0]`: not `EPOLLIN` without `EPOLLERR`, and
`EPOLLERR` or `EPOLLHUP`. -/
def PortErrorLinux (H : Headers) (e : EpollEvent) : Prop :=
  ¬ (e.events &&& H.EPOLLIN ≠ 0 ∧ e.events &&& H.EPOLLERR = 0) ∧
    e.events &&& (H.EPOLLERR ||| H.EPOLLHUP) ≠ 0

instance (H : Headers) : DecidablePred (PortErrorLinux H) :=
  fun _ => inferInstanceAs (Decidable (_ ∧ _))

def PortErrorMac (H : Headers) (fd : Int) (e : KEvent) : Prop :=
  ¬ (e.ident = fd ∧ e.flags &&& H.EV_ERROR = 0) ∧ e.flags &&& H.EV_ERROR ≠ 0

instance (H : Headers) (fd : Int) : DecidablePred (PortErrorMac H fd) :=
  fun _ => inferInstanceAs (Decidable (_ ∧ _))

theorem waitLinux_isPortError (H : Headers) (evfd : Int) (events : Nat → EpollEvent)
    (w : Waited EpollEvent 4) (x : Int) (hx : (waitLinux H evfd events w x).2 ≠ .exit) :
    (waitLinux H evfd events w x).2.isPortError ↔ w.FirstIs (PortErrorLinux H) := by
  cases hr : w.ready with
  | nil => simp [waitLinux, Waited.ret_nonpos hr, Waited.FirstIs, hr, Wake.isPortError]
  | cons e rest =>
    have hpos := Waited.ret_pos hr
    simp only [waitLinux, Waited.write_zero hr, Int.not_le.mpr hpos, if_false] at hx ⊢
    simp only [Waited.FirstIs, hr, PortErrorLinux]
    split_ifs with h1 h2 h3
    · rw [if_pos h1] at hx; exact absurd rfl hx
    · exact iff_of_false Bool.false_ne_true fun h => h.1 h2
    · exact iff_of_true rfl ⟨h2, h3⟩
    · exact iff_of_false Bool.false_ne_true fun h => h3 h.2

theorem waitMac_isPortError (H : Headers) (fd pipeRead : Int) (evlist : Nat → KEvent)
    (w : Waited KEvent 2) (x : Int) (hx : (waitMac H fd pipeRead evlist w x).2 ≠ .exit) :
    (waitMac H fd pipeRead evlist w x).2.isPortError ↔ w.FirstIs (PortErrorMac H fd) := by
  cases hr : w.ready with
  | nil => simp [waitMac, Waited.ret_nonpos hr, Waited.FirstIs, hr, Wake.isPortError]
  | cons e rest =>
    have hpos := Waited.ret_pos hr
    simp only [waitMac, Waited.write_zero hr, Int.not_le.mpr hpos, if_false] at hx ⊢
    simp only [Waited.FirstIs, hr, PortErrorMac]
    split_ifs with h1 h2 h3
    · rw [if_pos h1] at hx; exact absurd rfl hx
    · exact iff_of_false Bool.false_ne_true fun h => h.1 h2
    · exact iff_of_true rfl ⟨h2, h3⟩
    · exact iff_of_false Bool.false_ne_true fun h => h3 h.2

theorem waitLinux_exit (H : Headers) (evfd : Int) (events : Nat → EpollEvent)
    (w : Waited EpollEvent 4) (x : Int) (h : (waitLinux H evfd events w x).2 = .exit) : x = 1 := by
  unfold waitLinux at h
  dsimp only at h
  split_ifs at h with h0 h1
  exact h1.2

theorem waitMac_exit (H : Headers) (fd pipeRead : Int) (evlist : Nat → KEvent)
    (w : Waited KEvent 2) (x : Int) (h : (waitMac H fd pipeRead evlist w x).2 = .exit) : x = 1 := by
  unfold waitMac at h
  dsimp only at h
  split_ifs at h with h0 h1
  exact h1.2

-- ---------------------------------------------------------------------------
-- The throttle's law
-- ---------------------------------------------------------------------------

section
variable {Ev W : Type}

/-- The throttle's law for a loop, its port-error test `P`, the wait results `Exits` that may
end the thread and the read outcomes `Ends` that end the read loop: `errorCount` stays below 100;
a run in which no wait result may end the thread, with a read outcome ending the read loop for
each wait result, makes one pass per wait result; and the pass of a wait result makes the
throttled call exactly when that result is the 100th, 200th, … port error of the run. The pass
that ends the thread makes no call and is left out. -/
def ThrottleLaw (loop : List W → List ReadResult → Looper Ev × List Pass) (P Exits : W → Prop)
    [DecidablePred P] (Ends : ReadResult → Prop) [DecidablePred Ends] : Prop :=
  ∀ ws reads, (loop ws reads).1.errorCount < 100 ∧
    ((∀ w ∈ ws, ¬ Exits w) → ws.length ≤ reads.countP (fun r => decide (Ends r)) →
      (loop ws reads).2.length = ws.length) ∧
    ∀ i (hp : i < (loop ws reads).2.length) (hw : i < ws.length),
      ((loop ws reads).2[i]).wake ≠ .exit →
      (((loop ws reads).2[i]).Throttled ↔
        P ws[i] ∧ (ws.take (i + 1)).countP (fun w => decide (P w)) % 100 = 0)

theorem run_throttleLaw (EINTR : Nat) (wait : (Nat → Ev) → W → (Nat → Ev) × Wake)
    (P Exits : W → Prop) [DecidablePred P]
    (hwait : ∀ events w, (wait events w).2 ≠ .exit → ((wait events w).2.isPortError ↔ P w))
    (hexit : ∀ events w, (wait events w).2 = .exit → Exits w) (events0 : Nat → Ev) :
    ThrottleLaw (run EINTR wait (Looper.init events0)) P Exits (ReadResult.EndsLoop EINTR) :=
  fun ws reads => ⟨run_errorCount_lt EINTR wait _ ws reads (by simp [Looper.init]),
    run_length EINTR wait Exits hexit _ ws reads, fun i hp hw hx => by
      simpa [Looper.init] using
        run_throttled EINTR wait P hwait _ ws reads (by simp [Looper.init]) i hp hw hx⟩

end

theorem dataLooper_errorCount_throttle (H : Headers) (evfd fd pipeRead : Int)
    (events0 : Nat → EpollEvent) (evlist0 : Nat → KEvent) :
    ThrottleLaw (dataLooperLinux H evfd (Looper.init events0))
        (fun w => w.1.FirstIs (PortErrorLinux H)) (fun w => w.2 = 1) (ReadResult.EndsLoop H.EINTR) ∧
      ThrottleLaw (dataLooperMac H fd pipeRead (Looper.init evlist0))
        (fun w => w.1.FirstIs (PortErrorMac H fd)) (fun w => w.2 = 1) (ReadResult.EndsLoop H.EINTR) :=
  ⟨run_throttleLaw H.EINTR
      (fun events (w : Waited EpollEvent 4 × Int) => waitLinux H evfd events w.1 w.2) _ _
      (fun events w => waitLinux_isPortError H evfd events w.1 w.2)
      (fun events w => waitLinux_exit H evfd events w.1 w.2) events0,
    run_throttleLaw H.EINTR
      (fun evlist (w : Waited KEvent 2 × Int) => waitMac H fd pipeRead evlist w.1 w.2) _ _
      (fun evlist w => waitMac_isPortError H fd pipeRead evlist w.1 w.2)
      (fun evlist w => waitMac_exit H fd pipeRead evlist w.1 w.2) evlist0⟩

-- ---------------------------------------------------------------------------
-- Reassembly of partial reads
-- ---------------------------------------------------------------------------

/-- The reassembly the partial-read comments ask for: a clean read delivers the bytes of every
read with `ret > 0` since the previous delivery (`pending`), then its own. -/
def reassemble (pending : List UInt8) : List ReadResult → List (List UInt8)
  | [] => []
  | r :: rs =>
    if r.Clean then (pending ++ r.bytes) :: reassemble [] rs
    else if 0 < r.ret then reassemble (pending ++ r.bytes) rs
    else reassemble pending rs

def Headers.linux : Headers := ⟨4, 0x001, 0x008, 0x010, 0x4000⟩

/-- A read of 4 bytes interrupted by a signal, then a clean read of 6: one notification, one
call of `insertInDataQueue`, but its array is `final_buf[0..10)`, where only cells 0 to 5 were
written, 4 and 5 with the second read's bytes 9 and 10; the reassembly would be 1 to 10. -/
theorem dataLooper_partial_read_garbled :
    (dataLooperLinux Headers.linux 5 (Looper.init fun _ => ⟨0, 0⟩)
        [(⟨1, [⟨3, 0x001⟩], by decide, rfl⟩, 0)]
        [⟨4, [1, 2, 3, 4], 4, by decide, rfl⟩, ⟨6, [5, 6, 7, 8, 9, 10], 0, by decide, rfl⟩]).2 =
      [⟨.readable, [.data [some 1, some 2, some 3, some 4, some 9, some 10,
        none, none, none, none]]⟩] ∧
    reassemble [] [⟨4, [1, 2, 3, 4], 4, by decide, rfl⟩, ⟨6, [5, 6, 7, 8, 9, 10], 0, by decide, rfl⟩] =
      [[1, 2, 3, 4, 5, 6, 7, 8, 9, 10]] := by
  decide

end SerialComm.Unix
