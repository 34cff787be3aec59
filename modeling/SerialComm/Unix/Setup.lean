import Mathlib.Data.List.Basic

/-!
# Setup and exit of the looper threads

`data_looper` and `event_looper` (unix_like_serial_lib.c) start by taking `params->mutex`,
attach to the JVM, look up the looper's methods and, for `data_looper`, build the wait
backend: an `eventfd` and an `epoll` set on Linux, a pipe and a `kqueue` on macOS. Each step
may fail; the thread then writes its error code to `data_init_done` (`event_init_done`),
undoes what it built, releases the mutex and exits. After the last step it writes 1, releases
the mutex and enters its wait loop, which `data_looper` leaves through its exit branch.

Each path is written out as the list of actions the code performs, in its order.
-/

namespace SerialComm.Unix

/-- An outcome of a system call that sets `errno` on failure; POSIX error numbers are
positive. -/
inductive Sys where
  | ok
  | fail (errno : Nat) (pos : 0 < errno)

/-- The descriptors `data_looper` creates: `evfd` and `epfd` on Linux, `pipe1[0]`, `pipe1[1]`
and `kq` on macOS. -/
inductive Desc where
  | evfd
  | epfd
  | pipeRead
  | pipeWrite
  | kq
  deriving DecidableEq, Repr

inductive Act where
  | lock
  | unlock
  | initDone (value : Int)
  | attach
  | detach
  | create (d : Desc)
  | close (d : Desc)
  | enterLoop
  | exit
  deriving DecidableEq, Repr

/-- The outcomes of `data_looper`'s setup calls: `AttachCurrentThread`, `GetObjectClass`, the
two `GetMethodID` lookups, then `eventfd`, `epoll_create` and the two `epoll_ctl` calls on
Linux, or `pipe` and `kqueue` on macOS. -/
structure DataSetup where
  attach : Bool
  getObjectClass : Bool
  mid : Bool
  mide : Bool
  eventfd : Sys
  epollCreate : Sys
  epollCtlPort : Sys
  epollCtlExit : Sys
  pipe : Sys
  kqueue : Sys

/-- The JNI steps of `data_looper`, shared by both platforms, going on to `backend`. -/
def dataSetupJni (o : DataSetup) (backend : List Act) : List Act :=
  .lock ::
    if o.attach then
      .attach ::
        if !o.getObjectClass then [.initDone (-240), .detach, .unlock, .exit]
        else if !o.mid then [.initDone (-240), .detach, .unlock, .exit]
        else if !o.mide then [.initDone (-240), .detach, .unlock, .exit]
        else backend
    else [.initDone (-240), .unlock, .exit]

/-- The Linux backend: `eventfd`, `epoll_create(2)`, and `epoll_ctl` for the port and for `evfd`;
a failure writes `negative * errno`. -/
def epollSetup (o : DataSetup) : List Act :=
  match o.eventfd with
  | .fail e _ => [.initDone (-e), .detach, .unlock, .exit]
  | .ok =>
    .create .evfd ::
      match o.epollCreate with
      | .fail e _ => [.close .evfd, .initDone (-e), .detach, .unlock, .exit]
      | .ok =>
        .create .epfd ::
          match o.epollCtlPort with
          | .fail e _ => [.close .epfd, .close .evfd, .initDone (-e), .detach, .unlock, .exit]
          | .ok =>
            match o.epollCtlExit with
            | .fail e _ => [.close .epfd, .close .evfd, .initDone (-e), .detach, .unlock, .exit]
            | .ok => [.initDone 1, .unlock, .enterLoop]

def kqueueSetup (o : DataSetup) : List Act :=
  match o.pipe with
  | .fail e _ => [.initDone (-e), .detach, .unlock, .exit]
  | .ok =>
    .create .pipeRead :: .create .pipeWrite ::
      match o.kqueue with
      | .fail e _ =>
        [.initDone (-e), .close .pipeRead, .close .pipeWrite, .detach, .unlock, .exit]
      | .ok => [.create .kq, .initDone 1, .unlock, .enterLoop]

/-- The exit branch of the Linux wait loop, taken when `data_thread_exit` is 1. -/
def epollExit : List Act := [.close .epfd, .close .evfd, .detach, .exit]

def kqueueExit : List Act := [.close .kq, .close .pipeRead, .close .pipeWrite, .detach, .exit]

def dataSetupLinux (o : DataSetup) : List Act := dataSetupJni o (epollSetup o)

def dataSetupMac (o : DataSetup) : List Act := dataSetupJni o (kqueueSetup o)

/-- A `data_looper` thread from its start to its end: the setup and, when it went on to the
wait loop, the exit branch. -/
def dataLife (setup ending : List Act) : List Act :=
  if .enterLoop ∈ setup then setup ++ ending else setup

structure EventSetup where
  attach : Bool
  getObjectClass : Bool
  mid : Bool
  signal : Bool

def eventSetup (o : EventSetup) : List Act :=
  .lock ::
    if o.attach then
      .attach ::
        if !o.getObjectClass then [.initDone (-240), .detach, .unlock, .exit]
        else if !o.mid then [.initDone (-240), .detach, .unlock, .exit]
        else if !o.signal then [.initDone (-240), .detach, .unlock, .exit]
        else [.initDone 1, .unlock, .enterLoop]
    else [.initDone (-240), .unlock, .exit]

-- ---------------------------------------------------------------------------
-- The protocol
-- ---------------------------------------------------------------------------

def Act.initValue? : Act → Option Int
  | .initDone v => some v
  | _ => none

/-- The init-done protocol: one write, before the one unlock of the mutex, of 1 exactly when
the thread goes on to its wait loop and of a nonzero error code otherwise. -/
def InitProtocol (t : List Act) : Prop :=
  t.count .unlock = 1 ∧
    ∃ v, t.filterMap Act.initValue? = [v] ∧
      (t.takeWhile (· ≠ .unlock)).filterMap Act.initValue? = [v] ∧
      v ≠ 0 ∧ (v = 1 ↔ .enterLoop ∈ t)

def Act.created? : Act → Option Desc
  | .create d => some d
  | _ => none

def Act.closed? : Act → Option Desc
  | .close d => some d
  | _ => none

/-- The descriptors the thread closes are those it created, each once, and the thread
detaches from the JVM once exactly when it attached. -/
def ReleasesAll (t : List Act) : Prop :=
  (t.filterMap Act.closed?).Perm (t.filterMap Act.created?) ∧ (t.filterMap Act.created?).Nodup ∧
    t.count .detach = if .attach ∈ t then 1 else 0

-- ---------------------------------------------------------------------------
-- The shapes of a path
-- ---------------------------------------------------------------------------

/-- A failure after attaching and creating `ds`: the thread closes `cs₁`, writes `v`, closes
`cs₂`, detaches, unlocks and exits. -/
def abortAfter (ds cs₁ cs₂ : List Desc) (v : Int) : List Act :=
  .lock :: .attach ::
    (ds.map .create ++ cs₁.map .close ++ .initDone v :: cs₂.map .close ++ [.detach, .unlock, .exit])

def enterAfter (ds : List Desc) : List Act :=
  .lock :: .attach :: (ds.map .create ++ [.initDone 1, .unlock, .enterLoop])

/-- The paths of a looper's setup, for an exit branch that closes `closes`: a failure of
`AttachCurrentThread`, a failure at a later step with a negative code that releases what was
created, or the way into the loop after creating what the exit branch closes. -/
inductive SetupPath (closes : List Desc) : List Act → Prop
  | unattached : SetupPath closes [.lock, .initDone (-240), .unlock, .exit]
  | abort (ds cs₁ cs₂ : List Desc) (v : Int) (hv : v < 0) (hnd : ds.Nodup)
      (hp : (cs₁ ++ cs₂).Perm ds) : SetupPath closes (abortAfter ds cs₁ cs₂ v)
  | enter (ds : List Desc) (hnd : ds.Nodup) (hp : closes.Perm ds) : SetupPath closes (enterAfter ds)

@[simp] theorem filterMap_none_desc (l : List Desc) {β : Type} :
    l.filterMap (fun _ => (none : Option β)) = [] :=
  List.filterMap_eq_nil_iff.mpr fun _ _ => rfl

@[simp] theorem count_map_desc {f : Desc → Act} {a : Act} (h : ∀ d, f d ≠ a) (l : List Desc) :
    (l.map f).count a = 0 :=
  List.count_eq_zero.mpr (by simp [h])

theorem SetupPath.initProtocol {closes : List Desc} {t : List Act} (h : SetupPath closes t) :
    InitProtocol t := by
  cases h with
  | unattached => simp [InitProtocol, Act.initValue?]
  | abort ds cs₁ cs₂ v hv =>
    simp [abortAfter, InitProtocol, Act.initValue?, List.filterMap_append, List.filterMap_map,
      Function.comp_def, List.takeWhile_append_of_pos]
    omega
  | enter ds =>
    simp [enterAfter, InitProtocol, Act.initValue?, List.filterMap_append, List.filterMap_map,
      Function.comp_def, List.takeWhile_append_of_pos]

theorem SetupPath.releasesAll {closes : List Desc} {t : List Act} (h : SetupPath closes t) :
    ReleasesAll (dataLife t (closes.map .close ++ [.detach, .exit])) := by
  cases h with
  | unattached => simp [dataLife, ReleasesAll, Act.closed?, Act.created?]
  | abort ds cs₁ cs₂ v hv hnd hp =>
    simp [abortAfter, dataLife, ReleasesAll, Act.closed?, Act.created?, List.filterMap_append,
      List.filterMap_map, Function.comp_def, hp, hnd]
  | enter ds hnd hp =>
    simp [enterAfter, dataLife, ReleasesAll, Act.closed?, Act.created?, List.filterMap_append,
      List.filterMap_map, Function.comp_def, hp, hnd]

-- ---------------------------------------------------------------------------
-- Every path keeps the protocol
-- ---------------------------------------------------------------------------

theorem dataSetupJni_path {closes : List Desc} (o : DataSetup) {backend : List Act}
    (hb : SetupPath closes (.lock :: .attach :: backend)) : SetupPath closes (dataSetupJni o backend) := by
  have hfail : SetupPath closes (.lock :: .attach :: [.initDone (-240), .detach, .unlock, .exit]) :=
    .abort [] [] [] (-240) (by decide) .nil (.refl _)
  unfold dataSetupJni
  split_ifs
  exacts [hfail, hfail, hfail, hb, .unattached]

theorem epollSetup_path (o : DataSetup) : SetupPath [.epfd, .evfd] (.lock :: .attach :: epollSetup o) := by
  unfold epollSetup
  split
  · next e he _ => exact .abort [] [] [] (-e) (by omega) .nil (.refl _)
  split
  · next e he _ => exact .abort [.evfd] [.evfd] [] (-e) (by omega) (by decide) (by decide)
  split
  · next e he _ => exact .abort [.evfd, .epfd] [.epfd, .evfd] [] (-e) (by omega) (by decide) (by decide)
  split
  · next e he _ => exact .abort [.evfd, .epfd] [.epfd, .evfd] [] (-e) (by omega) (by decide) (by decide)
  · exact .enter [.evfd, .epfd] (by decide) (by decide)

theorem kqueueSetup_path (o : DataSetup) :
    SetupPath [.kq, .pipeRead, .pipeWrite] (.lock :: .attach :: kqueueSetup o) := by
  unfold kqueueSetup
  split
  · next e he _ => exact .abort [] [] [] (-e) (by omega) .nil (.refl _)
  split
  · next e he _ =>
    exact .abort [.pipeRead, .pipeWrite] [] [.pipeRead, .pipeWrite] (-e) (by omega) (by decide)
      (.refl _)
  · exact .enter [.pipeRead, .pipeWrite, .kq] (by decide) (by decide)

theorem eventSetup_path (o : EventSetup) : SetupPath [] (eventSetup o) := by
  have hfail : SetupPath [] (.lock :: .attach :: [.initDone (-240), .detach, .unlock, .exit]) :=
    .abort [] [] [] (-240) (by decide) .nil (.refl _)
  unfold eventSetup
  split_ifs
  exacts [hfail, hfail, hfail, .enter [] .nil (.refl _), .unattached]

theorem dataSetupLinux_initProtocol (o : DataSetup) : InitProtocol (dataSetupLinux o) :=
  (dataSetupJni_path o (epollSetup_path o)).initProtocol

theorem dataSetupMac_initProtocol (o : DataSetup) : InitProtocol (dataSetupMac o) :=
  (dataSetupJni_path o (kqueueSetup_path o)).initProtocol

theorem eventSetup_initProtocol (o : EventSetup) : InitProtocol (eventSetup o) :=
  (eventSetup_path o).initProtocol

theorem dataLifeLinux_releasesAll (o : DataSetup) :
    ReleasesAll (dataLife (dataSetupLinux o) epollExit) :=
  (dataSetupJni_path o (epollSetup_path o)).releasesAll

theorem dataLifeMac_releasesAll (o : DataSetup) :
    ReleasesAll (dataLife (dataSetupMac o) kqueueExit) :=
  (dataSetupJni_path o (kqueueSetup_path o)).releasesAll

/-- For every combination of setup outcomes, both loopers write their init-done field once and
then release the mutex once, with 1 exactly when they go on to their loop and a nonzero error
code otherwise; every path that ends `data_looper` closes each descriptor it created once and
detaches from the JVM exactly when it attached. -/
theorem looper_init_protocol :
    (∀ o, InitProtocol (dataSetupLinux o) ∧ ReleasesAll (dataLife (dataSetupLinux o) epollExit)) ∧
      (∀ o, InitProtocol (dataSetupMac o) ∧ ReleasesAll (dataLife (dataSetupMac o) kqueueExit)) ∧
      ∀ o, InitProtocol (eventSetup o) :=
  ⟨fun o => ⟨dataSetupLinux_initProtocol o, dataLifeLinux_releasesAll o⟩,
    fun o => ⟨dataSetupMac_initProtocol o, dataLifeMac_releasesAll o⟩, eventSetup_initProtocol⟩

end SerialComm.Unix
