import Mathlib.Data.List.Basic
import Mathlib.Algebra.Group.Int

/-!
# The port monitor thread

On Linux `port_monitor` (unix_like_serial_lib.c) waits in `select` on the udev monitor's socket.
For each device `udev_monitor_receive_device` returns it copies the action, calls
`serial_delay(500)` to let udev finish running its rules, and then tells the listener: 1 for
`add`, and 2 for `remove` when `stat` of the port's name fails with an `errno` it does not
print. On macOS the IOKit callback `device_removed` makes the same test.

`serial_delay` sleeps in `pselect` with no descriptor to watch, for the `timespec` it builds
from its argument. It keeps only the whole seconds.

Before its loop the thread attaches to the JVM and builds its event source; each step may fail,
and the thread then ends with `pthread_exit`. The `SIGUSR1` handler ends it from the loop.
-/

namespace SerialComm.Unix

structure Timespec where
  tv_sec : Int
  tv_nsec : Int
  deriving DecidableEq, Repr

/-- The timeout `serial_delay(milliSeconds)` passes to `pselect`:
`t.tv_sec = milliSeconds/1000; t.tv_nsec = 0;`. -/
def serialDelay (milliSeconds : UInt32) : Timespec :=
  ⟨(milliSeconds / 1000).toNat, 0⟩

/-- How long `pselect(1, 0, 0, 0, &t, 0)` sleeps, watching no descriptor and blocking no
signal: the timeout, in nanoseconds, or `none` (`EINVAL`, no sleep) when it is out of range. -/
def pselectSleep (t : Timespec) : Option Int :=
  if 0 ≤ t.tv_sec ∧ 0 ≤ t.tv_nsec ∧ t.tv_nsec < 10 ^ 9 then
    some (t.tv_sec * 10 ^ 9 + t.tv_nsec)
  else none

/-- The `errno` values after which the `remove` branch only prints, from the system headers. -/
structure StatErrnos where
  EACCES : Nat
  ELOOP : Nat
  ENAMETOOLONG : Nat
  ENOMEM : Nat
  ENOTDIR : Nat
  EOVERFLOW : Nat
  EFAULT : Nat

def StatErrnos.printed (E : StatErrnos) : List Nat :=
  [E.EACCES, E.ELOOP, E.ENAMETOOLONG, E.ENOMEM, E.ENOTDIR, E.EOVERFLOW, E.EFAULT]

structure UdevDevice where
  action : String
  stat : Option Nat
  deriving DecidableEq, Repr

/-- The loop's body for a device received at `now` (in nanoseconds): the time at which it acts,
after `serial_delay(500)`, and the argument it passes to `onPortMonitorEvent`, if it calls it. -/
def udevDeviceStep (E : StatErrnos) (now : Int) (d : UdevDevice) : Int × Option Int :=
  let now := now + (pselectSleep (serialDelay 500)).getD 0
  if d.action = "add" then (now, some 1)
  else if d.action = "remove" then
    match d.stat with
    | none => (now, none)
    | some errno => if errno ∈ E.printed then (now, none) else (now, some 2)
  else (now, none)

-- ---------------------------------------------------------------------------
-- The timeout
-- ---------------------------------------------------------------------------

theorem serialDelay_tv_sec (m : UInt32) : (serialDelay m).tv_sec = (m.toNat / 1000 : Nat) := by
  simp only [serialDelay, UInt32.toNat_div]
  rfl

theorem pselectSleep_serialDelay (m : UInt32) :
    pselectSleep (serialDelay m) = some ((m.toNat / 1000 : Nat) * 10 ^ 9 : Int) := by
  rw [pselectSleep, serialDelay_tv_sec, if_pos (by simp only [serialDelay]; omega)]
  simp [serialDelay]

theorem udevDeviceStep_time (E : StatErrnos) (now : Int) (d : UdevDevice) :
    (udevDeviceStep E now d).1 = now + ((500 : UInt32).toNat / 1000 : Nat) * 10 ^ 9 := by
  simp only [udevDeviceStep, pselectSleep_serialDelay, Option.getD_some]
  split_ifs <;> (try split) <;> (try split_ifs) <;> rfl

/-- `serial_delay(m)` builds a valid timeout that drops the milliseconds past the last whole
second, so the port monitor acts on a device as soon as it receives it. -/
theorem serialDelay_drops_subsecond (m : UInt32) :
    0 ≤ (serialDelay m).tv_nsec ∧ (serialDelay m).tv_nsec < 10 ^ 9 ∧
      (serialDelay m).tv_sec * 1000 + (serialDelay m).tv_nsec / 10 ^ 6 =
        ((m.toNat - m.toNat % 1000 : Nat) : Int) ∧
      ∀ (E : StatErrnos) (now : Int) (d : UdevDevice), (udevDeviceStep E now d).1 = now := by
  refine ⟨by simp [serialDelay], by simp [serialDelay], ?_, fun E now d => ?_⟩
  · rw [serialDelay_tv_sec, show (serialDelay m).tv_nsec = 0 from rfl]
    omega
  · simp [udevDeviceStep_time]

-- ---------------------------------------------------------------------------
-- The removal callback on macOS
-- ---------------------------------------------------------------------------

/-- `kIOMessageServiceIsTerminated` of IOKit's IOMessage.h: `iokit_common_msg(0x010)`. -/
def kIOMessageServiceIsTerminated : Nat := 0xE0000010

/-- `device_removed`: the argument it passes to `onPortMonitorEvent`, if it calls it, for a
message of type `messageType` when `stat((*driver_reference->data).port_name, &st)` gives
`stat`. -/
def deviceRemoved (E : StatErrnos) (messageType : Nat) (stat : Option Nat) : Option Int :=
  if messageType = kIOMessageServiceIsTerminated then
    match stat with
    | none => none
    | some errno => if errno ∈ E.printed then none else some 2
  else none

theorem deviceRemoved_eq_udev (E : StatErrnos) (now : Int) (messageType : Nat)
    (stat : Option Nat) :
    deviceRemoved E messageType stat =
      if messageType = kIOMessageServiceIsTerminated then (udevDeviceStep E now ⟨"remove", stat⟩).2
      else none := by
  unfold deviceRemoved udevDeviceStep
  split
  · simp only [show ("remove" : String) ≠ "add" by decide, if_false, if_true]
    cases stat with
    | none => rfl
    | some errno => by_cases h : errno ∈ E.printed <;> simp [h]
  · rfl

-- ---------------------------------------------------------------------------
-- Setup and exit
-- ---------------------------------------------------------------------------

inductive MonitorAct where
  | attach
  | detach
  | udevNew
  | monitorNew
  | enterLoop
  | exit
  deriving DecidableEq, Repr

/-- The outcomes of the Linux setup calls: `AttachCurrentThread`, `GetObjectClass`,
`GetMethodID` of `onPortMonitorEvent`, `udev_new`, `udev_monitor_new_from_netlink`,
`udev_monitor_filter_add_match_subsystem_devtype`, `udev_monitor_enable_receiving` and
`signal(SIGUSR1, exitMonitor_signal_handler)`. -/
structure UdevSetup where
  attach : Bool
  getObjectClass : Bool
  mid : Bool
  udevNew : Bool
  monitorNew : Bool
  filter : Bool
  enableReceiving : Bool
  signal : Bool

def portMonitorSetupLinux (o : UdevSetup) : List MonitorAct :=
  if !o.attach then [.exit]
  else
    .attach ::
      if !o.getObjectClass then [.exit]
      else if !o.mid then [.exit]
      else if !o.udevNew then [.exit]
      else
        .udevNew ::
          if !o.monitorNew then [.exit]
          else
            .monitorNew ::
              if !o.filter then [.exit]
              else if !o.enableReceiving then [.exit]
              else if !o.signal then [.exit]
              else [.enterLoop]

structure IOKitSetup where
  attach : Bool
  getObjectClass : Bool
  mid : Bool
  signal : Bool
  matching : Bool

def portMonitorSetupMac (o : IOKitSetup) : List MonitorAct :=
  if !o.attach then [.exit]
  else
    .attach ::
      if !o.getObjectClass then [.exit]
      else if !o.mid then [.exit]
      else if !o.signal then [.exit]
      else if !o.matching then [.exit]
      else [.enterLoop]

def exitMonitorLinux : List MonitorAct := [.detach, .exit]

/-- `exitMonitor_signal_handler` on macOS releases the driver references and calls
`pthread_exit`. -/
def exitMonitorMac : List MonitorAct := [.exit]

def eventExitSignalHandler : List MonitorAct := [.detach, .exit]

/-- The handler of `SIGUSR1` when the monitor is stopped. `signal` sets it for the whole
process, so it is the one installed last: the monitor's own, or that of an event looper started
after it. -/
inductive Sigusr1Handler where
  | exitMonitor
  | eventExit
  deriving DecidableEq, Repr

def Sigusr1Handler.run (exitMonitor : List MonitorAct) : Sigusr1Handler → List MonitorAct
  | .exitMonitor => exitMonitor
  | .eventExit => eventExitSignalHandler

def monitorLife (setup ending : List MonitorAct) : List MonitorAct :=
  if .enterLoop ∈ setup then setup ++ ending else setup

theorem portMonitorSetupLinux_attach (o : UdevSetup) :
    (.attach ∈ portMonitorSetupLinux o ↔ o.attach) ∧ .detach ∉ portMonitorSetupLinux o := by
  unfold portMonitorSetupLinux
  simp only [apply_ite (MonitorAct.attach ∈ ·), apply_ite (MonitorAct.detach ∈ ·),
    List.mem_cons, List.mem_singleton, reduceCtorEq, List.not_mem_nil, or_false, true_or, ite_self]
  cases o.attach <;> simp

theorem portMonitorSetupMac_attach (o : IOKitSetup) :
    (.attach ∈ portMonitorSetupMac o ↔ o.attach) ∧ .detach ∉ portMonitorSetupMac o := by
  unfold portMonitorSetupMac
  simp only [apply_ite (MonitorAct.attach ∈ ·), apply_ite (MonitorAct.detach ∈ ·),
    List.mem_cons, List.mem_singleton, reduceCtorEq, List.not_mem_nil, or_false, true_or, ite_self]
  cases o.attach <;> simp

/-- The monitor thread ends attached to the JVM whenever it attached and failed in its setup. On
Linux it detaches exactly when it reached the loop, whichever handler stops it; on macOS only
when it reached the loop and an event looper's handler replaced its own. -/
theorem monitorLife_detach (o : UdevSetup) (m : IOKitSetup) (hl hm : Sigusr1Handler) :
    (.detach ∈ monitorLife (portMonitorSetupLinux o) (hl.run exitMonitorLinux) ↔
        .enterLoop ∈ portMonitorSetupLinux o) ∧
      (.attach ∈ monitorLife (portMonitorSetupLinux o) (hl.run exitMonitorLinux) ↔ o.attach) ∧
      (.detach ∈ monitorLife (portMonitorSetupMac m) (hm.run exitMonitorMac) ↔
        .enterLoop ∈ portMonitorSetupMac m ∧ hm = .eventExit) := by
  obtain ⟨hla, hld⟩ := portMonitorSetupLinux_attach o
  obtain ⟨-, hmd⟩ := portMonitorSetupMac_attach m
  unfold monitorLife
  refine ⟨?_, ?_, ?_⟩
  · split <;> rename_i h <;> cases hl <;>
      simp [Sigusr1Handler.run, exitMonitorLinux, eventExitSignalHandler, hld, h]
  · split <;> cases hl <;>
      simp [Sigusr1Handler.run, exitMonitorLinux, eventExitSignalHandler, hla]
  · split <;> rename_i h <;> cases hm <;>
      simp [Sigusr1Handler.run, exitMonitorMac, eventExitSignalHandler, hmd, h]

end SerialComm.Unix
