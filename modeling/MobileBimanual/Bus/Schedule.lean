/-
# The schedule of the shared UART

`bus_schedule.c` in full: when, in the arm's period, other work may use the bus, and which of the
three periodic kinds are due.  A poll that comes too late faults the schedule for good.
-/
import MobileBimanual.Stream.Contract

namespace MobileBimanual.Bus

open MobileBimanual.Stream (Tick)

structure ScheduleConfig where
  armPeriodUs : Tick
  armReservedUs : Tick
  guardUs : Tick
  wheelsPeriodUs : Tick
  liftPeriodUs : Tick
  feedbackPeriodUs : Tick
  maximumPollGapUs : Tick

/-- The kinds of periodic work, in the order of the bits of `due`. -/
inductive Periodic where
  | wheels
  | lift
  | feedback

structure Schedule where
  config : ScheduleConfig
  lastPollUs : Tick
  phaseUs : Tick
  dueInUs : Periodic → Tick
  initialized : Bool
  faulted : Bool

structure Window where
  availableUs : Tick
  due : Periodic → Bool
  armReserved : Bool
  stopRequired : Bool

namespace Schedule

def maximumPeriodUs : Tick := 1000000

def configOk (c : ScheduleConfig) : Bool :=
  c.armPeriodUs != 0 && c.armPeriodUs ≤ maximumPeriodUs && c.armReservedUs != 0 &&
    c.guardUs != 0 && c.armReservedUs.toNat + c.guardUs.toNat < c.armPeriodUs.toNat &&
    c.maximumPollGapUs != 0 && c.maximumPollGapUs ≤ c.armPeriodUs &&
    c.armPeriodUs ≤ c.wheelsPeriodUs && c.wheelsPeriodUs ≤ maximumPeriodUs &&
    c.armPeriodUs ≤ c.liftPeriodUs && c.liftPeriodUs ≤ maximumPeriodUs &&
    c.armPeriodUs ≤ c.feedbackPeriodUs && c.feedbackPeriodUs ≤ maximumPeriodUs

def init (config : ScheduleConfig) (epochUs : Tick) : Option Schedule :=
  if configOk config then
    some
      { config, lastPollUs := epochUs, phaseUs := 0, dueInUs := fun _ => 0
        initialized := true, faulted := false }
  else none

def period (c : ScheduleConfig) : Periodic → Tick
  | .wheels => c.wheelsPeriodUs
  | .lift => c.liftPeriodUs
  | .feedback => c.feedbackPeriodUs

/-- What a schedule that cannot answer returns. -/
def stopWindow : Window where
  availableUs := 0
  due _ := false
  armReserved := false
  stopRequired := true

/-- The clock part of a poll. -/
def elapse (s : Schedule) (nowUs : Tick) : Schedule :=
  let elapsed := nowUs - s.lastPollUs
  { s with
    lastPollUs := nowUs
    phaseUs := (s.phaseUs + elapsed) % s.config.armPeriodUs
    dueInUs := fun kind => if s.dueInUs kind ≤ elapsed then 0 else s.dueInUs kind - elapsed }

def poll (s : Schedule) (nowUs : Tick) : Schedule × Window :=
  if !s.initialized || s.faulted then (s, stopWindow)
  else if s.config.maximumPollGapUs < nowUs - s.lastPollUs then
    ({ s with faulted := true }, stopWindow)
  else
    let s := s.elapse nowUs
    let untilArm := s.config.armPeriodUs - s.phaseUs
    if s.phaseUs < s.config.armReservedUs then
      (s, { availableUs := 0, due := fun _ => false, armReserved := true, stopRequired := false })
    else if untilArm ≤ s.config.guardUs then
      (s, { availableUs := 0, due := fun _ => false, armReserved := false, stopRequired := false })
    else
      ({ s with
          dueInUs := fun kind => if s.dueInUs kind = 0 then period s.config kind else s.dueInUs kind },
        { availableUs := untilArm - s.config.guardUs
          due := fun kind => s.dueInUs kind == 0
          armReserved := false
          stopRequired := false })

end Schedule

end MobileBimanual.Bus
