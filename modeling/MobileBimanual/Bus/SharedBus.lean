/-
# The arbiter of the shared UART

`shared_bus.c` in full.  One transaction owns the bus at a time, under a token that is never
used twice within a boot.  A transaction that overruns its budget, or whose transport fails,
keeps its ownership and faults the bus until `recover`; a STOP that is pending keeps every other
work off the bus until a STOP transaction completes.

A time is a reading of the 32-bit microsecond clock, and every comparison is made on differences
of readings, as in the source.
-/
import MobileBimanual.Stream.Contract

namespace MobileBimanual.Bus

open MobileBimanual.Stream (Byte Tick)

/-! ## 1. The record -/

/-- `actuator_bus_work_t`. -/
inductive Work where
  | stop
  | arm
  | wheels
  | lift
  | feedback
  deriving DecidableEq

instance : Fintype Work := ⟨{.stop, .arm, .wheels, .lift, .feedback}, fun k => by cases k <;> decide⟩

/-- The work of an enumerator; `ACTUATOR_BUS_WORK_COUNT` and above name none. -/
def Work.ofNat? : Nat → Option Work
  | 0 => some .stop
  | 1 => some .arm
  | 2 => some .wheels
  | 3 => some .lift
  | 4 => some .feedback
  | _ => none

def Work.toNat : Work → Nat
  | .stop => 0
  | .arm => 1
  | .wheels => 2
  | .lift => 3
  | .feedback => 4

theorem Work.toNat_of_ofNat? {n : Nat} {work : Work} (h : Work.ofNat? n = some work) :
    work.toNat = n := by
  unfold Work.ofNat? at h
  split at h <;> cases h <;> rfl

structure SharedBus where
  active : Bool
  stopPending : Bool
  faulted : Bool
  token : Tick
  startedUs : Tick
  budgetUs : Tick
  owner : Work

/-- `UINT32_MAX`: the token that is never given out. -/
def lastToken : Tick := 0xFFFFFFFF

/-- Half the clock's circle: what lies further ahead counts as past. -/
def halfCircle : Tick := 0x80000000

namespace SharedBus

/-! ## 2. The operations -/

def init : SharedBus where
  active := false
  stopPending := false
  faulted := false
  token := 0
  startedUs := 0
  budgetUs := 0
  owner := .stop

def requestStop (bus : SharedBus) : SharedBus := { bus with stopPending := true }

/-- Both failures of a transaction leave the bus like this. -/
def faultStop (bus : SharedBus) : SharedBus := { bus with faulted := true, stopPending := true }

/-- The transaction in flight has used up its budget. -/
def overrun (bus : SharedBus) (nowUs : Tick) : Bool :=
  bus.active && bus.budgetUs ≤ nowUs - bus.startedUs

def poll (bus : SharedBus) (nowUs : Tick) : SharedBus :=
  if bus.overrun nowUs then bus.faultStop else bus

/-- The check `acquire` makes after its poll. -/
def grants (bus : SharedBus) (work : Work) (budgetUs availableUs : Tick) : Bool :=
  !(budgetUs == 0 || halfCircle ≤ budgetUs || halfCircle ≤ availableUs || bus.faulted ||
    bus.active || (bus.stopPending && work != .stop) || (work != .stop && availableUs < budgetUs))

def acquire (bus : SharedBus) (work : Work) (nowUs budgetUs availableUs : Tick) :
    SharedBus × Option Tick :=
  let bus := bus.poll nowUs
  if !bus.grants work budgetUs availableUs then (bus, none)
  -- the last token is never given out, so that none is given out twice
  else if bus.token == lastToken then (bus.faultStop, none)
  else
    ({ bus with
        token := bus.token + 1
        active := true
        owner := work
        startedUs := nowUs
        budgetUs := budgetUs }, some (bus.token + 1))

def complete (bus : SharedBus) (token nowUs : Tick) (transportOk : Bool) : SharedBus × Bool :=
  let bus := bus.poll nowUs
  if !bus.active || token != bus.token || bus.faulted then (bus, false)
  else if !transportOk then (bus.faultStop, false)
  else
    ({ bus with
        active := false
        stopPending := bus.stopPending && bus.owner != .stop }, true)

def recover (bus : SharedBus) (uartIdle : Bool) : SharedBus × Bool :=
  if !uartIdle || !bus.faulted || bus.token == lastToken then (bus, false)
  else ({ bus with active := false, faulted := false, stopPending := true }, true)

/-! ## 3. What they do -/

variable (bus : SharedBus)

@[simp] theorem poll_active (now : Tick) : (bus.poll now).active = bus.active := by
  unfold poll
  split <;> rfl

@[simp] theorem poll_token (now : Tick) : (bus.poll now).token = bus.token := by
  unfold poll
  split <;> rfl

@[simp] theorem poll_owner (now : Tick) : (bus.poll now).owner = bus.owner := by
  unfold poll
  split <;> rfl

@[simp] theorem poll_startedUs (now : Tick) : (bus.poll now).startedUs = bus.startedUs := by
  unfold poll
  split <;> rfl

@[simp] theorem poll_budgetUs (now : Tick) : (bus.poll now).budgetUs = bus.budgetUs := by
  unfold poll
  split <;> rfl

variable {now : Tick}

theorem poll_of_overrun {bus : SharedBus} (h : bus.overrun now = true) :
    bus.poll now = bus.faultStop := by
  rw [poll, if_pos h]

theorem poll_of_idle {bus : SharedBus} (h : bus.active = false) (now : Tick) :
    bus.poll now = bus := by
  simp [poll, overrun, h]

theorem poll_stopPending {bus : SharedBus} (h : bus.stopPending = true) :
    (bus.poll now).stopPending = true := by
  unfold poll
  split
  · rfl
  · exact h

theorem poll_faulted {bus : SharedBus} (h : bus.faulted = true) :
    (bus.poll now).faulted = true := by
  unfold poll
  split
  · rfl
  · exact h

theorem poll_stopPending_eq_false {bus : SharedBus} (h : (bus.poll now).stopPending = false) :
    bus.poll now = bus := by
  unfold poll at h ⊢
  split at h
  · cases h
  · rename_i hover
    rw [if_neg hover]

/-- What the check lets on the bus. -/
theorem grants_iff {bus : SharedBus} {work : Work} {budget available : Tick} :
    bus.grants work budget available = true ↔
      budget ≠ 0 ∧ budget < halfCircle ∧ available < halfCircle ∧ bus.faulted = false ∧
        bus.active = false ∧ (bus.stopPending = true → work = .stop) ∧
        (work ≠ .stop → budget ≤ available) := by
  simp only [grants, Bool.not_eq_true', Bool.or_eq_false_iff, beq_eq_false_iff_ne, ne_eq,
    decide_eq_false_iff_not, BitVec.not_le, Bool.and_eq_false_iff, bne_eq_false_iff_eq,
    BitVec.not_lt, and_assoc]
  refine and_congr_right fun _ => and_congr_right fun _ => and_congr_right fun _ =>
    and_congr_right fun _ => and_congr_right fun _ => and_congr ?_ ?_
  · cases bus.stopPending <;> simp
  · tauto

/-- **Acquiring**: the bus is polled and nothing more, or it faults for want of a token, or the
work owns it under the next token. -/
theorem acquire_cases (work : Work) (now budget available : Tick) :
    ((bus.poll now).grants work budget available = false ∧
      bus.acquire work now budget available = (bus.poll now, none)) ∨
    ((bus.poll now).grants work budget available = true ∧ bus.token = lastToken ∧
      bus.acquire work now budget available = ((bus.poll now).faultStop, none)) ∨
    ((bus.poll now).grants work budget available = true ∧ bus.token ≠ lastToken ∧
      bus.acquire work now budget available =
        ({ bus.poll now with
            token := bus.token + 1
            active := true
            owner := work
            startedUs := now
            budgetUs := budget }, some (bus.token + 1))) := by
  unfold acquire
  cases hg : (bus.poll now).grants work budget available
  · left
    simp [hg]
  · right
    by_cases ht : bus.token = lastToken
    · left
      simp [hg, ht]
    · right
      simp [hg, ht]

/-- **Completing**: refused, or failed, or the bus is free. -/
theorem complete_cases (token now : Tick) (ok : Bool) :
    bus.complete token now ok = (bus.poll now, false) ∨
    (bus.active = true ∧ token = bus.token ∧ (bus.poll now).faulted = false ∧ ok = false ∧
      bus.complete token now ok = ((bus.poll now).faultStop, false)) ∨
    (bus.active = true ∧ token = bus.token ∧ (bus.poll now).faulted = false ∧ ok = true ∧
      bus.complete token now ok =
        ({ bus.poll now with
            active := false
            stopPending := (bus.poll now).stopPending && bus.owner != .stop }, true)) := by
  unfold complete
  by_cases hlive : bus.active = true ∧ token = bus.token ∧ (bus.poll now).faulted = false
  · obtain ⟨ha, ht, hf⟩ := hlive
    cases ok
    · right; left
      simp [ha, ht, hf]
    · right; right
      simp [ha, ht, hf]
  · left
    have hrefuse : (!(bus.poll now).active || token != (bus.poll now).token ||
        (bus.poll now).faulted) = true := by
      cases ha : bus.active
      · simp [ha]
      · cases hf : (bus.poll now).faulted
        · simp only [poll_active, poll_token, ha, Bool.not_true, Bool.false_or, Bool.or_false,
            bne_iff_ne]
          intro ht
          exact hlive ⟨ha, ht, hf⟩
        · simp
    simp only [hrefuse, if_true]

theorem recover_cases (idle : Bool) :
    bus.recover idle = (bus, false) ∨
    (bus.faulted = true ∧ bus.recover idle =
      ({ bus with active := false, faulted := false, stopPending := true }, true)) := by
  unfold recover
  split
  · exact Or.inl rfl
  · rename_i h
    simp only [Bool.or_eq_true, Bool.not_eq_true', not_or, Bool.not_eq_false] at h
    exact Or.inr ⟨h.1.2, rfl⟩

end SharedBus

end MobileBimanual.Bus
