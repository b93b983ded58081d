/-
# The device startup machine

`device_startup.c`, the maintenance script for the four mobile motors: each must answer with its
identity, stand in wheel mode and have its EEPROM locked.  An axis in another mode may be switched
over, behind its own torque-off reading: unlock, mode, lock, and both read back.

What a run has begun, issued and taken for an answer is written down beside the machine, newest
first; the results are about that history.

* `verified_of_ready`: READY stands for four verified axes;
* `lawful_run`: every write was permitted by what had happened before it;
* `begin_of_unlocked`: nothing begins while an axis may have been left unlocked.

`Sound` is the invariant: what is known of the axis under way in each phase (`AtPhase`).
-/
import MobileBimanual.Lib.History
import MobileBimanual.Lib.Machine
import MobileBimanual.Mobile.Packet

namespace MobileBimanual.Mobile

open MobileBimanual.Stream (Byte Tick readU16Le)
open History Machine

/-! ## 1. The record -/

/-- `model[4]` is read at the axes 0 to 3 only. -/
structure DeviceProfile where
  model : Nat → BitVec 16
  baudCode : Byte
  timeoutMs : Tick

/-- `data` is `data[0]`; `data[1]` stays zero. -/
structure DeviceOperation where
  id : Byte
  address : Byte
  length : Nat
  data : Byte
  write : Bool
  token : BitVec 32

inductive DeviceStartupState where
  | idle
  | checking
  | ready
  | fault
  deriving DecidableEq

/-- The phases 0 to 7 of the script. -/
inductive StartupPhase where
  | identity
  | mode
  | torqueOff
  | unlock
  | setMode
  | lock
  | modeReadback
  | lockReadback
  deriving DecidableEq

structure DeviceStartup where
  profile : DeviceProfile
  state : DeviceStartupState
  pending : DeviceOperation
  startedMs : Tick
  token : BitVec 32
  axis : Nat
  phase : StartupPhase
  allowModeChange : Bool
  modeChanged : Bool
  active : Bool
  epromUnlocked : Bool

/-- `actuator_mobile_axis_id` -/
def MobileIds.axisId (ids : MobileIds) (axis : Nat) : Byte :=
  if axis < 4 then BitVec.ofNat 8 (ids.first + axis) else 0

theorem MobileIds.axisId_inj (ids : MobileIds) {axis other : Nat} (haxis : axis < 4)
    (hother : other < 4) (h : ids.axisId axis = ids.axisId other) : axis = other := by
  have hbelow := ids.below
  have hnat := congrArg BitVec.toNat h
  rw [axisId, axisId, if_pos haxis, if_pos hother, BitVec.toNat_ofNat, BitVec.toNat_ofNat,
    Nat.mod_eq_of_lt (by omega), Nat.mod_eq_of_lt (by omega)] at hnat
  omega

/-! ## 2. The calls -/

namespace DeviceStartup

def noOperation : DeviceOperation := ⟨0, 0, 0, 0, false, 0⟩

/-- The record after `memset`. -/
def zero : DeviceStartup where
  profile := ⟨fun _ => 0, 0, 0⟩
  state := .idle
  pending := noOperation
  startedMs := 0
  token := 0
  axis := 0
  phase := .identity
  allowModeChange := false
  modeChanged := false
  active := false
  epromUnlocked := false

variable (ids : MobileIds) (s : DeviceStartup)

def refusesBegin (p : DeviceProfile) (change secured : Bool) : Bool :=
  s.state == .checking || s.epromUnlocked || p.timeoutMs == 0 || 0x80000000 ≤ p.timeoutMs ||
    7 < p.baudCode || (change && !secured) ||
    (List.range 4).any fun i => p.model i == 0 || p.model i == 0xFFFF

/-- The record of a script that begins. -/
def started (p : DeviceProfile) (now : Tick) (change : Bool) : DeviceStartup :=
  { zero with
    profile := p
    state := .checking
    startedMs := now
    allowModeChange := change }

def begin (p : DeviceProfile) (now : Tick) (change secured : Bool) : DeviceStartup × Bool :=
  if s.refusesBegin p change secured then (s, false) else (started p now change, true)

def fault : DeviceStartup := { s with state := .fault }

def poll (now : Tick) : DeviceStartup :=
  if s.state = .checking ∧ s.profile.timeoutMs ≤ now - s.startedMs then s.fault else s

def operation (id : Byte) (token : BitVec 32) : StartupPhase → DeviceOperation
  | .identity => ⟨id, 3, 4, 0, false, token⟩
  | .mode | .modeReadback => ⟨id, 33, 1, 0, false, token⟩
  | .torqueOff => ⟨id, 40, 1, 0, false, token⟩
  | .unlock => ⟨id, 55, 1, 0, true, token⟩
  | .setMode => ⟨id, 33, 1, 1, true, token⟩
  | .lock => ⟨id, 55, 1, 1, true, token⟩
  | .lockReadback => ⟨id, 55, 1, 0, false, token⟩

/-- The EEPROM counts as unlocked from the moment the write is handed out. -/
def issue : DeviceStartup :=
  { s with
    token := s.token + 1
    epromUnlocked := if s.phase = .unlock then true else s.epromUnlocked
    pending := operation (ids.axisId s.axis) (s.token + 1) s.phase
    active := true }

def next (now : Tick) : DeviceStartup × Option DeviceOperation :=
  let s := s.poll now
  if s.state ≠ .checking ∨ s.active ∨ s.token = 0xFFFFFFFF then (s, none)
  else (s.issue ids, some (s.issue ids).pending)

/-- Where a fitting answer leads; `none` is a fault. -/
def judge (data : List Byte) : Option DeviceStartup :=
  match s.phase with
  | .identity =>
    if readU16Le data 0 ≠ s.profile.model s.axis ∨ data.getD 2 0 ≠ ids.axisId s.axis ∨
        data.getD 3 0 ≠ s.profile.baudCode then none
    else some { s with phase := .mode }
  | .mode =>
    if data.getD 0 0 = 1 then some { s with phase := .lockReadback }
    else if s.allowModeChange then some { s with phase := .torqueOff }
    else none
  | .torqueOff => if data.getD 0 0 ≠ 0 then none else some { s with phase := .unlock }
  | .unlock => some { s with epromUnlocked := true, phase := .setMode }
  | .setMode => some { s with modeChanged := true, phase := .lock }
  | .lock => some { s with phase := .modeReadback }
  | .modeReadback => if data.getD 0 0 ≠ 1 then none else some { s with phase := .lockReadback }
  | .lockReadback =>
    if data.getD 0 0 ≠ 1 then none
    else if s.axis + 1 = 4 then
      some { s with epromUnlocked := false, axis := s.axis + 1, state := .ready }
    else some { s with epromUnlocked := false, axis := s.axis + 1, phase := .identity }

/-- `data` is NULL or points to `length` bytes. -/
def reply (token : BitVec 32) (data : Option (List Byte)) (length : Nat) (ok : Bool)
    (now : Tick) : DeviceStartup × Bool :=
  if ¬ s.active ∨ token ≠ s.pending.token then (s, false)
  else
    let s := s.poll now
    if s.state ≠ .checking then (s, false)
    else if ¬ ok ∨ length ≠ (if s.pending.write then 0 else s.pending.length) ∨
        (length ≠ 0 ∧ data = none) then (s.fault, false)
    else match s.judge ids (data.getD []) with
      | none => (s.fault, false)
      | some s => ({ s with active := false }, true)

end DeviceStartup

/-! ## 3. The history of a run -/

inductive StartupEntry where
  | begun (profile : DeviceProfile) (change : Bool)
  | issued (operation : DeviceOperation)
  | answered (operation : DeviceOperation) (data : List Byte)

inductive StartupCall where
  | begin (profile : DeviceProfile) (now : Tick) (change secured : Bool)
  | poll (now : Tick)
  | next (now : Tick)
  | reply (token : BitVec 32) (data : Option (List Byte)) (length : Nat) (ok : Bool) (now : Tick)

structure StartupRun where
  machine : DeviceStartup
  history : List StartupEntry

namespace StartupRun

/-- Zero-initialised, as the header asks. -/
def init : StartupRun := ⟨.zero, []⟩

/-- A call goes into the history if it is taken. -/
def step (ids : MobileIds) (r : StartupRun) : StartupCall → StartupRun
  | .begin p now change secured =>
    match r.machine.begin p now change secured with
    | (s, true) => ⟨s, .begun p change :: r.history⟩
    | (s, false) => ⟨s, r.history⟩
  | .poll now => ⟨r.machine.poll now, r.history⟩
  | .next now =>
    match r.machine.next ids now with
    | (s, some operation) => ⟨s, .issued operation :: r.history⟩
    | (s, none) => ⟨s, r.history⟩
  | .reply token data length ok now =>
    match r.machine.reply ids token data length ok now with
    | (s, true) => ⟨s, .answered r.machine.pending (data.getD []) :: r.history⟩
    | (s, false) => ⟨s, r.history⟩

end StartupRun

/-! ## 4. What a history says -/

namespace StartupEntry

inductive Begins : StartupEntry → Prop
  | begun (p : DeviceProfile) (change : Bool) : Begins (.begun p change)

/-- The register of the servo was read, and held the value. -/
inductive ReadBack (id address value : Byte) : StartupEntry → Prop
  | answered {op : DeviceOperation} {data : List Byte} (hread : op.write = false) (hid : op.id = id)
    (haddress : op.address = address) (hvalue : data.getD 0 0 = value) :
    ReadBack id address value (.answered op data)

/-- The axis returned the identity that the profile expects. -/
inductive Identifies (ids : MobileIds) (p : DeviceProfile) (axis : Nat) : StartupEntry → Prop
  | answered {op : DeviceOperation} {data : List Byte} (hread : op.write = false)
    (hop : op.id = ids.axisId axis) (haddress : op.address = 3)
    (hmodel : readU16Le data 0 = p.model axis) (hid : data.getD 2 0 = ids.axisId axis)
    (hbaud : data.getD 3 0 = p.baudCode) : Identifies ids p axis (.answered op data)

/-- A register of the servo was written. -/
inductive Writes (id : Byte) : StartupEntry → Prop
  | issued {op : DeviceOperation} (hwrite : op.write = true) (hid : op.id = id) :
    Writes id (.issued op)

/-- The write that unlocks the servo's EEPROM was handed out. -/
inductive Unlocks (id : Byte) : StartupEntry → Prop
  | issued {op : DeviceOperation} (hwrite : op.write = true) (hid : op.id = id)
    (haddress : op.address = 55) (hdata : op.data = 0) : Unlocks id (.issued op)

instance : DecidablePred Begins
  | .begun p change => isTrue (.begun p change)
  | .issued _ => isFalse nofun
  | .answered _ _ => isFalse nofun

def write? (id : Byte) : StartupEntry → Option (Byte × Byte)
  | .issued op => if op.write && op.id == id then some (op.address, op.data) else none
  | _ => none

end StartupEntry

open StartupEntry

variable {ids : MobileIds}

/-- The current episode was begun so. -/
def Begun (p : DeviceProfile) (change : Bool) : List StartupEntry → Prop :=
  Since (· = .begun p change) Begins

/-- Register and value of the writes to a servo in the current episode, in their order. -/
def writesTo (id : Byte) (history : List StartupEntry) : List (Byte × Byte) :=
  ((Until Begins history).filterMap (write? id)).reverse

/-- Unlock, wheel mode, lock. -/
def writeScript : List (Byte × Byte) := [(55, 0), (33, 1), (55, 1)]

/-- A write is permitted: mode changes are allowed, the axis matched its identity and was read
torque-off, all in this episode, and the script goes on with it. -/
inductive Permitted (ids : MobileIds) (earlier : List StartupEntry) : StartupEntry → Prop
  | write {op : DeviceOperation} {p : DeviceProfile} {axis : Nat} (haxis : axis < 4)
    (hid : op.id = ids.axisId axis) (hbegun : Begun p true earlier)
    (hidentified : Since (Identifies ids p axis) Begins earlier)
    (htorque : Since (ReadBack (ids.axisId axis) 40 0) Begins earlier)
    (horder : writesTo (ids.axisId axis) earlier ++ [(op.address, op.data)] <+: writeScript) :
    Permitted ids earlier (.issued op)

/-- Writes are permitted; the other entries need no permission. -/
def InOrder (ids : MobileIds) (earlier : List StartupEntry) (e : StartupEntry) : Prop :=
  (∃ id, Writes id e) → Permitted ids earlier e

/-- The axis matched its identity in this episode, and stands in wheel mode with its EEPROM locked:
both were read back, and nothing was written to it since. -/
structure Verified (ids : MobileIds) (p : DeviceProfile) (axis : Nat)
    (history : List StartupEntry) : Prop where
  identified : Since (Identifies ids p axis) Begins history
  wheel : Since (ReadBack (ids.axisId axis) 33 1)
    (fun e => Begins e ∨ Writes (ids.axisId axis) e) history
  locked : Since (ReadBack (ids.axisId axis) 55 1)
    (fun e => Begins e ∨ Writes (ids.axisId axis) e) history

/-- An unlocking write was handed out, in whatever episode, and the lock was not read back since. -/
def MayBeUnlocked (id : Byte) : List StartupEntry → Prop := Since (Unlocks id) (ReadBack id 55 1)

/-! ## 5. What an entry does to them -/

section Entries

variable {id : Byte} {history : List StartupEntry} {e : StartupEntry}

theorem not_begins_issued (op : DeviceOperation) : ¬ Begins (.issued op) := nofun

theorem writesTo_begun (p : DeviceProfile) (change : Bool) :
    writesTo id (.begun p change :: history) = [] := by
  rw [writesTo, until_cons_of (.begun p change)]
  rfl

theorem writesTo_cons (hbegins : ¬ Begins e) (hwrites : ¬ Writes id e) :
    writesTo id (e :: history) = writesTo id history := by
  have hnone : e.write? id = none := by
    cases e with
    | begun p change => rfl
    | answered op data => rfl
    | issued op =>
      rw [write?, if_neg]
      intro h
      rw [Bool.and_eq_true, beq_iff_eq] at h
      exact hwrites (.issued h.1 h.2)
  rw [writesTo, until_cons_of_not hbegins, List.filterMap_cons_none hnone, writesTo]

theorem writesTo_issued {op : DeviceOperation} (hwrite : op.write = true) (hid : op.id = id) :
    writesTo id (.issued op :: history) = writesTo id history ++ [(op.address, op.data)] := by
  have hsome : write? id (.issued op) = some (op.address, op.data) := by
    rw [write?, hwrite, hid, beq_self_eq_true, Bool.and_self, if_pos rfl]
  rw [writesTo, until_cons_of_not nofun, List.filterMap_cons_some hsome, List.reverse_cons,
    writesTo]

theorem Verified.after {p : DeviceProfile} {axis : Nat} (h : Verified ids p axis history)
    (hbegins : ¬ Begins e) (hwrites : ¬ Writes (ids.axisId axis) e) :
    Verified ids p axis (e :: history) :=
  ⟨h.identified.after hbegins, h.wheel.after (not_or.mpr ⟨hbegins, hwrites⟩),
    h.locked.after (not_or.mpr ⟨hbegins, hwrites⟩)⟩

end Entries

/-! ## 6. What a call does -/

/-- What a call does to a run. -/
inductive Does (ids : MobileIds) (r : StartupRun) : StartupRun → Prop
  | stays : Does ids r r
  | faults : Does ids r ⟨r.machine.fault, r.history⟩
  | begins (p : DeviceProfile) (now : Tick) (change : Bool)
    (hlocked : r.machine.epromUnlocked = false) :
    Does ids r ⟨.started p now change, .begun p change :: r.history⟩
  | issues (hchecking : r.machine.state = .checking) (hidle : r.machine.active = false) :
    Does ids r ⟨r.machine.issue ids, .issued (r.machine.issue ids).pending :: r.history⟩
  | answers (data : List Byte) (s : DeviceStartup) (hchecking : r.machine.state = .checking)
    (hactive : r.machine.active = true) (hjudge : r.machine.judge ids data = some s) :
    Does ids r ⟨{ s with active := false }, .answered r.machine.pending data :: r.history⟩

open DeviceStartup

theorem DeviceStartup.poll_cases (s : DeviceStartup) (now : Tick) :
    s.poll now = s ∨ s.poll now = s.fault := by
  unfold poll
  split
  · exact .inr rfl
  · exact .inl rfl

variable (r : StartupRun)

theorem does_begin (p : DeviceProfile) (now : Tick) (change secured : Bool) :
    Does ids r (r.step ids (.begin p now change secured)) := by
  simp only [StartupRun.step, begin]
  by_cases hrefuses : r.machine.refusesBegin p change secured = true
  · rw [if_pos hrefuses]
    exact .stays
  · rw [if_neg hrefuses]
    refine .begins p now change (Bool.eq_false_iff.mpr fun hunlocked => hrefuses ?_)
    simp [refusesBegin, hunlocked]

theorem does_next (now : Tick) : Does ids r (r.step ids (.next now)) := by
  simp only [StartupRun.step, next]
  rcases r.machine.poll_cases now with hpoll | hpoll <;> rw [hpoll]
  · split
    next h =>
      split at h <;> cases h
      next hready =>
        simp only [not_or, ne_eq, not_not, Bool.not_eq_true] at hready
        exact .issues hready.1 hready.2.1
    next h =>
      split at h <;> cases h
      exact .stays
  · rw [if_pos (.inl (by simp [fault]))]
    exact .faults

theorem does_reply (token : BitVec 32) (data : Option (List Byte)) (length : Nat) (ok : Bool)
    (now : Tick) : Does ids r (r.step ids (.reply token data length ok now)) := by
  simp only [StartupRun.step, reply]
  by_cases hpending : ¬ r.machine.active ∨ token ≠ r.machine.pending.token
  · rw [if_pos hpending]
    exact .stays
  · rw [if_neg hpending]
    rw [not_or, not_not] at hpending
    rcases r.machine.poll_cases now with hpoll | hpoll <;> rw [hpoll]
    · by_cases hchecking : r.machine.state ≠ .checking
      · rw [if_pos hchecking]
        exact .stays
      rw [if_neg hchecking]
      by_cases hbad : ¬ ok ∨ length ≠ (if r.machine.pending.write then 0
          else r.machine.pending.length) ∨ (length ≠ 0 ∧ data = none)
      · rw [if_pos hbad]
        exact .faults
      rw [if_neg hbad]
      generalize hjudge : r.machine.judge ids (data.getD []) = judged
      cases judged with
      | none => exact .faults
      | some s => exact .answers (data.getD []) s (not_not.mp hchecking) hpending.1 hjudge
    · rw [if_pos (by simp [fault])]
      exact .faults

theorem does_step (call : StartupCall) : Does ids r (r.step ids call) := by
  cases call with
  | begin p now change secured => exact does_begin r p now change secured
  | poll now =>
    simp only [StartupRun.step]
    rcases r.machine.poll_cases now with hpoll | hpoll <;> rw [hpoll]
    · exact .stays
    · exact .faults
  | next now => exact does_next r now
  | reply token data length ok now => exact does_reply r token data length ok now

/-! ## 7. The invariant -/

/-- How much of the write script lies behind a phase, or its operation under way. -/
def StartupPhase.written : StartupPhase → Bool → Nat
  | .identity, _ | .mode, _ | .torqueOff, _ => 0
  | .unlock, active => active.toNat
  | .setMode, active => 1 + active.toNat
  | .lock, active => 2 + active.toNat
  | .modeReadback, _ | .lockReadback, _ => 3

/-- The phases that lead to a write. -/
def StartupPhase.Switching (phase : StartupPhase) : Prop :=
  phase = .torqueOff ∨ phase = .unlock ∨ phase = .setMode ∨ phase = .lock

/-- What is known of the axis under way. -/
structure AtPhase (ids : MobileIds) (s : DeviceStartup) (history : List StartupEntry) : Prop where
  identified : s.phase ≠ .identity → Since (Identifies ids s.profile s.axis) Begins history
  chosen : s.phase.Switching → s.allowModeChange = true
  torque : s.phase.Switching → s.phase ≠ .torqueOff →
    Since (ReadBack (ids.axisId s.axis) 40 0) Begins history
  written : s.phase ≠ .lockReadback →
    writesTo (ids.axisId s.axis) history = writeScript.take (s.phase.written s.active)
  wheel : s.phase = .lockReadback → Since (ReadBack (ids.axisId s.axis) 33 1)
    (fun e => Begins e ∨ Writes (ids.axisId s.axis) e) history
  pending : s.active = true →
    s.pending = operation (ids.axisId s.axis) s.token s.phase

/-- A script under way. -/
structure Checking (ids : MobileIds) (s : DeviceStartup) (history : List StartupEntry) :
    Prop where
  begun : Begun s.profile s.allowModeChange history
  axis : s.axis < 4
  behind : ∀ j < s.axis, Verified ids s.profile j history
  ahead : ∀ j, s.axis < j → j < 4 → writesTo (ids.axisId j) history = []
  phase : AtPhase ids s history

/-- The axes that may be unlocked are the machine's business. -/
structure Guarded (ids : MobileIds) (s : DeviceStartup) (history : List StartupEntry) : Prop where
  flagged : ∀ j < 4, MayBeUnlocked (ids.axisId j) history → s.epromUnlocked = true
  here : s.state = .checking → ∀ j < 4, MayBeUnlocked (ids.axisId j) history → j = s.axis

structure Sound (ids : MobileIds) (r : StartupRun) : Prop where
  checking : r.machine.state = .checking → Checking ids r.machine r.history
  ready : r.machine.state = .ready →
    Begun r.machine.profile r.machine.allowModeChange r.history ∧
      ∀ j < 4, Verified ids r.machine.profile j r.history
  guarded : Guarded ids r.machine r.history
  lawful : Lawful (InOrder ids) r.history

theorem sound_init : Sound ids .init where
  checking := nofun
  ready := nofun
  guarded := ⟨fun _ _ h => h.elim, nofun⟩
  lawful := trivial

open StartupPhase

theorem sound_begins {r : StartupRun} (h : Sound ids r) (p : DeviceProfile) (now : Tick)
    (change : Bool) (hlocked : r.machine.epromUnlocked = false) :
    Sound ids ⟨.started p now change, .begun p change :: r.history⟩ := by
  have hnone : ∀ j < 4, ¬ MayBeUnlocked (ids.axisId j) (.begun p change :: r.history) := by
    intro j hj hmay
    rw [MayBeUnlocked, since_cons_of_not nofun nofun] at hmay
    exact nomatch hlocked.symm.trans (h.guarded.flagged j hj hmay)
  have hswitching : ¬ Switching .identity := by simp [Switching]
  constructor
  case checking =>
    refine fun _ => ⟨.inl rfl, Nat.zero_lt_succ 3, nofun, fun j _ _ => writesTo_begun p change, ?_⟩
    exact ⟨fun h => absurd rfl h, fun h => absurd h hswitching, fun h => absurd h hswitching,
      fun _ => writesTo_begun p change, nofun, nofun⟩
  case ready => exact nofun
  case guarded =>
    exact ⟨fun j hj hmay => absurd hmay (hnone j hj), fun _ j hj hmay => absurd hmay (hnone j hj)⟩
  case lawful => exact ⟨nofun, h.lawful⟩

/-! ## 8. An operation is issued -/

section Issue

variable {s : DeviceStartup} {history : List StartupEntry} {id : Byte} {token : BitVec 32}

theorem operation_id : ∀ phase, (operation id token phase).id = id := by
  intro phase
  cases phase <;> rfl

variable {phase : StartupPhase}

theorem operation_write (h : (operation id token phase).write = true) :
    phase.Switching ∧ phase ≠ .torqueOff ∧ phase ≠ .identity ∧ phase ≠ .lockReadback ∧
      writeScript.take (phase.written false) ++
        [((operation id token phase).address,
          (operation id token phase).data)] =
        writeScript.take (phase.written true) := by
  cases phase <;>
    simp [operation, Switching, written, writeScript] at h ⊢

theorem operation_read (h : (operation id token phase).write = false) :
    phase.written true = phase.written false := by
  cases phase <;> simp [operation, written] at h ⊢

theorem operation_unlocks {servo : Byte}
    (h : Unlocks servo (.issued (operation id token phase))) : phase = .unlock := by
  obtain ⟨hwrite, -, haddress, hdata⟩ := h
  cases phase <;> simp [operation] at hwrite haddress hdata ⊢

/-- A write of the script is permitted where its phase has been reached. -/
theorem permitted_issue (h : Checking ids s history) (hidle : s.active = false)
    (hwrite : (s.issue ids).pending.write = true) :
    Permitted ids history (.issued (s.issue ids).pending) := by
  obtain ⟨hswitching, htorque, hidentity, hlast, hscript⟩ := operation_write hwrite
  have hbegun := h.begun
  rw [h.phase.chosen hswitching] at hbegun
  refine .write h.axis (operation_id s.phase) hbegun (h.phase.identified hidentity)
    (h.phase.torque hswitching htorque) ?_
  rw [h.phase.written hlast, hidle]
  exact hscript ▸ List.take_prefix _ _

theorem checking_issue (h : Checking ids s history) (hidle : s.active = false) :
    Checking ids (s.issue ids) (.issued (s.issue ids).pending :: history) := by
  have hid : (s.issue ids).pending.id = ids.axisId s.axis := operation_id s.phase
  have hother : ∀ j < 4, j ≠ s.axis → ¬ Writes (ids.axisId j) (.issued (s.issue ids).pending) := by
    rintro j hj hne ⟨-, hop⟩
    exact hne (ids.axisId_inj hj h.axis (hop.symm.trans hid))
  constructor
  case begun => exact h.begun.after nofun
  case axis => exact h.axis
  case behind =>
    intro j hj
    have haxis := h.axis
    exact (h.behind j hj).after nofun (hother j (hj.trans haxis) (Nat.ne_of_lt hj))
  case ahead =>
    intro j hj hj4
    rw [writesTo_cons (not_begins_issued _) (hother j hj4 (Nat.ne_of_gt hj))]
    exact h.ahead j hj hj4
  case phase =>
    constructor
    case identified => exact fun hphase => (h.phase.identified hphase).after nofun
    case chosen => exact h.phase.chosen
    case torque => exact fun hswitching hphase => (h.phase.torque hswitching hphase).after nofun
    case pending => exact fun _ => rfl
    case written =>
      intro hphase
      have hbefore := h.phase.written hphase
      rw [hidle] at hbefore
      cases hwrite : (s.issue ids).pending.write with
      | true =>
        obtain ⟨-, -, -, -, hscript⟩ := operation_write hwrite
        exact (writesTo_issued hwrite hid).trans ((congrArg (· ++ _) hbefore).trans hscript)
      | false =>
        have hreads : ¬ Writes (ids.axisId s.axis) (.issued (s.issue ids).pending) := by
          rintro ⟨h, -⟩
          exact nomatch h.symm.trans hwrite
        have hsame := operation_read hwrite
        exact (writesTo_cons (not_begins_issued _) hreads).trans
          (hbefore.trans (congrArg writeScript.take hsame.symm))
    case wheel =>
      intro hphase
      refine (h.phase.wheel hphase).after (not_or.mpr ⟨nofun, ?_⟩)
      rintro ⟨hwrite, -⟩
      obtain ⟨-, -, -, hlast, -⟩ := operation_write hwrite
      exact hlast hphase

theorem sound_issues {r : StartupRun} (h : Sound ids r) (hchecking : r.machine.state = .checking)
    (hidle : r.machine.active = false) :
    Sound ids ⟨r.machine.issue ids, .issued (r.machine.issue ids).pending :: r.history⟩ := by
  have hc := h.checking hchecking
  have hid : (r.machine.issue ids).pending.id = ids.axisId r.machine.axis := operation_id r.machine.phase
  constructor
  case checking => exact fun _ => checking_issue hc hidle
  case ready => exact fun hready => nomatch hchecking.symm.trans hready
  case lawful =>
    refine ⟨?_, h.lawful⟩
    rintro ⟨id, hwrite, -⟩
    exact permitted_issue hc hidle hwrite
  case guarded =>
    constructor
    case flagged =>
      rintro j hj (hunlocks | ⟨-, hmay⟩)
      · exact if_pos (operation_unlocks hunlocks)
      · have hflag := h.guarded.flagged j hj hmay
        simp [issue, hflag]
    case here =>
      rintro - j hj (hunlocks | ⟨-, hmay⟩)
      · obtain ⟨-, hop, -⟩ := hunlocks
        exact ids.axisId_inj hj hc.axis (hop.symm.trans hid)
      · exact h.guarded.here hchecking j hj hmay

end Issue

/-! ## 9. An answer is taken -/

section Answer

variable {s s' : DeviceStartup} {history : List StartupEntry} {op : DeviceOperation}
  {data : List Byte}

theorem not_begins_answered (op : DeviceOperation) (data : List Byte) :
    ¬ Begins (.answered op data) := nofun

theorem writesTo_answered (id : Byte) :
    writesTo id (.answered op data :: history) = writesTo id history :=
  writesTo_cons (not_begins_answered op data) nofun

theorem Verified.answered {p : DeviceProfile} {axis : Nat} (h : Verified ids p axis history) :
    Verified ids p axis (.answered op data :: history) :=
  h.after nofun nofun

/-- The script goes on with the same axis. -/
theorem checking_answered (h : Checking ids s history) (hprofile : s'.profile = s.profile)
    (hallow : s'.allowModeChange = s.allowModeChange) (haxis : s'.axis = s.axis)
    (hphase : AtPhase ids s' (.answered op data :: history)) :
    Checking ids s' (.answered op data :: history) := by
  constructor
  case begun =>
    rw [hprofile, hallow]
    exact h.begun.after nofun
  case axis => exact haxis ▸ h.axis
  case behind =>
    intro j hj
    rw [hprofile]
    exact (h.behind j (haxis ▸ hj)).answered
  case ahead =>
    intro j hj hj4
    rw [writesTo_answered]
    exact h.ahead j (haxis ▸ hj) hj4
  case phase => exact hphase

/-- The script goes on to its next axis. -/
theorem checking_nextAxis (h : Checking ids s history) (hverified : Verified ids s.profile s.axis
    (.answered op data :: history)) (haxis : s.axis + 1 ≠ 4) :
    Checking ids { s with epromUnlocked := false, axis := s.axis + 1, phase := .identity, active := false }
      (.answered op data :: history) := by
  have hlt := h.axis
  have hnew : writesTo (ids.axisId (s.axis + 1)) (.answered op data :: history) = [] :=
    (writesTo_answered _).trans (h.ahead _ (Nat.lt_succ_self _) (by omega))
  have hswitching : ¬ Switching .identity := by simp [Switching]
  constructor
  case begun => exact h.begun.after nofun
  case axis => exact Nat.lt_of_le_of_ne hlt haxis
  case behind =>
    intro j hj
    rcases Nat.lt_succ_iff_lt_or_eq.mp hj with hj | rfl
    · exact (h.behind j hj).answered
    · exact hverified
  case ahead =>
    intro j hj hj4
    rw [writesTo_answered]
    exact h.ahead j ((Nat.lt_succ_self _).trans hj) hj4
  case phase =>
    exact ⟨fun h => absurd rfl h, fun h => absurd h hswitching, fun h => absurd h hswitching,
      fun _ => hnew, nofun, nofun⟩

/-- Nothing that a read is answered with makes an axis count as unlocked. -/
theorem MayBeUnlocked.of_answered {id : Byte} (h : MayBeUnlocked id (.answered op data :: history)) :
    ¬ ReadBack id 55 1 (.answered op data) ∧ MayBeUnlocked id history := by
  rcases h with h | h
  · exact nomatch h
  · exact h

theorem verified_answer (h : Checking ids s history) (hactive : s.active = true)
    (hphase : s.phase = .lockReadback) (hdata : data.getD 0 0 = 1) :
    ReadBack (ids.axisId s.axis) 55 1 (.answered s.pending data) ∧
      Verified ids s.profile s.axis (.answered s.pending data :: history) := by
  have hop := h.phase.pending hactive
  rw [hphase] at hop
  have hread : ReadBack (ids.axisId s.axis) 55 1 (.answered s.pending data) := by
    rw [hop]
    exact .answered rfl rfl rfl hdata
  refine ⟨hread, ?_, ?_, .now hread history⟩
  · exact (h.phase.identified (by rw [hphase]; exact nofun)).after nofun
  · exact (h.phase.wheel hphase).after (not_or.mpr ⟨nofun, nofun⟩)

/-- What is known of an axis goes on to the next phase, with what the answer tells. -/
theorem AtPhase.next (h : AtPhase ids s history) (hactive : s.active = true)
    (hlast : s.phase ≠ .lockReadback) (hprofile : s'.profile = s.profile)
    (hallow : s'.allowModeChange = s.allowModeChange) (haxis : s'.axis = s.axis)
    (hidle : s'.active = false)
    (hidentified : s.phase = .identity →
      Identifies ids s.profile s.axis (.answered op data))
    (hchosen : s'.phase.Switching → s.phase.Switching ∨ s.allowModeChange = true)
    (htorque : s'.phase.Switching → s'.phase ≠ .torqueOff → s.phase.Switching ∧
      (s.phase = .torqueOff → ReadBack (ids.axisId s.axis) 40 0 (.answered op data)))
    (hwritten : s'.phase ≠ .lockReadback → s'.phase.written false = s.phase.written true)
    (hwheel : s'.phase = .lockReadback → ReadBack (ids.axisId s.axis) 33 1 (.answered op data)) :
    AtPhase ids s' (.answered op data :: history) := by
  constructor
  case identified =>
    intro _
    rw [hprofile, haxis]
    by_cases hphase : s.phase = .identity
    · exact .now (hidentified hphase) history
    · exact (h.identified hphase).after nofun
  case chosen =>
    intro hswitching
    rw [hallow]
    exact (hchosen hswitching).elim h.chosen id
  case torque =>
    intro hswitching hphase
    obtain ⟨hbefore, hread⟩ := htorque hswitching hphase
    rw [haxis]
    by_cases htorqueOff : s.phase = .torqueOff
    · exact .now (hread htorqueOff) history
    · exact (h.torque hbefore htorqueOff).after nofun
  case written =>
    intro hphase
    rw [writesTo_answered, haxis, h.written hlast, hactive, hidle, hwritten hphase]
  case wheel =>
    intro hphase
    rw [haxis]
    exact .now (hwheel hphase) history
  case pending => exact fun h => nomatch hidle.symm.trans h

/-- Where an answer leads that is not the last one of its axis. -/
theorem atPhase_answer (h : Checking ids s history) (hactive : s.active = true)
    (hlast : s.phase ≠ .lockReadback) (hjudge : s.judge ids data = some s') :
    s'.profile = s.profile ∧ s'.allowModeChange = s.allowModeChange ∧ s'.axis = s.axis ∧
      s'.state = s.state ∧ (s.epromUnlocked = true → s'.epromUnlocked = true) ∧
      AtPhase ids { s' with active := false } (.answered s.pending data :: history) := by
  have hop := h.phase.pending hactive
  unfold judge at hjudge
  split at hjudge
  next hphase =>
    split at hjudge <;> cases hjudge
    next hdata =>
      simp only [not_or, ne_eq, not_not] at hdata
      rw [hphase] at hop
      refine ⟨rfl, rfl, rfl, rfl, id, h.phase.next hactive hlast rfl rfl rfl rfl ?_ ?_ ?_ ?_ nofun⟩
      · intro _
        rw [hop]
        exact .answered rfl rfl rfl hdata.1 hdata.2.1 hdata.2.2
      all_goals simp [Switching, written, hphase]
  next hphase =>
    rw [hphase] at hop
    split at hjudge
    next hdata =>
      cases hjudge
      refine ⟨rfl, rfl, rfl, rfl, id, h.phase.next hactive hlast rfl rfl rfl rfl ?_ ?_ ?_ ?_ ?_⟩
      case refine_5 =>
        intro _
        rw [hop]
        exact .answered rfl rfl rfl hdata
      all_goals simp [Switching, hphase]
    next =>
      split at hjudge <;> cases hjudge
      next hallow =>
        refine ⟨rfl, rfl, rfl, rfl, id, h.phase.next hactive hlast rfl rfl rfl rfl ?_ ?_ ?_ ?_ nofun⟩
        all_goals simp [Switching, written, hphase, hallow]
  next hphase =>
    rw [hphase] at hop
    split at hjudge <;> cases hjudge
    next hdata =>
      refine ⟨rfl, rfl, rfl, rfl, id, h.phase.next hactive hlast rfl rfl rfl rfl ?_ ?_ ?_ ?_ nofun⟩
      case refine_3 =>
        refine fun _ _ => ⟨.inl hphase, fun _ => ?_⟩
        rw [hop]
        exact .answered rfl rfl rfl (not_not.mp hdata)
      all_goals simp [Switching, written, hphase]
  next hphase =>
    cases hjudge
    refine ⟨rfl, rfl, rfl, rfl, fun _ => rfl,
      h.phase.next hactive hlast rfl rfl rfl rfl ?_ ?_ ?_ ?_ nofun⟩
    all_goals simp [Switching, written, hphase]
  next hphase =>
    cases hjudge
    refine ⟨rfl, rfl, rfl, rfl, id, h.phase.next hactive hlast rfl rfl rfl rfl ?_ ?_ ?_ ?_ nofun⟩
    all_goals simp [Switching, written, hphase]
  next hphase =>
    cases hjudge
    refine ⟨rfl, rfl, rfl, rfl, id, h.phase.next hactive hlast rfl rfl rfl rfl ?_ ?_ ?_ ?_ nofun⟩
    all_goals simp [Switching, written, hphase]
  next hphase =>
    rw [hphase] at hop
    split at hjudge <;> cases hjudge
    next hdata =>
      refine ⟨rfl, rfl, rfl, rfl, id, h.phase.next hactive hlast rfl rfl rfl rfl ?_ ?_ ?_ ?_ ?_⟩
      case refine_5 =>
        intro _
        rw [hop]
        exact .answered rfl rfl rfl (not_not.mp hdata)
      all_goals simp [Switching, hphase]
  next hphase => exact absurd hphase hlast

theorem sound_answers {r : StartupRun} (h : Sound ids r) (hchecking : r.machine.state = .checking)
    (hactive : r.machine.active = true) (hjudge : r.machine.judge ids data = some s') :
    Sound ids ⟨{ s' with active := false }, .answered r.machine.pending data :: r.history⟩ := by
  have hc := h.checking hchecking
  have hlawful : Lawful (InOrder ids) (.answered r.machine.pending data :: r.history) := by
    refine ⟨?_, h.lawful⟩
    rintro ⟨id, hwrites⟩
    exact nomatch hwrites
  by_cases hlast : r.machine.phase = .lockReadback
  · unfold judge at hjudge
    rw [hlast] at hjudge
    dsimp only at hjudge
    split at hjudge
    next => cases hjudge
    next hdata =>
      obtain ⟨hread, hverified⟩ := verified_answer hc hactive hlast (not_not.mp hdata)
      have hnone : ∀ j < 4, ¬ MayBeUnlocked (ids.axisId j)
          (.answered r.machine.pending data :: r.history) := by
        intro j hj hmay
        obtain ⟨hunread, hbefore⟩ := hmay.of_answered
        rw [h.guarded.here hchecking j hj hbefore] at hunread
        exact hunread hread
      split at hjudge <;> cases hjudge
      next haxis =>
        refine ⟨nofun, fun _ => ⟨hc.begun.after nofun, fun j hj => ?_⟩,
          ⟨fun j hj hmay => absurd hmay (hnone j hj), nofun⟩, hlawful⟩
        rcases Nat.lt_succ_iff_lt_or_eq.mp (haxis ▸ hj : j < r.machine.axis + 1) with hj | rfl
        · exact (hc.behind j hj).answered
        · exact hverified
      next haxis =>
        exact ⟨fun _ => checking_nextAxis hc hverified haxis,
          fun hready => (nomatch hchecking.symm.trans hready),
          ⟨fun j hj hmay => absurd hmay (hnone j hj), fun _ j hj hmay => absurd hmay (hnone j hj)⟩,
          hlawful⟩
  · obtain ⟨hprofile, hallow, haxis, hstate, hflag, hphase⟩ :=
      atPhase_answer hc hactive hlast hjudge
    refine ⟨fun _ => checking_answered hc hprofile hallow haxis hphase,
      fun hready => (nomatch (hstate.trans hchecking).symm.trans hready), ⟨?_, ?_⟩, hlawful⟩
    · exact fun j hj hmay => hflag (h.guarded.flagged j hj hmay.of_answered.2)
    · exact fun _ j hj hmay => (h.guarded.here hchecking j hj hmay.of_answered.2).trans haxis.symm

end Answer

/-! ## 10. Every run -/

theorem sound_step {r : StartupRun} (h : Sound ids r) (call : StartupCall) :
    Sound ids (r.step ids call) := by
  have hdoes : Does ids r (r.step ids call) := does_step r call
  generalize r.step ids call = r' at hdoes ⊢
  cases hdoes with
  | stays => exact h
  | faults => exact ⟨nofun, nofun, ⟨h.guarded.flagged, nofun⟩, h.lawful⟩
  | begins p now change hlocked => exact sound_begins h p now change hlocked
  | issues hchecking hidle => exact sound_issues h hchecking hidle
  | answers data s hchecking hactive hjudge => exact sound_answers h hchecking hactive hjudge

theorem sound_run (calls : List StartupCall) :
    Sound ids (run (StartupRun.step ids) .init calls) :=
  run_invariant_all (I := Sound ids) (fun _ call h => sound_step h call) calls sound_init

/-- Nothing begins while an axis may have been left unlocked. -/
theorem begin_of_unlocked {r : StartupRun} (h : Sound ids r) {axis : Nat} (haxis : axis < 4)
    (hunlocked : MayBeUnlocked (ids.axisId axis) r.history) (p : DeviceProfile) (now : Tick)
    (change secured : Bool) : r.machine.begin p now change secured = (r.machine, false) := by
  have hflag := h.guarded.flagged axis haxis hunlocked
  exact if_pos (by simp [refusesBegin, hflag])

/-- **The startup script.**  In every run READY stands for four axes that were identified and found
in wheel mode and locked, in this episode; every write was handed out with permission; and nothing
begins while an axis may have been left unlocked. -/
theorem startup_verifies (ids : MobileIds) (calls : List StartupCall) :
    ((run (StartupRun.step ids) .init calls).machine.state = .ready →
      ∃ p change, Begun p change (run (StartupRun.step ids) .init calls).history ∧
        ∀ axis < 4, Verified ids p axis (run (StartupRun.step ids) .init calls).history) ∧
    (∀ op earlier,
      .issued op :: earlier <:+ (run (StartupRun.step ids) .init calls).history →
      op.write = true → Permitted ids earlier (.issued op)) ∧
    ((∃ axis < 4, MayBeUnlocked (ids.axisId axis)
        (run (StartupRun.step ids) .init calls).history) →
      ∀ p now change secured,
        (run (StartupRun.step ids) .init calls).machine.begin p now change secured =
          ((run (StartupRun.step ids) .init calls).machine, false)) := by
  have h := @sound_run ids calls
  refine ⟨fun hready => ?_, fun op earlier hsuffix hwrite => ?_, ?_⟩
  · obtain ⟨hbegun, hverified⟩ := h.ready hready
    exact ⟨_, _, hbegun, hverified⟩
  · exact lawful_iff_suffix.mp h.lawful _ earlier hsuffix ⟨op.id, .issued hwrite rfl⟩
  · rintro ⟨axis, haxis, hunlocked⟩ p now change secured
    exact begin_of_unlocked h haxis hunlocked p now change secured

/-! ## 11. The script in action -/

/-- A profile of the bench, with four motors of one model. -/
def benchProfile : DeviceProfile := ⟨fun _ => 777, 0, 1000⟩

/-- What a motor in wheel mode, locked, returns for the axis, given the token before. -/
def benchCalls (axis : Nat) : List StartupCall :=
  [.next 0, .reply (BitVec.ofNat 32 (3 * axis + 1))
      (some [9, 3, MobileIds.reference.axisId axis, 0]) 4 true 0,
    .next 0, .reply (BitVec.ofNat 32 (3 * axis + 2)) (some [1]) 1 true 0,
    .next 0, .reply (BitVec.ofNat 32 (3 * axis + 3)) (some [1]) 1 true 0]

example : (run (StartupRun.step .reference) .init (.begin benchProfile 0 false false ::
    (List.range 4).flatMap benchCalls)).machine.state = .ready := by decide +kernel

end MobileBimanual.Mobile
