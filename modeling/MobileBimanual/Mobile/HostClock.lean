/-
# The host's estimate of the mobile clock

`MobileClock` of `mobile_wire.py`: from one exchange with the controller the host knows the
controller's millisecond counter to within the time the exchange took, and computes deadlines on
that counter for its commands.  Both clocks are read in whole milliseconds.

Times are rational numbers of milliseconds, and the controller's counter is any clock that keeps
the host's pace up to a drift, at any offset and phase.  A deadline errs to one side: the packet
layer lets no command in from `now + lifetime` on, once an exchange that took a millisecond or
more was sampled, and lets it in for as long as the time of the exchange, taken twice, still fits
before that (`deadline_conservative`).
-/
import MobileBimanual.Lib.Readings
import MobileBimanual.Mobile.HostCodec

namespace MobileBimanual.Mobile

open MobileBimanual.Stream (Byte Tick)
open MobileBimanual.Stream.Host (raiseIf raiseIf_ok_iff check_bind_ok_iff)
open Readings

/-! ## 1. The window of the packet layer -/

namespace MobileSupervisor

/-- What a packet does once its deadline has passed the check. -/
def dispatch (s : MobileSupervisor) (m : MobileMessage) (nowMs : Tick) : MobileSupervisor × Bool :=
  match m.opcode with
  | .arm => s.arm m.session nowMs
  | .velocity => s.commandUntil m.session m.sequence m.velocityRaw m.validUntilMs nowMs
  | .stop =>
    if m.session != s.session || s.state == .disabled ||
        (s.haveSequence && m.sequence ≤ s.sequence) then (s, false)
    else ({ s.stop with sequence := m.sequence, haveSequence := true }, true)

@[simp] theorem poll_configured (s : MobileSupervisor) (now : Tick) :
    (s.poll now).configured = s.configured := by
  rcases s.poll_eq now with heq | ⟨reason, heq⟩ <;> rw [heq]
  rfl

@[simp] theorem poll_config (s : MobileSupervisor) (now : Tick) :
    (s.poll now).config = s.config := by
  rcases s.poll_eq now with heq | ⟨reason, heq⟩ <;> rw [heq]
  rfl

/-- Outside the window the packet is refused; inside, its operation decides. -/
theorem apply_of_decode {s : MobileSupervisor} {packet : List Byte} {m : MobileMessage}
    {now : Tick} (hdecode : MobileMessage.decode packet = some m) :
    (¬ Open s.config.commandTimeoutMs (m.validUntilMs - now) → (s.apply packet now).2 = false) ∧
    (Open s.config.commandTimeoutMs (m.validUntilMs - now) → s.configured = true →
      s.apply packet now = (s.poll now).dispatch m now) := by
  have hwindow : (m.validUntilMs - now == 0 ||
      (s.poll now).config.commandTimeoutMs < m.validUntilMs - now) = false ↔
        Open s.config.commandTimeoutMs (m.validUntilMs - now) := by
    simp only [Bool.or_eq_false_iff, beq_eq_false_iff_ne, decide_eq_false_iff_not, poll_config,
      Open, BitVec.not_lt, ne_eq]
  unfold apply
  dsimp only
  rw [hdecode]
  dsimp only
  constructor
  · intro hclosed
    rw [← hwindow, Bool.not_eq_false] at hclosed
    split
    · rfl
    · rfl
  · intro hopen hconfigured
    rw [poll_configured, hconfigured, if_neg (by decide),
      if_neg (Bool.not_eq_true _ ▸ hwindow.mpr hopen)]
    rfl

end MobileSupervisor

/-! ## 2. The clock -/

namespace Host

structure ClockSample where
  sentMs : Int
  receivedMs : Int
  status : MobileStatus

structure MobileClock where
  maxRttMs : Int
  maxAgeMs : Int
  sample : Option ClockSample

namespace MobileClock

def init (maxRttMs maxAgeMs : Int) : Except String MobileClock := do
  raiseIf (¬ (0 < maxRttMs ∧ maxRttMs < 1000) ∨ ¬ (0 < maxAgeMs ∧ maxAgeMs < 60000))
    "invalid clock budgets"
  .ok { maxRttMs, maxAgeMs, sample := none }

/-- The second result: the controller is not the one it was. -/
def update (clock : MobileClock) (status : MobileStatus)
    (expectedSequence sentMs receivedMs : Int) : Except String (MobileClock × Bool) := do
  raiseIf (∃ value ∈ [sentMs, receivedMs], value < 0) "invalid host clock"
  raiseIf (status.kind ≠ 6 ∨ (status.requestSequence : Int) ≠ expectedSequence ∨
      ¬ (0 ≤ receivedMs - sentMs ∧ receivedMs - sentMs ≤ clock.maxRttMs))
    "uncorrelated or delayed clock response"
  raiseIf (clock.sample.any fun sample =>
      sentMs < sample.sentMs || receivedMs ≤ sample.receivedMs)
    "old clock exchange"
  let previousBoot := clock.sample.map (·.status.bootId)
  .ok ({ clock with sample := some ⟨sentMs, receivedMs, status⟩ },
    previousBoot.any (· != status.bootId))

/-- The mask with 32 ones is a remainder. -/
def deadline (clock : MobileClock) (nowMs lifetimeMs : Int) : Except String (Int × Nat) :=
  match clock.sample with
  | none => .error "clock not synchronized"
  | some ⟨sent, received, status⟩ => do
    raiseIf (¬ (0 ≤ nowMs - received ∧ nowMs - received < clock.maxAgeMs) ∨
        ¬ (1 ≤ lifetimeMs ∧ lifetimeMs ≤ 1000))
      "stale clock or invalid command lifetime"
    let uncertainty := received - sent
    raiseIf (lifetimeMs ≤ uncertainty) "lifetime shorter than clock uncertainty"
    .ok ((status.mcuTickMs + nowMs - received + lifetimeMs - uncertainty) % 2 ^ 32, status.bootId)

variable {clock : MobileClock}

theorem update_sample {after : MobileClock} {status : MobileStatus}
    {expectedSequence sentMs receivedMs : Int} {rebooted : Bool}
    (h : clock.update status expectedSequence sentMs receivedMs = .ok (after, rebooted)) :
    after.sample = some ⟨sentMs, receivedMs, status⟩ := by
  unfold update at h
  obtain ⟨-, h⟩ := check_bind_ok_iff.mp h
  obtain ⟨-, h⟩ := check_bind_ok_iff.mp h
  obtain ⟨-, h⟩ := check_bind_ok_iff.mp h
  cases h
  rfl

theorem deadline_eq {now lifetime dueMs : Int} {bootId : Nat}
    (h : clock.deadline now lifetime = .ok (dueMs, bootId)) :
    ∃ sample, clock.sample = some sample ∧ sample.receivedMs ≤ now ∧
      sample.receivedMs - sample.sentMs < lifetime ∧ bootId = sample.status.bootId ∧
      dueMs = (sample.status.mcuTickMs +
        (now - sample.receivedMs + lifetime - (sample.receivedMs - sample.sentMs))) % 2 ^ 32 := by
  unfold deadline at h
  split at h
  · cases h
  rename_i sent received status hsample
  obtain ⟨hage, h⟩ := check_bind_ok_iff.mp h
  obtain ⟨hspare, h⟩ := check_bind_ok_iff.mp h
  rw [raiseIf_ok_iff] at hage hspare
  cases h
  obtain ⟨hfresh, hlifetime⟩ := not_or.mp hage
  rw [not_not] at hfresh hlifetime
  refine ⟨_, hsample, Int.sub_nonneg.mp hfresh.1, not_le.mp hspare, rfl, ?_⟩
  congr 1
  ring

end MobileClock

/-! ## 3. Exchanges -/

/-- A request for the time and its answer, with the true instants of the host's time at which it
was sent, sampled by the controller and received. -/
structure Exchange where
  sent : ℚ
  sampled : ℚ
  received : ℚ
  expectedSequence : Int
  status : MobileStatus

namespace Exchange

def sentMs (e : Exchange) : Int := reading id e.sent

def receivedMs (e : Exchange) : Int := reading id e.received

def uncertainty (e : Exchange) : Int := e.receivedMs - e.sentMs

def sample (e : Exchange) : ClockSample := ⟨e.sentMs, e.receivedMs, e.status⟩

/-- The answer carries what the counter showed at an instant between request and receipt. -/
structure Consistent (e : Exchange) (counterMs : ℚ → ℚ) : Prop where
  after : e.sent ≤ e.sampled
  before : e.sampled ≤ e.received
  tick : e.status.mcuTickMs = (counter 32 counterMs e.sampled).toNat

/-- The deadline on the counter before the mask, in the controller's own count. -/
theorem deadline_word {e : Exchange} {counterMs : ℚ → ℚ} (h : e.Consistent counterMs)
    (count : Int) : BitVec.ofInt 32 ((e.status.mcuTickMs + count) % 2 ^ 32) =
      BitVec.ofInt 32 (reading counterMs e.sampled + count) := by
  apply BitVec.eq_of_toNat_eq
  rw [h.tick, counter, BitVec.toNat_ofInt, BitVec.toNat_ofInt, BitVec.toNat_ofInt]
  omega

section Bounds

variable {e : Exchange} {counterMs : ℚ → ℚ} {rate instant : ℚ} {now lifetime margin : Int}

/-- What the deadline is ahead of the counter, from above. -/
theorem ahead_le (h : e.Consistent counterMs) (hpaced : Paced counterMs rate) (hrate : 0 ≤ rate)
    (hlater : e.received ≤ instant)
    (hreached : now + lifetime + 1 - e.uncertainty + rate * (instant - e.sent) - margin ≤
      instant) :
    reading counterMs e.sampled + (now - e.receivedMs + lifetime - e.uncertainty) -
      reading counterMs instant ≤ margin := by
  have hdrift : rate * (instant - e.sampled) ≤ rate * (instant - e.sent) :=
    mul_le_mul_of_nonneg_left (by linarith [h.after]) hrate
  have hreceived : e.received < e.receivedMs + 1 := Int.lt_floor_add_one _
  refine reading_sub_le hpaced (h.before.trans hlater) hdrift ?_
  push_cast
  linarith [h.before]

/-- And from below: the sample may be as old as the request. -/
theorem lt_ahead (h : e.Consistent counterMs) (hpaced : Paced counterMs rate) (hrate : 0 ≤ rate)
    (hlater : e.received ≤ instant)
    (hspare : instant + rate * (instant - e.sent) ≤
      now + lifetime - 1 - 2 * e.uncertainty - margin) :
    margin < reading counterMs e.sampled + (now - e.receivedMs + lifetime - e.uncertainty) -
      reading counterMs instant := by
  have hdrift : rate * (instant - e.sampled) ≤ rate * (instant - e.sent) :=
    mul_le_mul_of_nonneg_left (by linarith [h.after]) hrate
  have hsent : e.sentMs ≤ e.sent := Int.floor_le _
  refine lt_reading_sub hpaced (h.before.trans hlater) hdrift ?_
  unfold uncertainty at hspare ⊢
  push_cast at hspare ⊢
  linarith [h.after]

end Bounds

end Exchange

/-! ## 4. Runs -/

/-- What a client does with its clock: try an exchange on it, or forget what it holds. -/
inductive ClockStep where
  | exchange (e : Exchange)
  | forget

namespace MobileClock

def step (clock : MobileClock) : ClockStep → MobileClock
  | .exchange e =>
    match clock.update e.status e.expectedSequence e.sentMs e.receivedMs with
    | .ok (clock, _) => clock
    | .error _ => clock
  | .forget => { clock with sample := none }

/-- The clock holds nothing, or an exchange that was made on it. -/
def Sampled (steps : List ClockStep) (clock : MobileClock) : Prop :=
  ∀ sample, clock.sample = some sample → ∃ e, ClockStep.exchange e ∈ steps ∧ sample = e.sample

theorem Sampled.step {steps : List ClockStep} {clock : MobileClock} {s : ClockStep}
    (h : clock.Sampled steps) (hs : s ∈ steps) : (clock.step s).Sampled steps := by
  intro sample hsample
  cases s with
  | exchange e =>
    unfold MobileClock.step at hsample
    dsimp only at hsample
    split at hsample
    · rename_i after rebooted hupdate
      rw [update_sample hupdate] at hsample
      exact ⟨e, hs, (Option.some.inj hsample).symm⟩
    · exact h sample hsample
  | forget => cases hsample

theorem sampled_run {steps : List ClockStep} (h : clock.Sampled steps) :
    ∀ {rest : List ClockStep}, rest ⊆ steps → (rest.foldl step clock).Sampled steps := by
  intro rest hrest
  induction rest generalizing clock with
  | nil => exact h
  | cons s rest ih =>
    obtain ⟨hs, hrest⟩ := List.cons_subset.mp hrest
    exact ih (h.step hs) hrest

theorem sampled_init {maxRttMs maxAgeMs : Int} (h : init maxRttMs maxAgeMs = .ok clock)
    (steps : List ClockStep) : clock.Sampled steps := by
  obtain ⟨-, h⟩ := check_bind_ok_iff.mp h
  cases h
  exact nofun

/-- **Deadlines err to one side.**  Over every run of exchanges with a counter of whatever offset,
phase and drift, the deadline comes from one of them.  The packet layer refuses a command that
carries it at every instant from `now + lifetime + 1 - uncertainty` on, before the counter comes
round; and its window check lets it through at every instant that leaves twice the uncertainty and
a millisecond before `now + lifetime`, and lies no more than the command timeout before
`now + lifetime + 1 - uncertainty`. -/
theorem deadline_conservative {counterMs : ℚ → ℚ} {rate : ℚ} (hpaced : Paced counterMs rate)
    (hrate : 0 ≤ rate) {maxRttMs maxAgeMs : Int} {fresh : MobileClock}
    (hfresh : init maxRttMs maxAgeMs = .ok fresh) {steps : List ClockStep}
    (hsteps : ∀ e, ClockStep.exchange e ∈ steps → e.Consistent counterMs)
    {now lifetime deadline : Int} {bootId : Nat}
    (hdeadline : (steps.foldl step fresh).deadline now lifetime = .ok (deadline, bootId))
    {command : MobileCommand} {packet : List Byte} (hcarries : command.validUntilMs = deadline)
    (hpacket : command.encode = .ok packet) :
    ∃ e, ClockStep.exchange e ∈ steps ∧ (steps.foldl step fresh).sample = some e.sample ∧
      bootId = e.status.bootId ∧
      ∀ (s : MobileSupervisor) (instant : ℚ), e.received ≤ instant →
        (now + lifetime + 1 - e.uncertainty + rate * (instant - e.sent) ≤ instant →
          instant + rate * (instant - e.sent) ≤ now + lifetime - 1 - 2 * e.uncertainty +
            (2 ^ 32 - s.config.commandTimeoutMs.toNat) →
          (s.apply packet (counter 32 counterMs instant)).2 = false) ∧
        (now + lifetime + 1 - e.uncertainty + rate * (instant - e.sent) -
            s.config.commandTimeoutMs.toNat ≤ instant →
          instant + rate * (instant - e.sent) ≤ now + lifetime - 1 - 2 * e.uncertainty →
          ∃ m, MobileMessage.decode packet = some m ∧
            Open s.config.commandTimeoutMs (m.validUntilMs - counter 32 counterMs instant) ∧
            (s.configured = true → s.apply packet (counter 32 counterMs instant) =
              (s.poll (counter 32 counterMs instant)).dispatch m
                (counter 32 counterMs instant))) := by
  obtain ⟨sample, hsample, -, -, hboot, hvalue⟩ := deadline_eq hdeadline
  obtain ⟨e, he, rfl⟩ := sampled_run (sampled_init hfresh steps) (List.Subset.refl steps) _ hsample
  have hconsistent := hsteps e he
  have hmasked : deadline = (e.status.mcuTickMs +
      (now - e.receivedMs + lifetime - e.uncertainty)) % 2 ^ 32 := hvalue
  obtain ⟨m, hdecode, hm⟩ := mobile_codec_canonical.1 command packet hpacket
  have hword : m.validUntilMs = BitVec.ofInt 32
      (reading counterMs e.sampled + (now - e.receivedMs + lifetime - e.uncertainty)) := by
    have hfield : (m.validUntilMs.toNat : Int) = deadline := by
      rw [← hcarries, ← hm]
      rfl
    rw [← Exchange.deadline_word hconsistent, ← hmasked, ← hfield, BitVec.ofInt_natCast,
      BitVec.ofNat_toNat, BitVec.setWidth_eq]
  have hahead (instant : ℚ) : m.validUntilMs - counter 32 counterMs instant = BitVec.ofInt 32
      (reading counterMs e.sampled + (now - e.receivedMs + lifetime - e.uncertainty) -
        reading counterMs instant) := by
    rw [hword, counter, ← ofInt_sub]
  refine ⟨e, he, hsample, hboot, fun s instant hlater => ⟨fun hreached hround => ?_,
    fun hearly hspare => ?_⟩⟩
  · refine (MobileSupervisor.apply_of_decode hdecode).1 ?_
    rw [hahead]
    refine not_open_of_past ?_ ?_
    · exact Exchange.ahead_le hconsistent hpaced hrate hlater (by push_cast; linarith)
    · exact Exchange.lt_ahead hconsistent hpaced hrate hlater (by push_cast; linarith)
  · have hopen : Open s.config.commandTimeoutMs
        (m.validUntilMs - counter 32 counterMs instant) := by
      rw [hahead]
      refine open_of_between ?_ ?_
      · exact Exchange.lt_ahead hconsistent hpaced hrate hlater (by push_cast; linarith)
      · exact Exchange.ahead_le hconsistent hpaced hrate hlater (by push_cast; linarith)
    exact ⟨m, hdecode, hopen, (MobileSupervisor.apply_of_decode hdecode).2 hopen⟩

/-! ## 5. The bench -/

def Bench.clock : MobileClock := ⟨20, 1000, none⟩

/-- An answer to the request for the time that shows this tick. -/
def Bench.timeStatus (tick : Nat) : MobileStatus where
  kind := 6
  requestSequence := 1
  mcuTickMs := tick
  bootId := 42
  capabilities := 7
  session := 0
  sequence := 0
  state := 0
  reason := 0
  flags := 0
  feedbackTickMs := 0
  velocityRaw := [0, 0, 0, 0]
  liftPositionUm := 0
  rejectedFrames := 0

/-- A stop of session 7. -/
def Bench.stop (validUntilMs : Int) : MobileCommand := ⟨3, 7, 1, validUntilMs, [0, 0, 0, 0]⟩

/-- A supervisor armed in session 7 on what it observed at 0. -/
def Bench.armed : MobileSupervisor :=
  let config : MobileConfig :=
    { maxVelocityRaw := fun _ => 100, stoppedVelocityRaw := 2, commandTimeoutMs := 200
      feedbackTimeoutMs := 200, liftMinUm := 0, liftMaxUm := 300000 }
  let feedback : MobileFeedback :=
    { observedMs := 0, velocityRaw := fun _ => 0, liftPositionUm := 100
      velocityModesVerified := true, liftHomed := true, hardwareOk := true }
  ((((MobileSupervisor.init config).1.observe feedback 0).1).arm 7 0).1

/-- The packet of the same stop. -/
def Bench.packet (validUntilMs : Tick) : List Byte :=
  MobileMessage.packet ⟨.stop, 7, 1, validUntilMs, fun _ => 0⟩

theorem Bench.paced (phase : ℚ) : Paced (· + phase) 0 := by
  intro a b _
  rw [add_sub_add_right_eq_sub, sub_self, abs_zero, zero_mul]

open Bench

theorem Bench.consistent {sent received : ℚ} {tick : Nat} (hlater : sent ≤ received) (phase : ℚ)
    (htick : tick = (counter 32 (· + phase) sent).toNat) :
    Exchange.Consistent ⟨sent, sent, received, 1, timeStatus tick⟩ (· + phase) :=
  ⟨le_rfl, hlater, htick⟩

/-- An exchange that took 10 ms and was sampled as it was sent. -/
def Bench.slow : Exchange := ⟨0, 0, 10, 1, timeStatus 0⟩

/-- An exchange within one millisecond of the host, and one tick of a counter 0.1 ms ahead. -/
def Bench.quick : Exchange := ⟨9 / 10, 9 / 10, 9 / 10, 1, timeStatus 1⟩

theorem deadline_conservative_bench :
    (armed.apply (packet 10) (counter 32 (· + 0) 31)).2 = false := by
  have hsteps : ∀ e, ClockStep.exchange e ∈ [ClockStep.exchange slow] →
      e.Consistent (· + 0) := by
    intro e he
    cases List.mem_singleton.mp he
    exact consistent (by norm_num) 0 (by decide +kernel)
  have hdeadline : ([ClockStep.exchange slow].foldl step clock).deadline 10 20 =
      .ok (10, 42) := by decide +kernel
  have hpacket : (stop 10).encode = .ok (packet 10) := by decide +kernel
  obtain ⟨e, he, -, -, h⟩ := deadline_conservative (paced 0) le_rfl
    (show init 20 1000 = .ok clock from rfl) hsteps hdeadline rfl hpacket
  cases List.mem_singleton.mp he
  have huncertainty : slow.uncertainty = 10 := by decide +kernel
  have htimeout : armed.config.commandTimeoutMs.toNat = 200 := by decide +kernel
  refine (h armed 31 (by decide +kernel)).1 ?_ ?_
  · rw [huncertainty]
    norm_num
  · rw [huncertainty, htimeout]
    norm_num

/-- The lifetime is not kept to the millisecond at either end.  After the slow exchange a command of
20 ms is refused as soon as it is computed, 20 ms before its time is over; after the quick one a
command of 1 ms is taken half a millisecond after. -/
theorem lifetime_cut_or_exceeded :
    (slow.Consistent (· + 0) ∧ slow.uncertainty = 10 ∧
      (clock.step (.exchange slow)).deadline 10 20 = .ok (10, 42) ∧
      (stop 10).encode = .ok (packet 10) ∧
      ∀ s : MobileSupervisor, (s.apply (packet 10) (counter 32 (· + 0) 10)).2 = false) ∧
    (quick.Consistent (· + 1 / 10) ∧ quick.uncertainty = 0 ∧
      (clock.step (.exchange quick)).deadline 0 1 = .ok (2, 42) ∧
      (stop 2).encode = .ok (packet 2) ∧
      (armed.apply (packet 2) (counter 32 (· + 1 / 10) (3 / 2))).2 = true) := by
  constructor
  · refine ⟨consistent (by norm_num) 0 (by decide +kernel), by decide +kernel,
      by decide +kernel, by decide +kernel, fun s => ?_⟩
    have hdecode : MobileMessage.decode (packet 10) =
        some ⟨.stop, 7, 1, 10, fun _ => 0⟩ := MobileMessage.decode_encode (if_neg (by decide))
    refine (MobileSupervisor.apply_of_decode hdecode).1 ?_
    rw [show counter 32 (· + 0) 10 = 10 by decide +kernel]
    exact fun h => h.1 rfl
  · exact ⟨consistent (by norm_num) _ (by decide +kernel), by decide +kernel,
      by decide +kernel, by decide +kernel, by decide +kernel⟩

end MobileClock

end Host

end MobileBimanual.Mobile
