/-
# What a published feedback rests on

The reader withdraws the evidence at every poll that finds an axis without a sample or a mode of
its time, and only `publish` gives it back.  So a feedback that claims sound hardware and verified
modes is the last one published, and behind a poll or a publish every axis still holds a sample
and a mode of their time, each of which a committed reply brought (`feedback_sound`).

Beside the reader a run keeps a book: the replies committed, and what the last publication was
made of.  All operations but `commit` and `publish` leave both alone and can only take evidence
away (`Calm`).
-/
import MobileBimanual.Mobile.FeedbackReader
import MobileBimanual.Mobile.SupervisorRun

namespace MobileBimanual.Mobile

open MobileBimanual.Stream (Byte Tick)
open Machine

/-! ## 1. What leaves the feedback alone -/

namespace MobileSupervisor

@[simp] theorem poll_feedback (s : MobileSupervisor) (now : Tick) :
    (s.poll now).feedback = s.feedback := by
  rcases s.poll_eq now with heq | ⟨reason, heq⟩ <;> rw [heq]
  rfl

/-- Only `observe` brings a feedback. -/
theorem call_feedback {s : MobileSupervisor} {c : SupervisorCall}
    (h : ∀ feedback now, c ≠ .observe feedback now) : (s.call c).feedback = s.feedback := by
  cases c with
  | observe feedback now => exact absurd rfl (h feedback now)
  | arm session now =>
    simp only [call]
    rcases s.arm_cases session now with heq | ⟨-, -, -, -, heq⟩ <;> rw [heq] <;>
      exact s.poll_feedback now
  | command session sequence velocity now =>
    simp only [call]
    rcases s.command_cases session sequence velocity now with
      heq | ⟨-, -, -, -, -, -, heq⟩ <;> rw [heq] <;> exact s.poll_feedback now
  | commandUntil session sequence velocity validUntil now =>
    simp only [call]
    rcases s.commandUntil_cases session sequence velocity validUntil now with
      heq | ⟨-, -, heq⟩ <;> rw [heq]
    · exact s.poll_feedback now
    · rcases s.command_cases session sequence velocity now with
        hc | ⟨-, -, -, -, -, -, hc⟩ <;> rw [hc] <;> exact s.poll_feedback now
  | poll now => exact s.poll_feedback now
  | stop =>
    simp only [call, stop]
    split <;> rfl

/-- A feedback is taken as it is, or not at all. -/
theorem observe_feedback (s : MobileSupervisor) (feedback : MobileFeedback) (now : Tick) :
    (s.observe feedback now).1.feedback =
      if (s.observe feedback now).2 then feedback else s.feedback := by
  rcases s.observe_cases feedback now with ⟨-, heq⟩ | heq | heq <;> rw [heq]
  · rfl
  · exact s.poll_feedback now
  · exact poll_feedback _ now

end MobileSupervisor

/-- The feedback claims sound hardware and verified modes. -/
def MobileFeedback.Claims (f : MobileFeedback) : Prop :=
  f.hardwareOk = true ∧ f.velocityModesVerified = true

instance (f : MobileFeedback) : Decidable f.Claims := inferInstanceAs (Decidable (_ ∧ _))

theorem MobileSupervisor.not_claims_invalidate (s : MobileSupervisor) :
    ¬ s.invalidate.feedback.Claims := nofun

/-- What a telemetry reply says of an axis. -/
def AxisSample.reading (a : AxisSample) : AxisSample :=
  { a with modeMs := 0, valid := false, modeVerified := false }

namespace FeedbackReader

/-- Nothing is claimed or held that was not before. -/
structure Calm (r s : FeedbackReader) : Prop where
  config : s.config = r.config
  configured : s.configured = r.configured
  feedback : s.supervisor.feedback.Claims → s.supervisor.feedback = r.supervisor.feedback
  sample : ∀ axis, (s.axes axis).valid = true →
    (r.axes axis).valid = true ∧ (s.axes axis).reading = (r.axes axis).reading
  mode : ∀ axis, (s.axes axis).modeVerified = true →
    (r.axes axis).modeVerified = true ∧ (s.axes axis).modeMs = (r.axes axis).modeMs

namespace Calm

variable {r s t : FeedbackReader}

theorem refl (r : FeedbackReader) : Calm r r :=
  ⟨rfl, rfl, fun _ => rfl, fun _ h => ⟨h, rfl⟩, fun _ h => ⟨h, rfl⟩⟩

theorem trans (h : Calm r s) (h' : Calm s t) : Calm r t where
  config := h'.config.trans h.config
  configured := h'.configured.trans h.configured
  feedback hclaims := by
    have hsame := h'.feedback hclaims
    exact hsame.trans (h.feedback (hsame ▸ hclaims))
  sample axis hvalid := by
    obtain ⟨hmid, hreading⟩ := h'.sample axis hvalid
    obtain ⟨hfirst, hreading'⟩ := h.sample axis hmid
    exact ⟨hfirst, hreading.trans hreading'⟩
  mode axis hmode := by
    obtain ⟨hmid, hms⟩ := h'.mode axis hmode
    obtain ⟨hfirst, hms'⟩ := h.mode axis hmid
    exact ⟨hfirst, hms.trans hms'⟩

/-- The rest of the record does not matter. -/
theorem of_same (hconfig : s.config = r.config) (hconfigured : s.configured = r.configured)
    (hfeedback : s.supervisor.feedback = r.supervisor.feedback) (haxes : s.axes = r.axes) :
    Calm r s :=
  ⟨hconfig, hconfigured, fun _ => hfeedback, fun axis h => by rw [haxes] at h ⊢; exact ⟨h, rfl⟩,
    fun axis h => by rw [haxes] at h ⊢; exact ⟨h, rfl⟩⟩

theorem invalidate (r : FeedbackReader) : Calm r r.invalidate :=
  ⟨rfl, rfl, fun h => absurd h r.supervisor.not_claims_invalidate, fun _ h => ⟨h, rfl⟩,
    fun _ h => ⟨h, rfl⟩⟩

theorem pollSupervisor (r : FeedbackReader) (now : Tick) : Calm r (r.pollSupervisor now) :=
  of_same rfl rfl (r.supervisor.poll_feedback now) rfl

theorem fail (r : FeedbackReader) (why : FeedbackFault) : Calm r (r.fail why) := by
  unfold FeedbackReader.fail
  split
  · exact refl r
  · have hdiscard : Calm r (r.discard why) := ⟨rfl, rfl, fun _ => rfl, nofun, nofun⟩
    exact (hdiscard.trans (invalidate _)).trans (pollSupervisor _ _)

theorem watch (r : FeedbackReader) (now : Tick) : Calm r (r.watch now) := by
  unfold FeedbackReader.watch
  split
  · exact fail r .timeout
  · exact refl r

theorem expire (r : FeedbackReader) (now : Tick) : Calm r (r.expire now) where
  config := rfl
  configured := rfl
  feedback _ := rfl
  sample _ h := by
    simp only [FeedbackReader.expire, Bool.and_eq_true] at h
    exact ⟨h.1, rfl⟩
  mode _ h := by
    simp only [FeedbackReader.expire, Bool.and_eq_true] at h
    exact ⟨h.1, rfl⟩

theorem withhold (r : FeedbackReader) (now : Tick) : Calm r (r.withhold now) := by
  unfold FeedbackReader.withhold
  split
  · exact invalidate r
  · exact refl r

theorem poll (r : FeedbackReader) (now : Tick) : Calm r (r.poll now) := by
  unfold FeedbackReader.poll
  split
  · exact refl r
  · exact (((watch r now).trans (expire _ now)).trans (withhold _ now)).trans
      (pollSupervisor _ now)

theorem begin (ids : MobileIds) (r : FeedbackReader) (now : Tick) (quiet : Bool) :
    Calm r (r.begin ids now quiet).1 := by
  have hpoll := poll r now
  unfold FeedbackReader.begin
  dsimp only
  split
  · exact refl r
  split
  · exact hpoll
  split
  · exact hpoll
  · exact hpoll.trans (of_same rfl rfl rfl rfl)

theorem feedByte (r : FeedbackReader) (byte : Byte) : Calm r (r.feedByte byte).1 := by
  unfold FeedbackReader.feedByte
  dsimp only
  split
  · exact fail r .ambiguous
  split
  · rename_i parser _
    have htaken : Calm r { r with receivedBytes := r.receivedBytes + 1, parser } :=
      of_same rfl rfl rfl rfl
    exact htaken.trans (fail _ .status)
  · exact of_same rfl rfl rfl rfl

theorem feedBytes (bytes : List Byte) : ∀ r : FeedbackReader, Calm r (r.feedBytes bytes).1 := by
  induction bytes with
  | nil => exact refl
  | cons byte bytes ih =>
    intro r
    have hbyte := feedByte r byte
    rw [FeedbackReader.feedBytes]
    rcases hfed : r.feedByte byte with ⟨s, _ | _⟩ <;> rw [hfed] at hbyte
    · exact hbyte
    · exact hbyte.trans (ih s)

theorem feed (r : FeedbackReader) (token : Tick) (bytes : List Byte) (now : Tick) :
    Calm r (r.feed token bytes now).1 := by
  have hpoll := poll r now
  unfold FeedbackReader.feed
  dsimp only
  split
  · exact refl r
  split
  · exact hpoll
  split
  · exact hpoll.trans (fail _ .overflow)
  have hfed := hpoll.trans (feedBytes bytes (r.poll now))
  rcases hbytes : (r.poll now).feedBytes bytes with ⟨s, _ | _⟩ <;> rw [hbytes] at hfed
  · exact hfed
  · dsimp only
    split
    · exact hfed.trans (fail s .overflow)
    · exact hfed

theorem reset (r : FeedbackReader) (quiet stopped : Bool) : Calm r (r.reset quiet stopped).1 := by
  unfold FeedbackReader.reset
  split
  · exact refl r
  · exact ⟨rfl, rfl, nofun, nofun, nofun⟩

end Calm

/-! ## 2. Runs -/

/-- A reply that was committed: the query it answers and the registers it brought. -/
structure Reply where
  axis : Axis
  readingMode : Bool
  startedMs : Tick
  data : List Byte

/-- What a feedback was made of. -/
structure Publication where
  nowMs : Tick
  axes : Axis → AxisSample
  lift : Option LiftEvidence

structure Watched where
  reader : FeedbackReader
  replies : List Reply
  published : Option Publication

/-- What happens to the reader, and to the supervisor it feeds. -/
inductive Event where
  | begin (nowMs : Tick) (quiet : Bool)
  | feed (token : Tick) (bytes : List Byte) (nowMs : Tick)
  | commit (token nowMs : Tick) (txDone quiet : Bool)
  | publish (lift : Option LiftEvidence) (nowMs : Tick)
  | poll (nowMs : Tick)
  | fail
  | reset (quiet stopped : Bool)
  | supervisor (call : { c : SupervisorCall // ∀ feedback now, c ≠ .observe feedback now })

def Event.Reads : Event → Tick → Prop
  | .poll nowMs, now => now = nowMs
  | .publish _ nowMs, now => now = nowMs
  | _, _ => False

/-- The reply a commit takes. -/
def reply? (r : FeedbackReader) (token nowMs : Tick) (txDone quiet : Bool) : Option Reply :=
  if (r.commit token nowMs txDone quiet).2 then
    let r := r.poll nowMs
    r.parser.data.map fun data => ⟨r.axis, r.readingMode, r.startedMs, data⟩
  else none

theorem reply?_eq {r : FeedbackReader} {token now : Tick} {txDone quiet : Bool} {data : List Byte}
    (hok : (r.commit token now txDone quiet).2 = true)
    (hdata : (r.poll now).parser.data = some data) :
    r.reply? token now txDone quiet =
      some ⟨(r.poll now).axis, (r.poll now).readingMode, (r.poll now).startedMs, data⟩ := by
  simp [reply?, hok, hdata]

namespace Watched

def step (ids : MobileIds) (w : Watched) : Event → Watched
  | .begin nowMs quiet => { w with reader := (w.reader.begin ids nowMs quiet).1 }
  | .feed token bytes nowMs => { w with reader := (w.reader.feed token bytes nowMs).1 }
  | .commit token nowMs txDone quiet =>
    { w with
      reader := (w.reader.commit token nowMs txDone quiet).1
      replies := w.replies ++ (w.reader.reply? token nowMs txDone quiet).toList }
  | .publish lift nowMs =>
    { w with
      reader := (w.reader.publish lift nowMs).1
      published :=
        if (w.reader.publish lift nowMs).2 then
          some
            { nowMs
              axes := (w.reader.poll nowMs).axes
              lift := w.reader.recentLift lift nowMs }
        else w.published }
  | .poll nowMs => { w with reader := w.reader.poll nowMs }
  | .fail => { w with reader := w.reader.failTransport }
  | .reset quiet stopped => { w with reader := (w.reader.reset quiet stopped).1 }
  | .supervisor call =>
    { w with reader := { w.reader with supervisor := w.reader.supervisor.call call } }

end Watched

/-! ## 3. What a poll finds -/

/-- Every axis has a sample and a mode of their time. -/
def Held (r : FeedbackReader) (nowMs : Tick) : Prop :=
  ∀ axis, (r.axes axis).valid = true ∧
    recent (r.axes axis).observedMs nowMs r.config.sampleTimeoutMs = true ∧
    (r.axes axis).modeVerified = true ∧
    recent (r.axes axis).modeMs nowMs r.config.modeTimeoutMs = true

theorem poll_axes {r : FeedbackReader} (hconf : r.configured = true) (now : Tick) :
    (r.poll now).axes = ((r.watch now).expire now).axes := by
  unfold poll withhold
  rw [if_neg (by simp [hconf])]
  split <;> rfl

theorem poll_recent {r : FeedbackReader} (hconf : r.configured = true) {now : Tick} {axis : Axis} :
    (((r.poll now).axes axis).valid = true →
      recent ((r.poll now).axes axis).observedMs now r.config.sampleTimeoutMs = true) ∧
    (((r.poll now).axes axis).modeVerified = true →
      recent ((r.poll now).axes axis).modeMs now r.config.modeTimeoutMs = true) := by
  have hconfig : (r.watch now).config = r.config := (Calm.watch r now).config
  rw [poll_axes hconf]
  constructor
  · intro h
    simp only [expire, staleSample, hconfig] at h ⊢
    cases hrecent : recent ((r.watch now).axes axis).observedMs now r.config.sampleTimeoutMs
    · simp [hrecent] at h
    · rfl
  · intro h
    simp only [expire, staleMode, hconfig] at h ⊢
    cases hrecent : recent ((r.watch now).axes axis).modeMs now r.config.modeTimeoutMs
    · simp [hrecent] at h
    · rfl

theorem held_of_swept {r : FeedbackReader} (hconf : r.configured = true) {now : Tick}
    (h : (r.poll now).swept = true) : (r.poll now).Held now := by
  have hconfig : (r.poll now).config = r.config := (Calm.poll r now).config
  intro axis
  rw [swept, decide_eq_true_eq] at h
  obtain ⟨hvalid, hmode⟩ := h axis
  obtain ⟨hsample, hverified⟩ := poll_recent hconf
  rw [hconfig]
  exact ⟨hvalid, hsample hvalid, hmode, hverified hmode⟩

/-- **A poll that leaves the evidence standing has found every axis in order.** -/
theorem held_of_poll {r : FeedbackReader} (hconf : r.configured = true) {now : Tick}
    (h : (r.poll now).supervisor.feedback.Claims) : (r.poll now).Held now := by
  refine held_of_swept hconf ?_
  have hswept : (r.poll now).swept = ((r.watch now).expire now).swept := by
    rw [swept, poll_axes hconf]
    rfl
  rw [hswept]
  unfold poll at h
  rw [if_neg (by simp [hconf])] at h
  simp only [pollSupervisor, MobileSupervisor.poll_feedback, withhold] at h
  split at h
  · exact absurd h (MobileSupervisor.not_claims_invalidate _)
  · rename_i hkeep
    simp only [Bool.or_eq_true, Bool.not_eq_true', not_or, Bool.not_eq_false, complete,
      Bool.and_eq_true] at hkeep
    exact hkeep.1.2

/-! ## 4. The ages -/

theorem toNat_larger (a b : Tick) : (larger a b).toNat = max a.toNat b.toNat := by
  unfold larger
  split
  · rename_i h
    rw [BitVec.lt_def] at h
    omega
  · rename_i h
    rw [BitVec.lt_def] at h
    omega

theorem toNat_smaller (a b : Tick) : (smaller a b).toNat = min a.toNat b.toNat := by
  unfold smaller
  split
  · rename_i h
    rw [BitVec.lt_def] at h
    omega
  · rename_i h
    rw [BitVec.lt_def] at h
    omega

theorem le_foldl_larger {f : Axis → Tick} : ∀ (l : List Axis) (a : Tick),
    a.toNat ≤ (l.foldl (fun a axis => larger a (f axis)) a).toNat ∧
      ∀ axis ∈ l, (f axis).toNat ≤ (l.foldl (fun a axis => larger a (f axis)) a).toNat := by
  intro l
  induction l with
  | nil => exact fun a => ⟨Nat.le_refl _, nofun⟩
  | cons axis l ih =>
    intro a
    obtain ⟨hfirst, hrest⟩ := ih (larger a (f axis))
    rw [toNat_larger] at hfirst
    rw [List.foldl_cons]
    refine ⟨by omega, fun other hother => ?_⟩
    rcases List.mem_cons.mp hother with rfl | hother
    · omega
    · exact hrest other hother

theorem foldl_smaller_le {f : Axis → Tick} : ∀ (l : List Axis) (a : Tick),
    (l.foldl (fun a axis => smaller a (f axis)) a).toNat ≤ a.toNat ∧
      ∀ axis ∈ l, (l.foldl (fun a axis => smaller a (f axis)) a).toNat ≤ (f axis).toNat := by
  intro l
  induction l with
  | nil => exact fun a => ⟨Nat.le_refl _, nofun⟩
  | cons axis l ih =>
    intro a
    obtain ⟨hfirst, hrest⟩ := ih (smaller a (f axis))
    rw [toNat_smaller] at hfirst
    rw [List.foldl_cons]
    refine ⟨by omega, fun other hother => ?_⟩
    rcases List.mem_cons.mp hother with rfl | hother
    · omega
    · exact hrest other hother

theorem age_le_oldest (r : FeedbackReader) (now : Tick) (axis : Axis) :
    (r.age now axis).toNat ≤ (r.oldestAge now).toNat :=
  (le_foldl_larger (List.finRange 4) 0).2 axis (List.mem_finRange axis)

theorem youngest_le_age (r : FeedbackReader) (now : Tick) (axis : Axis) :
    (r.youngestAge now).toNat ≤ (r.age now axis).toNat :=
  (foldl_smaller_le (List.finRange 4) 0xFFFFFFFF).2 axis (List.mem_finRange axis)

/-- The two extremes bound the difference of any two ages. -/
theorem age_le_add_skew {r : FeedbackReader} {now : Tick}
    (h : ¬ r.config.maximumSampleSkewMs < r.oldestAge now - r.youngestAge now) (a b : Axis) :
    (r.age now a).toNat ≤ (r.age now b).toNat + r.config.maximumSampleSkewMs.toNat := by
  have hold := r.age_le_oldest now
  have hyoung := r.youngest_le_age now
  have hspan : (r.oldestAge now - r.youngestAge now).toNat =
      (r.oldestAge now).toNat - (r.youngestAge now).toNat := by
    refine BitVec.toNat_sub_of_le ?_
    rw [BitVec.le_def]
    exact (hyoung 0).trans (hold 0)
  rw [BitVec.lt_def, hspan] at h
  have ha := hold a
  have hb := hyoung b
  omega

/-! ## 5. What a commit and a publication do -/

/-- What a telemetry reply says of its axis. -/
def Reply.sample (c : AxisFeedbackConfig) (reply : Reply) : AxisSample :=
  { telemetry c AxisSample.blank reply.data with observedMs := reply.startedMs }

/-- **Committing**: refused, or the mode is verified, or the axis has a new sample. -/
theorem commit_cases (r : FeedbackReader) (token now : Tick) (txDone quiet : Bool) :
    ((r.commit token now txDone quiet).2 = false ∧ Calm r (r.commit token now txDone quiet).1) ∨
    ∃ data, (r.poll now).parser.data = some data ∧ (r.commit token now txDone quiet).2 = true ∧
      (((r.poll now).readingMode = true ∧ data.getD 0 0 = 1 ∧
        (r.commit token now txDone quiet).1 =
          (r.poll now).settle
            { (r.poll now).axes (r.poll now).axis with
              modeMs := (r.poll now).startedMs, modeVerified := true }) ∨
      ((r.poll now).readingMode = false ∧
        deviceFault ((r.poll now).config.axes (r.poll now).axis)
          (telemetry ((r.poll now).config.axes (r.poll now).axis)
            ((r.poll now).axes (r.poll now).axis) data) data = false ∧
        (r.commit token now txDone quiet).1 =
          { r.poll now with
            dirty := Function.update (r.poll now).dirty (r.poll now).axis true }.settle
            { telemetry ((r.poll now).config.axes (r.poll now).axis)
                ((r.poll now).axes (r.poll now).axis) data with
              observedMs := (r.poll now).startedMs, valid := true })) := by
  have hpoll := Calm.poll r now
  unfold commit
  dsimp only
  split
  · exact Or.inl ⟨rfl, Calm.refl r⟩
  split
  · exact Or.inl ⟨rfl, hpoll⟩
  rcases hdata : (r.poll now).parser.data with - | data
  · exact Or.inl ⟨rfl, hpoll⟩
  dsimp only
  split
  · rename_i hmode
    unfold commitMode
    split
    · exact Or.inl ⟨rfl, hpoll.trans (Calm.fail _ .mode)⟩
    · rename_i hone
      exact Or.inr ⟨data, rfl, rfl, Or.inl ⟨hmode, by simpa using hone, rfl⟩⟩
  · rename_i hmode
    unfold commitSample
    dsimp only
    split
    · exact Or.inl ⟨rfl, hpoll.trans (Calm.fail _ .device)⟩
    rename_i hdevice
    split
    · exact Or.inl ⟨rfl, hpoll⟩
    · exact Or.inr ⟨data, rfl, rfl, Or.inr ⟨by simpa using hmode, by simpa using hdevice, rfl⟩⟩

/-- **Publishing**: refused, or the supervisor has the feedback that was gathered. -/
theorem publish_cases (r : FeedbackReader) (lift : Option LiftEvidence) (now : Tick) :
    ((r.publish lift now).2 = false ∧ Calm (r.poll now) (r.publish lift now).1 ∧
      (r.publish lift now).1.axes = (r.poll now).axes) ∨
    ((r.publish lift now).2 = true ∧ (r.poll now).swept = true ∧
      ¬ (r.poll now).config.maximumSampleSkewMs <
        (r.poll now).oldestAge now - (r.poll now).youngestAge now ∧
      (r.publish lift now).1.axes = (r.poll now).axes ∧
      (r.publish lift now).1.config = (r.poll now).config ∧
      (r.publish lift now).1.configured = (r.poll now).configured ∧
      (r.publish lift now).1.supervisor.feedback = (r.poll now).gather lift now) := by
  by_cases hconf : r.configured = true
  swap
  · have hoff : r.configured = false := by simpa using hconf
    have hpoll : r.poll now = r := by simp [poll, hoff]
    rw [hpoll]
    left
    simp only [publish, hoff, Bool.not_false, if_true]
    exact ⟨trivial, Calm.refl r, trivial⟩
  obtain ⟨q, hq, hcalm, haxes, hfresh⟩ : ∃ q,
      q = (if (r.poll now).liftFit lift now then r.poll now
        else (r.poll now).invalidate.pollSupervisor now) ∧
      Calm (r.poll now) q ∧ q.axes = (r.poll now).axes ∧ q.config = (r.poll now).config := by
    refine ⟨_, rfl, ?_, ?_, ?_⟩
    · split
      · exact Calm.refl _
      · exact (Calm.invalidate _).trans (Calm.pollSupervisor _ now)
    · split <;> rfl
    · split <;> rfl
  unfold publish
  rw [if_neg (by simp [hconf])]
  dsimp only
  rw [← hq]
  split
  · exact Or.inl ⟨rfl, hcalm, haxes⟩
  rename_i hready
  have hswept : (r.poll now).swept = true := by
    simp only [Bool.or_eq_true, not_or, Bool.not_eq_true', Bool.not_eq_false] at hready
    rw [swept, ← haxes]
    exact hready.2
  have hages : q.age now = (r.poll now).age now := by
    funext axis
    rw [age, age, haxes]
  have hspan : q.oldestAge now = (r.poll now).oldestAge now ∧
      q.youngestAge now = (r.poll now).youngestAge now := by
    simp only [oldestAge, youngestAge, hages, and_self]
  have hgather : q.gather lift now = (r.poll now).gather lift now := by
    simp only [gather, recentLift, hfresh, haxes, hspan.1]
  split
  · exact Or.inl ⟨rfl, (hcalm.trans (Calm.invalidate q)).trans (Calm.pollSupervisor _ now), haxes⟩
  rename_i hskew
  rw [hspan.1, hspan.2, hfresh] at hskew
  have hfeedback := q.supervisor.observe_feedback (q.gather lift now) now
  rcases hobserved : q.supervisor.observe (q.gather lift now) now with ⟨s, _ | _⟩ <;>
    rw [hobserved] at hfeedback
  · have hkept : s.feedback = q.supervisor.feedback := hfeedback
    exact Or.inl ⟨rfl, hcalm.trans (Calm.of_same rfl rfl hkept rfl), haxes⟩
  · have htaken : s.feedback = q.gather lift now := hfeedback
    exact Or.inr ⟨rfl, hswept, hskew, haxes, hfresh, hcalm.configured, htaken.trans hgather⟩

/-! ## 6. The book -/

/-- What a feedback says is what its publication was made of, all of it of its time, close
together, and none of it older than the feedback says. -/
structure Publication.Backs (p : Publication) (c : FeedbackReaderConfig) (f : MobileFeedback) :
    Prop where
  sample : ∀ axis, (p.axes axis).valid = true ∧
    recent (p.axes axis).observedMs p.nowMs c.sampleTimeoutMs = true
  mode : ∀ axis, (p.axes axis).modeVerified = true ∧
    recent (p.axes axis).modeMs p.nowMs c.modeTimeoutMs = true
  velocity : ∀ axis, f.velocityRaw axis = (p.axes axis).velocityRaw
  spread : ∀ a b, (p.nowMs - (p.axes a).observedMs).toNat ≤
    (p.nowMs - (p.axes b).observedMs).toNat + c.maximumSampleSkewMs.toNat
  oldest : ∀ axis, (p.nowMs - (p.axes axis).observedMs).toNat ≤ (p.nowMs - f.observedMs).toNat
  lift : ∃ lift, p.lift = some lift ∧ recent lift.observedMs p.nowMs c.sampleTimeoutMs = true ∧
    (p.nowMs - lift.observedMs).toNat ≤ (p.nowMs - f.observedMs).toNat ∧
    f.liftPositionUm = lift.positionUm ∧ f.liftHomed = lift.homed

/-- The sample of an axis is what a reply of that axis said. -/
def Reply.Brought (c : FeedbackReaderConfig) (axis : Axis) (sample : AxisSample) (reply : Reply) :
    Prop :=
  reply.axis = axis ∧ reply.readingMode = false ∧
    deviceFault (c.axes axis) (reply.sample (c.axes axis)) reply.data = false ∧
    sample.reading = reply.sample (c.axes axis)

/-- A reply of that axis said that it is in velocity mode. -/
def Reply.Verified (axis : Axis) (sample : AxisSample) (reply : Reply) : Prop :=
  reply.axis = axis ∧ reply.readingMode = true ∧ reply.data.getD 0 0 = 1 ∧
    sample.modeMs = reply.startedMs

namespace Watched

structure Sound (w : Watched) : Prop where
  configured : w.reader.configured = true
  sampled : ∀ axis, (w.reader.axes axis).valid = true →
    ∃ reply ∈ w.replies, reply.Brought w.reader.config axis (w.reader.axes axis)
  verified : ∀ axis, (w.reader.axes axis).modeVerified = true →
    ∃ reply ∈ w.replies, reply.Verified axis (w.reader.axes axis)
  backed : w.reader.supervisor.feedback.Claims →
    ∃ p, w.published = some p ∧ p.Backs w.reader.config w.reader.supervisor.feedback

namespace Sound

variable {w : Watched}

theorem calm (h : w.Sound) {r : FeedbackReader} (hcalm : Calm w.reader r) :
    Sound { w with reader := r } where
  configured := hcalm.configured.trans h.configured
  sampled axis hvalid := by
    obtain ⟨hbefore, hreading⟩ := hcalm.sample axis hvalid
    obtain ⟨reply, hmem, haxis, hmode, hdevice, hsample⟩ := h.sampled axis hbefore
    refine ⟨reply, hmem, ?_⟩
    rw [Reply.Brought, hcalm.config, hreading]
    exact ⟨haxis, hmode, hdevice, hsample⟩
  verified axis hmode := by
    obtain ⟨hbefore, hms⟩ := hcalm.mode axis hmode
    obtain ⟨reply, hmem, haxis, hkind, hone, hstarted⟩ := h.verified axis hbefore
    exact ⟨reply, hmem, haxis, hkind, hone, hms.trans hstarted⟩
  backed hclaims := by
    have hsame := hcalm.feedback hclaims
    obtain ⟨p, hp, hbacks⟩ := h.backed (hsame ▸ hclaims)
    refine ⟨p, hp, ?_⟩
    rw [hcalm.config, hsame]
    exact hbacks

theorem more (h : w.Sound) (replies : List Reply) :
    Sound { w with replies := w.replies ++ replies } where
  configured := h.configured
  sampled axis hvalid := by
    obtain ⟨reply, hmem, hbrought⟩ := h.sampled axis hvalid
    exact ⟨reply, List.mem_append_left _ hmem, hbrought⟩
  verified axis hmode := by
    obtain ⟨reply, hmem, hverified⟩ := h.verified axis hmode
    exact ⟨reply, List.mem_append_left _ hmem, hverified⟩
  backed := h.backed

/-- An axis whose new record keeps what the reply in hand does not bring. -/
theorem settle (h : w.Sound) {sample : AxisSample}
    (hsample : sample.valid = true →
      ∃ reply ∈ w.replies, reply.Brought w.reader.config w.reader.axis sample)
    (hmode : sample.modeVerified = true →
      ∃ reply ∈ w.replies, reply.Verified w.reader.axis sample) :
    Sound { w with reader := w.reader.settle sample } where
  configured := h.configured
  sampled axis hvalid := by
    by_cases haxis : axis = w.reader.axis
    · subst haxis
      simp only [FeedbackReader.settle, Function.update_self] at hvalid ⊢
      exact hsample hvalid
    · simp only [FeedbackReader.settle, Function.update_of_ne haxis] at hvalid ⊢
      exact h.sampled axis hvalid
  verified axis hverified := by
    by_cases haxis : axis = w.reader.axis
    · subst haxis
      simp only [FeedbackReader.settle, Function.update_self] at hverified ⊢
      exact hmode hverified
    · simp only [FeedbackReader.settle, Function.update_of_ne haxis] at hverified ⊢
      exact h.verified axis hverified
  backed := h.backed

theorem commit (h : w.Sound) (token now : Tick) (txDone quiet : Bool) :
    Sound
      { w with
        reader := (w.reader.commit token now txDone quiet).1
        replies := w.replies ++ (w.reader.reply? token now txDone quiet).toList } := by
  have hpolled := h.calm (Calm.poll w.reader now)
  rcases w.reader.commit_cases token now txDone quiet with
    ⟨hno, hcalm⟩ | ⟨data, hdata, hok, ⟨hmode, hone, heq⟩ | ⟨hmode, hdevice, heq⟩⟩
  · rw [reply?, hno]
    exact (h.calm hcalm).more _
  · rw [reply?_eq hok hdata, heq, hmode]
    have hbook := hpolled.more [⟨(w.reader.poll now).axis, true, (w.reader.poll now).startedMs, data⟩]
    refine hbook.settle (fun hvalid => ?_) fun _ => ?_
    · obtain ⟨reply, hmem, hbrought⟩ := hbook.sampled _ hvalid
      exact ⟨reply, hmem, hbrought⟩
    · exact ⟨_, List.mem_append_right _ List.mem_cons_self, rfl, rfl, hone, rfl⟩
  · rw [reply?_eq hok hdata, heq, hmode]
    have hbook := hpolled.more
      [⟨(w.reader.poll now).axis, false, (w.reader.poll now).startedMs, data⟩]
    have hdirty : Sound
        { reader :=
            { w.reader.poll now with
              dirty := Function.update (w.reader.poll now).dirty (w.reader.poll now).axis true }
          replies := w.replies ++
            [⟨(w.reader.poll now).axis, false, (w.reader.poll now).startedMs, data⟩]
          published := w.published } :=
      hbook.calm (Calm.of_same rfl rfl rfl rfl)
    refine hdirty.settle (fun _ => ?_) fun hverified => ?_
    · exact ⟨_, List.mem_append_right _ List.mem_cons_self, rfl, rfl, hdevice, rfl⟩
    · obtain ⟨reply, hmem, haxis, hkind, hsaid, hms⟩ := hbook.verified _ hverified
      exact ⟨reply, hmem, haxis, hkind, hsaid, hms⟩

theorem backs_gather {r : FeedbackReader} (hconf : r.configured = true) {lift : Option LiftEvidence}
    {now : Tick} (hswept : (r.poll now).swept = true)
    (hskew : ¬ (r.poll now).config.maximumSampleSkewMs <
      (r.poll now).oldestAge now - (r.poll now).youngestAge now)
    (hclaims : ((r.poll now).gather lift now).Claims) :
    Publication.Backs ⟨now, (r.poll now).axes, r.recentLift lift now⟩ (r.poll now).config
      ((r.poll now).gather lift now) := by
  have hheld := held_of_swept hconf hswept
  have hconfig : (r.poll now).config = r.config := (Calm.poll r now).config
  have hlift : (r.poll now).recentLift lift now = r.recentLift lift now := by
    rw [recentLift, recentLift, hconfig]
  rcases hrecent : r.recentLift lift now with - | evidence
  · rw [gather, hlift, hrecent] at hclaims
    cases hclaims.1
  have hage : recent evidence.observedMs now (r.poll now).config.sampleTimeoutMs = true := by
    rw [recentLift] at hrecent
    rw [hconfig]
    exact (Option.filter_eq_some_iff.mp hrecent).2
  rw [gather, hlift, hrecent]
  have hobserved : ∀ age : Tick, now - (now - age) = age := fun age => by
    rw [sub_sub_cancel]
  refine ⟨fun axis => ⟨(hheld axis).1, (hheld axis).2.1⟩,
    fun axis => ⟨(hheld axis).2.2.1, (hheld axis).2.2.2⟩, fun axis => rfl,
    fun a b => age_le_add_skew hskew a b, fun axis => ?_,
    ⟨evidence, rfl, hage, ?_, rfl, rfl⟩⟩
  · rw [hobserved, toNat_larger]
    exact (age_le_oldest _ now axis).trans (Nat.le_max_left _ _)
  · rw [hobserved, toNat_larger]
    exact Nat.le_max_right _ _

theorem publish (h : w.Sound) (lift : Option LiftEvidence) (now : Tick) :
    Sound
      { w with
        reader := (w.reader.publish lift now).1
        published :=
          if (w.reader.publish lift now).2 then
            some ⟨now, (w.reader.poll now).axes, w.reader.recentLift lift now⟩
          else w.published } := by
  have hpolled := h.calm (Calm.poll w.reader now)
  rcases w.reader.publish_cases lift now with
    ⟨hno, hcalm, -⟩ | ⟨hok, hswept, hskew, haxes, hconfig, hconf, hfeedback⟩
  · rw [hno]
    exact hpolled.calm hcalm
  · rw [hok]
    refine ⟨hconf.trans hpolled.configured, ?_, ?_, ?_⟩
    · simp only [haxes, hconfig]
      exact hpolled.sampled
    · simp only [haxes]
      exact hpolled.verified
    · simp only [hfeedback, hconfig]
      exact fun hclaims => ⟨_, rfl, backs_gather h.configured hswept hskew hclaims⟩

theorem step (ids : MobileIds) (h : w.Sound) (e : Event) : (w.step ids e).Sound := by
  cases e with
  | begin now quiet => exact h.calm (Calm.begin ids w.reader now quiet)
  | feed token bytes now => exact h.calm (Calm.feed w.reader token bytes now)
  | commit token now txDone quiet => exact h.commit token now txDone quiet
  | publish lift now => exact h.publish lift now
  | poll now => exact h.calm (Calm.poll w.reader now)
  | fail => exact h.calm (Calm.fail w.reader .transport)
  | reset quiet stopped => exact h.calm (Calm.reset w.reader quiet stopped)
  | supervisor call =>
    exact h.calm (Calm.of_same rfl rfl (MobileSupervisor.call_feedback call.property) rfl)

theorem init {supervisor : MobileSupervisor} {config : FeedbackReaderConfig}
    {initial : FeedbackReader} (hinit : FeedbackReader.init supervisor config = some initial) :
    Sound ⟨initial, [], none⟩ := by
  unfold FeedbackReader.init at hinit
  split at hinit
  · cases hinit
  · cases hinit
    exact ⟨rfl, nofun, nofun, nofun⟩

end Sound

/-! ## 7. The evidence -/

/-- A claim of sound hardware and verified modes has every axis behind it: a sample and a mode of
their time, brought by replies of that axis, and a publication that says what the feedback says. -/
def Evident (w : Watched) (nowMs : Tick) : Prop :=
  w.reader.supervisor.feedback.Claims →
    w.reader.Held nowMs ∧
    (∀ axis, (∃ reply ∈ w.replies, reply.Brought w.reader.config axis (w.reader.axes axis)) ∧
      ∃ reply ∈ w.replies, reply.Verified axis (w.reader.axes axis)) ∧
    ∃ p, w.published = some p ∧ p.Backs w.reader.config w.reader.supervisor.feedback

theorem held_of_publish {r : FeedbackReader} (hconf : r.configured = true)
    {lift : Option LiftEvidence} {now : Tick}
    (hclaims : (r.publish lift now).1.supervisor.feedback.Claims) :
    (r.publish lift now).1.Held now := by
  have hheld (h : (r.poll now).Held now) (haxes : (r.publish lift now).1.axes = (r.poll now).axes)
      (hconfig : (r.publish lift now).1.config = (r.poll now).config) :
      (r.publish lift now).1.Held now := by
    rw [Held, haxes, hconfig]
    exact h
  rcases r.publish_cases lift now with
    ⟨-, hcalm, haxes⟩ | ⟨-, hswept, -, haxes, hconfig, -, -⟩
  · exact hheld (held_of_poll hconf (hcalm.feedback hclaims ▸ hclaims)) haxes hcalm.config
  · exact hheld (held_of_swept hconf hswept) haxes hconfig

theorem Sound.evident {w : Watched} (h : w.Sound) (ids : MobileIds) {e : Event} {now : Tick}
    (hreads : e.Reads now) : (w.step ids e).Evident now := by
  intro hclaims
  have hnext := h.step ids e
  have hheld : (w.step ids e).reader.Held now := by
    cases e with
    | poll nowMs =>
      obtain rfl : now = nowMs := hreads
      exact held_of_poll h.configured hclaims
    | publish lift nowMs =>
      obtain rfl : now = nowMs := hreads
      exact held_of_publish h.configured hclaims
    | _ => exact absurd hreads id
  exact ⟨hheld, fun axis => ⟨hnext.sampled axis (hheld axis).1, hnext.verified axis (hheld axis).2.2.1⟩,
    hnext.backed hclaims⟩

/-- The events without the bytes fed under a token that is not the outstanding query's. -/
def heeded (ids : MobileIds) : Watched → List Event → List Event
  | _, [] => []
  | w, .feed token bytes nowMs :: l =>
    if w.reader.outstanding token then
      .feed token bytes nowMs :: heeded ids (w.step ids (.feed token bytes nowMs)) l
    else heeded ids (w.step ids (.feed token bytes nowMs)) l
  | w, e :: l => e :: heeded ids (w.step ids e) l

theorem step_stale (ids : MobileIds) {w : Watched} {token : Tick}
    (h : w.reader.outstanding token = false) (bytes : List Byte) (now : Tick) :
    w.step ids (.feed token bytes now) = w := by
  simp [step, feed, h]

/-- Bytes under any other token leave no trace. -/
theorem run_heeded (ids : MobileIds) : ∀ (l : List Event) (w : Watched),
    run (step ids) w (heeded ids w l) = run (step ids) w l := by
  intro l
  induction l with
  | nil => exact fun w => rfl
  | cons e l ih =>
    intro w
    cases e with
    | feed token bytes now =>
      rw [heeded]
      split
      · exact ih _
      · rename_i hstale
        rw [run_cons, step_stale ids (by simpa using hstale)]
        exact ih w
    | _ => exact ih _

/-- **The published feedback is sound.**  Over every run of queries, replies of any bytes, stale
tokens, timeouts, faults and recoveries, at any readings of the clock: behind every poll and every
publish a claim has its evidence, and bytes that came under a token other than the outstanding
query's change nothing at all. -/
theorem feedback_sound (ids : MobileIds) {supervisor : MobileSupervisor}
    {config : FeedbackReaderConfig} {initial : FeedbackReader}
    (hinit : FeedbackReader.init supervisor config = some initial) (events : List Event) :
    (∀ e now, e.Reads now →
      ((run (step ids) ⟨initial, [], none⟩ events).step ids e).Evident now) ∧
    run (step ids) ⟨initial, [], none⟩ (heeded ids ⟨initial, [], none⟩ events) =
      run (step ids) ⟨initial, [], none⟩ events := by
  have hsound : (run (step ids) ⟨initial, [], none⟩ events).Sound :=
    run_invariant_all (fun _ e h => h.step ids e) events (Sound.init hinit)
  exact ⟨fun e now hreads => hsound.evident ids hreads, run_heeded ids events _⟩

/-- The set-up of the source's tests. -/
def Bench.supervisor : MobileSupervisor :=
  (MobileSupervisor.init
    { maxVelocityRaw := fun _ => 100, stoppedVelocityRaw := 2, commandTimeoutMs := 100
      feedbackTimeoutMs := 200, liftMinUm := 0, liftMaxUm := 300000 }).1

def Bench.config : FeedbackReaderConfig where
  axes axis := ⟨if axis = 1 then -1 else 1, 90, 140, 70, 1000⟩
  sampleTimeoutMs := 100
  modeTimeoutMs := 400
  responseTimeoutMs := 5
  maximumSampleSkewMs := 30

def Bench.reader : FeedbackReader :=
  (FeedbackReader.init Bench.supervisor Bench.config).get (by decide +kernel)

theorem init_bench : FeedbackReader.init Bench.supervisor Bench.config = some Bench.reader :=
  (Option.some_get _).symm

/-- A query of an axis, and the good answer to it. -/
def Bench.readOne (axis : Axis) (data : List Byte) (token nowMs : Tick) : List Event :=
  let fields :=
    [MobileIds.reference.servo axis, BitVec.ofNat 8 (data.length + 2), 0] ++ data
  [.begin nowMs true, .feed token ([0xFF, 0xFF] ++ fields ++ [checksum fields]) (nowMs + 1),
    .commit token (nowMs + 1) true true]

/-- The modes of the four axes and then their telemetry. -/
def Bench.sweep : List Event :=
  (List.finRange 4).flatMap
      (fun axis => Bench.readOne axis [1] (BitVec.ofNat 32 (axis + 1))
        (BitVec.ofNat 32 (104 + 4 * axis))) ++
    (List.finRange 4).flatMap
      (fun axis => Bench.readOne axis [0xFF, 0x0F, 0, 0, 0, 0, 120, 30, 0, 0, 0, 0, 0, 25, 0]
        (BitVec.ofNat 32 (axis + 5)) (BitVec.ofNat 32 (120 + 4 * axis)))

/-- The sweep is published, and the feedback claims what it found. -/
theorem feedback_sound_bench :
    let w := (run (step .reference) ⟨Bench.reader, [], none⟩ Bench.sweep).step .reference
      (.publish (some ⟨132, 12000, true, true⟩) 133)
    w.reader.supervisor.feedback.Claims ∧ w.Evident 133 :=
  ⟨by decide +kernel, (feedback_sound .reference init_bench Bench.sweep).1
    (.publish (some ⟨132, 12000, true, true⟩) 133) 133 rfl⟩

end Watched

end FeedbackReader

end MobileBimanual.Mobile
