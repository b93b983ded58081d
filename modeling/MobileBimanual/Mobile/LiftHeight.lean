/-
# The height of the lift

The encoder tells its position modulo a turn; the controller adds up the steps the short way round
and takes the height from the sum since the homing.  Beside the controller runs the position itself,
without bound: where the encoder stood at the last sample the controller took, and at the one that
ended the homing.

* `Still` says of an operation that it takes no sample: the reading, the sum and the origin stay, no
  origin appears, and a fault stays a fault.
* `Tracked` is the invariant; after a fault nothing is claimed until a reset.
* `height_tracks` is the run, `observe_jump` the sample that steps too far.
-/
import MobileBimanual.Lib.Machine
import MobileBimanual.Mobile.Lift

namespace MobileBimanual.Mobile

open MobileBimanual.Stream (Tick)
open Machine

/-! ## 1. The system -/

/-- The controller, and where the encoder really stood. -/
structure LiftTravel where
  lift : Lift
  /-- At the last sample that the controller took since its reset. -/
  last : Option Int
  /-- At the sample that ended the homing. -/
  home : Int

/-- A call of the controller; a sample comes with the position it was taken at. -/
inductive TravelEvent where
  | observe (feedback : LiftFeedback) (position : Int) (nowMs : Tick)
  | poll (nowMs : Tick)
  | home (nowMs : Tick)
  | move (heightUm : Int) (nowMs : Tick)
  | cancel
  | reset
  | inhibit (reason : LiftFault)
  | zeroSent (nowMs : Tick)

namespace LiftTravel

def start (config : LiftConfig) : LiftTravel where
  lift := (Lift.init config).1
  last := none
  home := 0

def step (t : LiftTravel) : TravelEvent → LiftTravel
  | .observe feedback position nowMs =>
    let (lift, accepted) := t.lift.observe feedback nowMs
    { lift
      last := if accepted then some position else t.last
      home := if !t.lift.homed && lift.homed then position else t.home }
  | .poll nowMs => { t with lift := t.lift.poll nowMs }
  | .home nowMs => { t with lift := (t.lift.home nowMs).1 }
  | .move heightUm nowMs => { t with lift := (t.lift.move heightUm nowMs).1 }
  | .cancel => { t with lift := t.lift.cancel }
  | .reset => { t with lift := t.lift.reset, last := if t.lift.configured then none else t.last }
  | .inhibit reason => { t with lift := t.lift.inhibit reason }
  | .zeroSent nowMs => { t with lift := t.lift.markZeroSent nowMs }

/-- A sample that is accepted reads the position, which has moved by no more than the bound since
the last one that was. -/
def Measured (t : LiftTravel) : TravelEvent → Prop
  | .observe feedback position nowMs =>
    (t.lift.observe feedback nowMs).2 = true →
      (feedback.positionRaw : Int) = position % 4096 ∧
        ∀ last ∈ t.last, |position - last| ≤ t.lift.config.maximumEncoderStepRaw
  | _ => True

instance (t : LiftTravel) : (e : TravelEvent) → Decidable (Measured t e)
  | .observe _ _ _ => inferInstanceAs (Decidable (_ → _ ∧ _))
  | .poll _ | .home _ | .move _ _ | .cancel | .reset | .inhibit _ | .zeroSent _ =>
    inferInstanceAs (Decidable True)

/-- What the height should be, truncated as the source's division truncates. -/
def height (t : LiftTravel) (position : Int) : Int :=
  Int.tdiv ((position - t.home) * t.lift.config.encoderUpDirection * t.lift.config.umPerTurn) 4096

end LiftTravel

/-! ## 2. Operations that take no sample -/

namespace Lift

/-- There is no origin before the homing is over, and none in a fault. -/
structure Sane (l : Lift) : Prop where
  unhomed : l.state = .unhomed → l.homed = false
  homing : l.state = .homing → l.homed = false
  faulted : l.state = .fault → l.homed = false

structure Still (l l' : Lift) : Prop where
  config : l'.config = l.config
  haveSample : l'.haveSample = l.haveSample
  observedMs : l'.observedMs = l.observedMs
  previousRaw : l'.previousRaw = l.previousRaw
  accumulatedRaw : l'.accumulatedRaw = l.accumulatedRaw
  homeRaw : l'.homeRaw = l.homeRaw
  heightUm : l'.heightUm = l.heightUm
  homed : l'.homed = true → l.homed = true
  kept : l.homed = true → l'.homed = true ∨ l'.state = .fault
  fault : l.state = .fault → l'.state = .fault
  sane : l.Sane → l'.Sane

namespace Still

variable {l l' l'' : Lift}

theorem refl (l : Lift) : Still l l := ⟨rfl, rfl, rfl, rfl, rfl, rfl, rfl, id, .inl, id, id⟩

theorem trans (h : Still l l') (h' : Still l' l'') : Still l l'' where
  config := h'.config.trans h.config
  haveSample := h'.haveSample.trans h.haveSample
  observedMs := h'.observedMs.trans h.observedMs
  previousRaw := h'.previousRaw.trans h.previousRaw
  accumulatedRaw := h'.accumulatedRaw.trans h.accumulatedRaw
  homeRaw := h'.homeRaw.trans h.homeRaw
  heightUm := h'.heightUm.trans h.heightUm
  homed := h.homed ∘ h'.homed
  kept hhomed := (h.kept hhomed).elim h'.kept fun hfault => .inr (h'.fault hfault)
  fault := h'.fault ∘ h.fault
  sane := h'.sane ∘ h.sane

theorem fail (l : Lift) (reason : LiftFault) : Still l (l.fail reason) :=
  ⟨rfl, rfl, rfl, rfl, rfl, rfl, rfl, nofun, fun _ => .inr rfl, fun _ => rfl,
    fun _ => ⟨nofun, nofun, fun _ => rfl⟩⟩

theorem steer (hmoving : l.state = .moving) : Still l l.steer := by
  have hsane : ∀ l' : Lift, l'.state = .moving ∨ l'.state = .holdPending → l'.Sane := by
    rintro l' (h | h) <;> exact ⟨by simp [h], by simp [h], by simp [h]⟩
  have hfault : l.state ≠ .fault := by simp [hmoving]
  unfold Lift.steer
  dsimp only
  split_ifs
  · exact ⟨rfl, rfl, rfl, rfl, rfl, rfl, rfl, id, .inl, hfault.elim, fun _ => hsane _ (.inr rfl)⟩
  · exact ⟨rfl, rfl, rfl, rfl, rfl, rfl, rfl, id, .inl, id, fun _ => hsane _ (.inl hmoving)⟩
  · exact ⟨rfl, rfl, rfl, rfl, rfl, rfl, rfl, id, .inl, hfault.elim, fun _ => hsane _ (.inr rfl)⟩
  · exact ⟨rfl, rfl, rfl, rfl, rfl, rfl, rfl, id, .inl, id, fun _ => hsane _ (.inl hmoving)⟩

theorem advance (l : Lift) : Still l l.advance := by
  unfold Lift.advance
  split_ifs with _ _ hmoving
  · exact ⟨rfl, rfl, rfl, rfl, rfl, rfl, rfl, id, .inl, id, fun h => ⟨h.unhomed, h.homing, h.faulted⟩⟩
  · exact .fail l _
  · exact .steer hmoving
  · exact .refl l

theorem confirm (l : Lift) : Still l l.confirm := by
  unfold Lift.confirm
  dsimp only
  split
  next hconfirmed =>
    simp only [Bool.and_eq_true, decide_eq_true_eq] at hconfirmed
    obtain ⟨⟨⟨⟨⟨hstate, -⟩, -⟩, -⟩, -⟩, -⟩ := hconfirmed
    refine ⟨rfl, rfl, rfl, rfl, rfl, rfl, rfl, id, .inl, ?_, fun _ => ⟨nofun, nofun, nofun⟩⟩
    simp [hstate]
  next => exact .refl l

theorem guardHold (l : Lift) : Still l l.guardHold := by
  unfold Lift.guardHold
  split
  · exact .fail l _
  · exact .refl l

theorem poll (l : Lift) (now : Tick) : Still l (l.poll now) := by
  unfold Lift.poll
  split_ifs
  · exact .refl l
  · exact .fail l _
  · exact .fail l _
  · exact .fail l _
  · exact (advance l).trans ((confirm _).trans (guardHold _))

theorem home (l : Lift) (now : Tick) : Still l (l.home now).1 := by
  unfold Lift.home
  dsimp only
  split_ifs with _ hrefused
  · exact .refl l
  · exact .poll l now
  · simp only [Bool.or_eq_true, bne_iff_ne, not_or, not_not] at hrefused
    obtain ⟨⟨⟨⟨hstate, -⟩, -⟩, -⟩, -⟩ := hrefused
    refine (Still.poll l now).trans ⟨rfl, rfl, rfl, rfl, rfl, rfl, rfl, id, .inl, ?_, fun h => ?_⟩
    · simp [hstate]
    · exact ⟨nofun, fun _ => h.unhomed hstate, nofun⟩

theorem move (l : Lift) (height : Int) (now : Tick) : Still l (l.move height now).1 := by
  unfold Lift.move
  dsimp only
  split_ifs with _ hrefused
  · exact .refl l
  · exact .poll l now
  · simp only [Bool.or_eq_true, Bool.and_eq_true, bne_iff_ne, not_or, not_and_or, not_not]
      at hrefused
    obtain ⟨⟨⟨⟨-, hstate⟩, -⟩, -⟩, -⟩ := hrefused
    refine (Still.poll l now).trans (Still.trans ?_ (.poll _ now))
    refine ⟨rfl, rfl, rfl, rfl, rfl, rfl, rfl, id, .inl, ?_, fun _ => ⟨nofun, nofun, nofun⟩⟩
    rcases hstate with hstate | hstate <;> simp [hstate]

theorem cancel (l : Lift) : Still l l.cancel := by
  unfold Lift.cancel
  split_ifs with hfault hheld hhomed
  · exact .refl l
  · exact .refl l
  · refine ⟨rfl, rfl, rfl, rfl, rfl, rfl, rfl, id, .inl, ?_, fun _ => ⟨nofun, nofun, nofun⟩⟩
    intro hstate
    simp [hstate] at hfault
  · refine ⟨rfl, rfl, rfl, rfl, rfl, rfl, rfl, id, .inl, ?_, fun _ => ⟨fun _ => ?_, nofun, nofun⟩⟩
    · intro hstate
      simp [hstate] at hfault
    · exact Bool.eq_false_iff.mpr hhomed

theorem inhibit (l : Lift) (reason : LiftFault) : Still l (l.inhibit reason) := by
  unfold Lift.inhibit
  split
  · exact .fail l _
  · exact .refl l

theorem markZeroSent (l : Lift) (now : Tick) : Still l (l.markZeroSent now) := by
  unfold Lift.markZeroSent
  split
  · exact ⟨rfl, rfl, rfl, rfl, rfl, rfl, rfl, id, .inl, id, fun h => ⟨h.unhomed, h.homing, h.faulted⟩⟩
  · exact .refl l

end Still

/-! ## 3. A sample -/

/-- Between two readings less than half a turn apart the short way round is the way it went. -/
theorem encoderStep_eq {previousRaw positionRaw : Nat} {last position : Int}
    (hprevious : (previousRaw : Int) = last % 4096) (hposition : (positionRaw : Int) = position % 4096)
    (hnear : |position - last| < 2048) : encoderStep previousRaw positionRaw = position - last := by
  obtain ⟨hlow, hhigh⟩ := abs_lt.mp hnear
  unfold encoderStep
  dsimp only
  split_ifs <;> omega

/-- The step is one that the bound excludes. -/
def Jumps (l : Lift) (f : LiftFeedback) : Prop :=
  (l.config.maximumEncoderStepRaw : Int) < |encoderStep l.previousRaw f.positionRaw|

theorem not_jumps_iff {l : Lift} {f : LiftFeedback} :
    ¬ (l.config.maximumEncoderStepRaw < encoderStep l.previousRaw f.positionRaw ∨
      encoderStep l.previousRaw f.positionRaw < -(l.config.maximumEncoderStepRaw : Int)) ↔
      ¬ l.Jumps f := by
  unfold Jumps
  rw [lt_abs]
  omega

/-- The record with the sample in it, and the height that goes with it. -/
def taken (l : Lift) (f : LiftFeedback) : Lift :=
  let delta := encoderStep l.previousRaw f.positionRaw
  let l := (if l.haveSample then l.accumulate delta else l).takeSample f
  if l.homed then { l with heightUm := l.heightOf } else l

/-- **A sample** is passed over, or is one jump or turn too far, or is taken. -/
theorem observe_cases (l : Lift) (f : LiftFeedback) (now : Tick) :
    (l.observe f now).2 = false ∧
        (Still l (l.observe f now).1 ∨
          (l.observe f now).1.state = .fault ∧ (l.observe f now).1.homed = false ∧
            (l.observe f now).1.config = l.config) ∨
      l.observe f now = ((((l.poll now).taken f).trackContact f).poll now, true) := by
  have hpoll := Still.poll l now
  unfold observe
  dsimp only
  split_ifs with hconfigured hacceptable hjump hturns hsample
  · exact .inl ⟨rfl, .inl (.refl l)⟩
  · exact .inl ⟨rfl, .inl hpoll⟩
  · exact .inl ⟨rfl, .inl (hpoll.trans (.fail _ _))⟩
  · exact .inl ⟨rfl, .inl (hpoll.trans (.fail _ _))⟩
  · unfold measure taken
    dsimp only
    rw [if_pos hsample]
    split
    next => exact .inl ⟨rfl, .inr ⟨rfl, rfl, hpoll.config⟩⟩
    next => exact .inr rfl
  · unfold measure taken
    dsimp only
    rw [if_neg hsample]
    split
    next => exact .inl ⟨rfl, .inr ⟨rfl, rfl, hpoll.config⟩⟩
    next => exact .inr rfl

/-- **A sample that jumps** is not tracked: it ends in the fault, without an origin. -/
theorem observe_jump {l : Lift} {f : LiftFeedback} {now : Tick} (hconfigured : l.configured = true)
    (hsample : l.haveSample = true) (hacceptable : l.acceptable f now = true) (hjumps : l.Jumps f) :
    l.observe f now = ((l.poll now).fail .encoderJump, false) := by
  have hpoll := Still.poll l now
  have hstill : (l.poll now).acceptable f now = true := by
    unfold acceptable at hacceptable ⊢
    rw [hpoll.config, hpoll.observedMs, hpoll.haveSample]
    exact hacceptable
  have hbound : (l.poll now).Jumps f := by
    unfold Jumps at hjumps ⊢
    rw [hpoll.config, hpoll.previousRaw]
    exact hjumps
  have hout := not_not.mp (not_jumps_iff.not.mpr (not_not.mpr hbound))
  unfold observe
  dsimp only
  rw [if_neg (by simp [hconfigured]), if_neg (by simp [hstill]), if_pos]
  simpa [hpoll.haveSample.trans hsample] using hout

end Lift

/-! ## 4. The invariant -/

namespace LiftTravel

/-- The controller's reading is the encoder's, and its sum the way from home; not after a fault. -/
structure Tracked (t : LiftTravel) : Prop where
  bound : t.lift.config.maximumEncoderStepRaw < 2048
  sane : t.lift.Sane
  reads : t.lift.state ≠ .fault → t.lift.haveSample = true →
    ∃ last, t.last = some last ∧ (t.lift.previousRaw : Int) = last % 4096
  homed : t.lift.homed = true → t.lift.haveSample = true ∧ ∃ last, t.last = some last ∧
    t.lift.accumulatedRaw - t.lift.homeRaw = (last - t.home) * t.lift.config.encoderUpDirection ∧
    t.lift.heightUm = t.lift.heightOf

namespace Tracked

variable {t : LiftTravel}

theorem start (config : LiftConfig) : Tracked (start config) := by
  unfold LiftTravel.start Lift.init
  split
  next hconfig =>
    simp only [Lift.configOk, Bool.and_eq_true, decide_eq_true_eq] at hconfig
    exact ⟨hconfig.1.2, ⟨fun _ => rfl, nofun, nofun⟩, fun _ => nofun, nofun⟩
  next => exact ⟨by decide, ⟨fun _ => rfl, nofun, nofun⟩, fun _ => nofun, nofun⟩

/-- An operation that takes no sample keeps it. -/
theorem still (h : Tracked t) {lift : Lift} (hstill : Lift.Still t.lift lift) :
    Tracked { t with lift } where
  bound := hstill.config ▸ h.bound
  sane := hstill.sane h.sane
  reads hstate hsample := by
    dsimp only at hstate hsample ⊢
    rw [hstill.haveSample] at hsample
    rw [hstill.previousRaw]
    exact h.reads (fun hfault => hstate (hstill.fault hfault)) hsample
  homed hhomed := by
    dsimp only at hhomed ⊢
    unfold Lift.heightOf
    rw [hstill.haveSample, hstill.accumulatedRaw, hstill.homeRaw, hstill.config, hstill.heightUm]
    exact h.homed (hstill.homed hhomed)

/-- Without an origin, home is where anyone likes. -/
theorem withHome (h : Tracked t) {home : Int} (hhome : t.lift.homed = true → home = t.home) :
    Tracked { t with home } := by
  refine ⟨h.bound, h.sane, h.reads, fun hhomed => ?_⟩
  dsimp only at hhomed ⊢
  rw [hhome hhomed]
  exact h.homed hhomed

/-- A fault and a reset claim nothing. -/
theorem lost {lift : Lift} {last : Option Int} {home : Int}
    (hbound : lift.config.maximumEncoderStepRaw < 2048)
    (hstate : lift.state = .fault ∨ lift.haveSample = false) (hhomed : lift.homed = false) :
    Tracked ⟨lift, last, home⟩ := by
  refine ⟨hbound, ⟨fun _ => hhomed, fun _ => hhomed, fun _ => hhomed⟩, ?_, ?_⟩
  · intro hfault hsample
    rcases hstate with hstate | hstate
    · exact absurd hstate hfault
    · cases hstate.symm.trans hsample
  · intro h
    cases hhomed.symm.trans h

/-- **A sample is taken**: the sum goes on by the way it went. -/
theorem taken (h : Tracked t) {f : LiftFeedback} {position : Int}
    (hposition : (f.positionRaw : Int) = position % 4096)
    (hnear : ∀ last ∈ t.last, |position - last| ≤ t.lift.config.maximumEncoderStepRaw) :
    Tracked { t with lift := t.lift.taken f, last := some position } := by
  have hsame : (t.lift.taken f).config = t.lift.config ∧ (t.lift.taken f).state = t.lift.state ∧
      (t.lift.taken f).homed = t.lift.homed ∧ (t.lift.taken f).haveSample = true ∧
      (t.lift.taken f).previousRaw = f.positionRaw := by
    unfold Lift.taken
    dsimp only
    split_ifs <;> exact ⟨rfl, rfl, rfl, rfl, rfl⟩
  obtain ⟨hconfig, hstate, hhomed, hsample, hprevious⟩ := hsame
  refine ⟨hconfig ▸ h.bound, ⟨?_, ?_, ?_⟩, ?_, ?_⟩
  · rw [hstate, hhomed]
    exact h.sane.unhomed
  · rw [hstate, hhomed]
    exact h.sane.homing
  · rw [hstate, hhomed]
    exact h.sane.faulted
  · exact fun _ _ => ⟨position, rfl, hprevious ▸ hposition⟩
  · intro hhome
    dsimp only at hhome ⊢
    rw [hhomed] at hhome
    obtain ⟨hhave, last, hlast, hsum, -⟩ := h.homed hhome
    refine ⟨hsample, position, rfl, ?_, ?_⟩
    · have hfault : t.lift.state ≠ .fault := by
        intro hfault
        cases (h.sane.faulted hfault).symm.trans hhome
      obtain ⟨last', hlast', hread⟩ := h.reads hfault hhave
      obtain rfl := Option.some.inj (hlast.symm.trans hlast')
      have hbound : (t.lift.config.maximumEncoderStepRaw : Int) < 2048 := by exact_mod_cast h.bound
      have hstep := Lift.encoderStep_eq hread hposition ((hnear last hlast).trans_lt hbound)
      have hmoved : (t.lift.taken f).accumulatedRaw - (t.lift.taken f).homeRaw =
          t.lift.accumulatedRaw - t.lift.homeRaw +
            (position - last) * t.lift.config.encoderUpDirection := by
        unfold Lift.taken
        dsimp only
        rw [hhave, if_pos rfl, hstep]
        split_ifs <;> simp only [Lift.takeSample, Lift.accumulate] <;> ring
      rw [hmoved, hsum, hconfig]
      ring
    · unfold Lift.taken
      dsimp only
      split_ifs <;> first | rfl | exact absurd hhome ‹_›

/-- **The end of the homing**: where the encoder stands is home. -/
theorem contact (h : Tracked t) (f : LiftFeedback) {position : Int} (hlast : t.last = some position)
    (hsample : t.lift.haveSample = true) :
    Tracked
      { lift := t.lift.trackContact f
        last := t.last
        home := if !t.lift.homed && (t.lift.trackContact f).homed then position else t.home } := by
  have hkept : (if !t.lift.homed && t.lift.homed then position else t.home) = t.home := by simp
  unfold Lift.trackContact
  split
  next =>
    rw [hkept]
    exact h
  next hstate =>
    have hhoming : t.lift.state = .homing := by simpa using hstate
    have hunhomed := h.sane.homing hhoming
    split
    next =>
      split
      next =>
        dsimp only
        rw [hkept]
        exact ⟨h.bound, ⟨h.sane.unhomed, h.sane.homing, h.sane.faulted⟩, h.reads, h.homed⟩
      next =>
        split
        next =>
          rw [hunhomed]
          refine ⟨h.bound, ⟨nofun, nofun, nofun⟩, fun _ => h.reads (by simp [hhoming]), ?_⟩
          refine fun _ => ⟨hsample, position, hlast, ?_, ?_⟩
          · simp
          · simp [Lift.heightOf]
        next =>
          rw [hkept]
          exact h
    next =>
      dsimp only
      rw [hkept]
      exact ⟨h.bound, ⟨h.sane.unhomed, h.sane.homing, h.sane.faulted⟩, h.reads, h.homed⟩

/-- **A sample keeps it.** -/
theorem observe (h : Tracked t) {f : LiftFeedback} {position : Int} {now : Tick}
    (hmeasured : Measured t (.observe f position now)) :
    Tracked (t.step (.observe f position now)) := by
  change (t.lift.observe f now).2 = true → _ ∧ _ at hmeasured
  unfold step
  dsimp only
  rcases t.lift.observe_cases f now with ⟨hpassed, hstill | ⟨hstate, hhomed, hconfig⟩⟩ | htaken
  · rw [hpassed, if_neg Bool.false_ne_true]
    refine (h.still hstill).withHome fun hhomed => ?_
    rw [hstill.homed hhomed]
    rfl
  · exact lost (hconfig ▸ h.bound) (.inl hstate) hhomed
  · rw [htaken] at hmeasured ⊢
    obtain ⟨hposition, hnear⟩ := hmeasured rfl
    have hpoll := Lift.Still.poll t.lift now
    have hpolled := (h.still hpoll).taken hposition (by rw [hpoll.config]; exact hnear)
    have hhave : ((t.lift.poll now).taken f).haveSample = true := by
      unfold Lift.taken
      dsimp only
      split_ifs <;> rfl
    have hcontact := hpolled.contact f rfl hhave
    have hend := Lift.Still.poll (((t.lift.poll now).taken f).trackContact f) now
    refine (hcontact.still hend).withHome fun hhomed => ?_
    have hsame : ((t.lift.poll now).taken f).homed = (t.lift.poll now).homed ∧
        ((t.lift.poll now).taken f).state = (t.lift.poll now).state := by
      unfold Lift.taken
      dsimp only
      split_ifs <;> exact ⟨rfl, rfl⟩
    have hfound : (((t.lift.poll now).taken f).trackContact f).homed = true := hend.homed hhomed
    -- the poll before the sample loses the origin only to a fault, and then none is found
    have hbefore : (t.lift.poll now).homed = t.lift.homed := by
      rcases Bool.eq_false_or_eq_true t.lift.homed with hhome | hhome
      · rw [hhome]
        refine (hpoll.kept hhome).elim id fun hfault => ?_
        unfold Lift.trackContact at hfound
        rw [if_pos (by simp [hsame.2, hfault]), hsame.1] at hfound
        exact hfound
      · rw [hhome]
        exact Bool.eq_false_iff.mpr fun hpolled => by simp [hpoll.homed hpolled] at hhome
    dsimp only at hhomed ⊢
    rw [hhomed, hfound, hsame.1, hbefore]

/-- **Every call keeps it.** -/
theorem step (h : Tracked t) {e : TravelEvent} (hmeasured : Measured t e) : Tracked (t.step e) := by
  cases e with
  | observe f position now => exact h.observe hmeasured
  | poll now => exact h.still (.poll _ now)
  | home now => exact h.still (.home _ now)
  | move height now => exact h.still (.move _ height now)
  | cancel => exact h.still (.cancel _)
  | reset =>
    change Tracked { t with
      lift := t.lift.reset, last := if t.lift.configured then none else t.last }
    cases hconfigured : t.lift.configured with
    | false =>
      have hreset : t.lift.reset = t.lift := by simp [Lift.reset, hconfigured]
      rw [hreset]
      exact h
    | true =>
      have hreset : t.lift.reset.config = t.lift.config ∧ t.lift.reset.haveSample = false ∧
          t.lift.reset.homed = false := by simp [Lift.reset, hconfigured]
      exact lost (hreset.1 ▸ h.bound) (.inr hreset.2.1) hreset.2.2
  | inhibit reason => exact h.still (.inhibit _ reason)
  | zeroSent now => exact h.still (.markZeroSent _ now)

end Tracked

/-! ## 5. Every run -/

/-- **The height is tracked.**  Along every run whose accepted samples read a position that moved by
no more than the bound, the height of a homed lift is that of the way from home; and a sample that
the controller would take, but that jumps, ends in the fault without an origin. -/
theorem height_tracks (config : LiftConfig) (events : List TravelEvent)
    (hmeasured : Along step Measured (start config) events) :
    let t := run step (start config) events
    (t.lift.homed = true → ∃ last, t.last = some last ∧ t.lift.heightUm = t.height last) ∧
    ∀ f now, t.lift.configured = true → t.lift.haveSample = true →
      t.lift.acceptable f now = true → t.lift.Jumps f →
        (t.lift.observe f now).2 = false ∧ (t.lift.observe f now).1.state = .fault ∧
          (t.lift.observe f now).1.homed = false ∧
          (t.lift.observe f now).1.previousRaw = t.lift.previousRaw ∧
          (t.lift.observe f now).1.accumulatedRaw = t.lift.accumulatedRaw := by
  dsimp only
  have htracked : Tracked (run step (start config) events) :=
    run_invariant (fun _ _ h he => h.step he) events (.start config) hmeasured
  constructor
  · intro hhomed
    obtain ⟨-, last, hlast, hsum, hheight⟩ := htracked.homed hhomed
    refine ⟨last, hlast, ?_⟩
    rw [hheight, Lift.heightOf, hsum, height]
  · intro f now hconfigured hsample hacceptable hjumps
    have hpoll := Lift.Still.poll (run step (start config) events).lift now
    rw [Lift.observe_jump hconfigured hsample hacceptable hjumps]
    exact ⟨rfl, rfl, rfl, hpoll.previousRaw, hpoll.accumulatedRaw⟩

/-- A lift that goes down as the encoder counts up. -/
def shaftConfig : LiftConfig where
  umPerTurn := 8000
  maximumHeightUm := 400000
  toleranceUm := 2000
  maximumSpeedRaw := 1000
  homingSpeedRaw := 300
  stoppedSpeedRaw := 5
  slowdownDistanceUm := 20000
  homeCurrentMa := 400
  maximumCurrentMa := 2000
  feedbackTimeoutMs := 100
  homingTimeoutMs := 20000
  contactDwellMs := 50
  maximumEncoderStepRaw := 500
  encoderUpDirection := -1

/-- A sample of the lift at rest at a position. -/
def sample (position : Int) (currentMa : Int) (nowMs : Tick) : TravelEvent :=
  .observe ⟨nowMs, (position % 4096).toNat, 0, currentMa, true, true⟩ position nowMs

/-- It homes across the end of a turn, with a repeated sample in between, and goes up. -/
def shaftRun : List TravelEvent :=
  [sample 4000 100 10, .home 20, sample 4300 500 30, sample 4300 500 30, sample 4300 500 90,
    .zeroSent 95, sample 4300 100 100, .move 5000 105, sample 3900 100 150]

theorem height_tracks_shaft :
    let t := run step (start shaftConfig) shaftRun
    (t.lift.homed = true → ∃ last, t.last = some last ∧ t.lift.heightUm = t.height last) ∧
    ∀ f now, t.lift.configured = true → t.lift.haveSample = true →
      t.lift.acceptable f now = true → t.lift.Jumps f →
        (t.lift.observe f now).2 = false ∧ (t.lift.observe f now).1.state = .fault ∧
          (t.lift.observe f now).1.homed = false ∧
          (t.lift.observe f now).1.previousRaw = t.lift.previousRaw ∧
          (t.lift.observe f now).1.accumulatedRaw = t.lift.accumulatedRaw :=
  height_tracks shaftConfig shaftRun (by decide +kernel)

/-- A sample that is not newer is passed over, however far it steps. -/
theorem old_jump_passed_over :
    ¬ ∀ (config : LiftConfig) (events : List TravelEvent) (f : LiftFeedback) (now : Tick),
      Along step Measured (start config) events →
      (run step (start config) events).lift.configured = true →
      (run step (start config) events).lift.haveSample = true →
      (run step (start config) events).lift.Jumps f →
        ((run step (start config) events).lift.observe f now).1.state = .fault := by
  intro h
  have hfault := h shaftConfig shaftRun ⟨100, 2000, 0, 100, true, true⟩ 160 (by decide +kernel)
    (by decide +kernel) (by decide +kernel) (by unfold Lift.Jumps; decide +kernel)
  revert hfault
  decide +kernel

end LiftTravel

end MobileBimanual.Mobile
