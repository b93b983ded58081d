/-
# The episodes of the startup machine

A reply finds its operation by the token alone, and a script that begins counts its tokens from 1
again.  Beside the machine stand the number of the episode and the tokens issued in each
(`EpisodeRun`), and a reply says which episode's operation it answers.

`Faithful` is what one would have of a reply: taken only for an operation of this episode, and if
it answers one of an earlier episode, turned away without a trace.  `faithful_iff` says when that
is so: as long as no late reply to the n-th operation of its episode comes in while the n-th
operation of this one is out.
-/
import MobileBimanual.Mobile.Startup

namespace MobileBimanual.Mobile

open MobileBimanual.Stream (Byte Tick)
open Machine

/-! ## 1. The run -/

/-- The calls to the machine; a reply answers the operation that had its token in an episode. -/
inductive EpisodeCall where
  | begin (profile : DeviceProfile) (now : Tick) (change secured : Bool)
  | poll (now : Tick)
  | next (now : Tick)
  | reply (episode : ℕ) (token : BitVec 32) (data : Option (List Byte)) (length : Nat) (ok : Bool)
    (now : Tick)

/-- `issued` holds the operations handed out, by episode and token. -/
structure EpisodeRun where
  machine : DeviceStartup
  episode : ℕ
  issued : List (ℕ × BitVec 32)

namespace EpisodeRun

def init : EpisodeRun := ⟨.zero, 0, []⟩

def step (ids : MobileIds) (r : EpisodeRun) : EpisodeCall → EpisodeRun
  | .begin p now change secured =>
    match r.machine.begin p now change secured with
    | (s, true) => ⟨s, r.episode + 1, r.issued⟩
    | (s, false) => ⟨s, r.episode, r.issued⟩
  | .poll now => ⟨r.machine.poll now, r.episode, r.issued⟩
  | .next now =>
    match r.machine.next ids now with
    | (s, some operation) => ⟨s, r.episode, (r.episode, operation.token) :: r.issued⟩
    | (s, none) => ⟨s, r.episode, r.issued⟩
  | .reply _ token data length ok now =>
    ⟨(r.machine.reply ids token data length ok now).1, r.episode, r.issued⟩

/-- How many operations an episode has issued. -/
def issuedIn (episode : ℕ) (issued : List (ℕ × BitVec 32)) : ℕ :=
  issued.countP fun p => p.1 = episode

/-- The reply answers an operation of an earlier episode. -/
def Late (r : EpisodeRun) (episode : ℕ) (token : BitVec 32) : Prop :=
  episode < r.episode ∧ (episode, token) ∈ r.issued

instance (r : EpisodeRun) (episode : ℕ) (token : BitVec 32) : Decidable (r.Late episode token) :=
  inferInstanceAs (Decidable (_ ∧ _))

/-- A reply is accepted only for a token issued in this episode, and a late one is turned away
and changes nothing. -/
def Faithful (ids : MobileIds) (r : EpisodeRun) : EpisodeCall → Prop
  | .reply episode token data length ok now =>
    ((r.machine.reply ids token data length ok now).2 = true → (r.episode, token) ∈ r.issued) ∧
      (r.Late episode token →
        r.machine.reply ids token data length ok now = (r.machine, false))
  | _ => True

/-- A late reply to the n-th operation of its episode, while the script of this one waits for the
reply to its n-th. -/
def Confusable (r : EpisodeRun) : EpisodeCall → Prop
  | .reply episode token _ _ _ _ =>
    r.Late episode token ∧ r.machine.state = .checking ∧ r.machine.active = true ∧
      token.toNat = issuedIn r.episode r.issued
  | _ => False

instance (r : EpisodeRun) : (call : EpisodeCall) → Decidable (r.Confusable call)
  | .reply .. => inferInstanceAs (Decidable (_ ∧ _ ∧ _ ∧ _))
  | .begin .. | .poll _ | .next _ => inferInstanceAs (Decidable False)

end EpisodeRun

/-! ## 2. What the calls do to the token -/

namespace DeviceStartup

variable {ids : MobileIds} {s : DeviceStartup} {now : Tick}

/-- The fields by which a reply finds its operation. -/
structure SameToken (s s' : DeviceStartup) : Prop where
  token : s'.token = s.token
  pending : s'.pending = s.pending
  active : s'.active = true → s.active = true

theorem SameToken.refl (s : DeviceStartup) : SameToken s s := ⟨rfl, rfl, id⟩

theorem sameToken_poll (s : DeviceStartup) (now : Tick) : SameToken s (s.poll now) := by
  rcases s.poll_cases now with heq | heq <;> rw [heq]
  · exact .refl s
  · exact ⟨rfl, rfl, id⟩

theorem sameToken_judge {data : List Byte} {s' : DeviceStartup} (h : s.judge ids data = some s') :
    s'.token = s.token ∧ s'.pending = s.pending := by
  unfold judge at h
  have hdone : ∀ {s'' : DeviceStartup}, some s'' = some s' → s''.token = s.token →
      s''.pending = s.pending → s'.token = s.token ∧ s'.pending = s.pending := by
    rintro s'' ⟨⟩ htoken hpending
    exact ⟨htoken, hpending⟩
  split at h
  case h_1 | h_2 | h_3 | h_7 | h_8 =>
    split_ifs at h <;> exact hdone h rfl rfl
  case h_4 | h_5 | h_6 => exact hdone h rfl rfl

theorem next_cases (s : DeviceStartup) (now : Tick) :
    (s.token ≠ 0xFFFFFFFF ∧ s.next ids now = (s.issue ids, some (s.issue ids).pending)) ∨
    ((s.next ids now).2 = none ∧ SameToken s (s.next ids now).1) := by
  unfold next
  dsimp only
  split_ifs with hrefuses
  · exact Or.inr ⟨rfl, sameToken_poll s now⟩
  · push Not at hrefuses
    rcases s.poll_cases now with heq | heq <;> rw [heq] at hrefuses ⊢
    · exact Or.inl ⟨hrefuses.2.2, rfl⟩
    · exact absurd hrefuses.1 (by simp [fault])

/-- What a reply does. -/
inductive Replies (ids : MobileIds) (s : DeviceStartup) (token : BitVec 32) (now : Tick) :
    DeviceStartup × Bool → Prop
  | stray (hstray : ¬ (s.active = true ∧ token = s.pending.token)) : Replies ids s token now (s, false)
  | idle (hactive : s.active = true) (htoken : token = s.pending.token)
    (hidle : (s.poll now).state ≠ .checking) : Replies ids s token now (s.poll now, false)
  | fails (hactive : s.active = true) (htoken : token = s.pending.token)
    (hchecking : s.state = .checking) : Replies ids s token now (s.fault, false)
  | taken (hactive : s.active = true) (htoken : token = s.pending.token)
    (hchecking : s.state = .checking) {data : List Byte} {s' : DeviceStartup}
    (hjudge : s.judge ids data = some s') : Replies ids s token now ({ s' with active := false }, true)

theorem reply_replies (s : DeviceStartup) (token : BitVec 32) (data : Option (List Byte))
    (length : Nat) (ok : Bool) (now : Tick) :
    Replies ids s token now (s.reply ids token data length ok now) := by
  unfold reply
  by_cases hpending : ¬ s.active ∨ token ≠ s.pending.token
  · rw [if_pos hpending]
    exact .stray fun hwaits => hpending.elim (· hwaits.1) (· hwaits.2)
  rw [if_neg hpending]
  rw [not_or, not_not, not_not] at hpending
  dsimp only
  by_cases hidle : (s.poll now).state ≠ .checking
  · rw [if_pos hidle]
    exact .idle hpending.1 hpending.2 hidle
  rw [if_neg hidle]
  have hpoll : s.poll now = s := by
    rcases s.poll_cases now with heq | heq
    · exact heq
    · exact absurd (by rw [heq]; exact nofun) hidle
  rw [hpoll, ne_eq, not_not] at hidle
  rw [hpoll]
  by_cases hbad : ¬ ok ∨ length ≠ (if s.pending.write then 0 else s.pending.length) ∨
      (length ≠ 0 ∧ data = none)
  · rw [if_pos hbad]
    exact .fails hpending.1 hpending.2 hidle
  rw [if_neg hbad]
  cases hjudge : s.judge ids (data.getD []) with
  | none => exact .fails hpending.1 hpending.2 hidle
  | some s' => exact .taken hpending.1 hpending.2 hidle hjudge

theorem sameToken_reply (s : DeviceStartup) (token : BitVec 32) (data : Option (List Byte))
    (length : Nat) (ok : Bool) (now : Tick) :
    SameToken s (s.reply ids token data length ok now).1 := by
  have hreplies := @reply_replies ids s token data length ok now
  generalize s.reply ids token data length ok now = result at hreplies ⊢
  cases hreplies with
  | stray hstray => exact .refl s
  | idle hactive htoken hidle => exact sameToken_poll s now
  | fails hactive htoken hchecking => exact ⟨rfl, rfl, id⟩
  | taken hactive htoken hchecking hjudge =>
    obtain ⟨hsame, hpending⟩ := sameToken_judge hjudge
    exact ⟨hsame, hpending, nofun⟩

variable {token : BitVec 32} {data : Option (List Byte)} {length : Nat} {ok : Bool}

/-- A reply that is taken had the token of the operation that was out. -/
theorem reply_accepted (h : (s.reply ids token data length ok now).2 = true) :
    s.active = true ∧ token = s.pending.token := by
  have hreplies := @reply_replies ids s token data length ok now
  generalize s.reply ids token data length ok now = result at hreplies h
  cases hreplies with
  | taken hactive htoken hchecking hjudge => exact ⟨hactive, htoken⟩
  | _ => cases h

/-- **A reply leaves no trace** exactly if the script is not waiting for its token. -/
theorem reply_refused_iff : s.reply ids token data length ok now = (s, false) ↔
    ¬ (s.state = .checking ∧ s.active = true ∧ token = s.pending.token) := by
  have hreplies := @reply_replies ids s token data length ok now
  generalize s.reply ids token data length ok now = result at hreplies ⊢
  cases hreplies with
  | stray hstray => exact ⟨fun _ hwaits => hstray hwaits.2, fun _ => rfl⟩
  | idle hactive htoken hidle =>
    constructor
    · rintro heq ⟨hchecking, -⟩
      rw [(Prod.mk.inj heq).1] at hidle
      exact hidle hchecking
    · intro h
      have hpoll : s.poll now = s := if_neg fun hdue => h ⟨hdue.1, hactive, htoken⟩
      rw [hpoll]
  | fails hactive htoken hchecking =>
    refine ⟨fun heq => ?_, fun h => absurd ⟨hchecking, hactive, htoken⟩ h⟩
    have hstate := congrArg DeviceStartup.state (Prod.mk.inj heq).1
    rw [hchecking] at hstate
    cases hstate
  | taken hactive htoken hchecking hjudge =>
    exact ⟨fun heq => absurd (Prod.mk.inj heq).2 (by decide),
      fun h => absurd ⟨hchecking, hactive, htoken⟩ h⟩

end DeviceStartup

/-! ## 3. Tokens are numbers -/

namespace EpisodeRun

variable {ids : MobileIds} {r : EpisodeRun}

/-- The invariant: the token is the number of operations issued in this episode, and the one that
is out was the last. -/
structure Numbered (r : EpisodeRun) : Prop where
  token : r.machine.token.toNat = issuedIn r.episode r.issued
  past : ∀ p ∈ r.issued, p.1 ≤ r.episode
  pending : r.machine.active = true → r.machine.pending.token = r.machine.token ∧
    (r.episode, r.machine.token) ∈ r.issued

theorem numbered_init : Numbered init := ⟨rfl, nofun, nofun⟩

/-- What leaves the token and the operation out alone keeps the numbers. -/
theorem Numbered.same {s : DeviceStartup} (h : Numbered r) (hsame : r.machine.SameToken s) :
    Numbered ⟨s, r.episode, r.issued⟩ where
  token := by
    rw [hsame.token]
    exact h.token
  past := h.past
  pending hactive := by
    rw [hsame.token, hsame.pending]
    exact h.pending (hsame.active hactive)

/-- A new episode has issued nothing yet. -/
theorem Numbered.begins (h : Numbered r) (p : DeviceProfile) (now : Tick) (change : Bool) :
    Numbered ⟨.started p now change, r.episode + 1, r.issued⟩ where
  token := by
    refine (List.countP_eq_zero.mpr fun q hq => ?_).symm
    have hle := h.past q hq
    simp only [decide_eq_true_eq]
    omega
  past q hq := Nat.le_succ_of_le (h.past q hq)
  pending := nofun

/-- An operation takes the next number. -/
theorem Numbered.issues (h : Numbered r) (hbelow : r.machine.token ≠ 0xFFFFFFFF) :
    Numbered ⟨r.machine.issue ids, r.episode,
      (r.episode, (r.machine.issue ids).pending.token) :: r.issued⟩ := by
  have htoken : (r.machine.issue ids).pending.token = r.machine.token + 1 := by
    unfold DeviceStartup.issue
    cases r.machine.phase <;> rfl
  have hnext : (r.machine.token + 1).toNat = r.machine.token.toNat + 1 := by
    bv_omega
  refine ⟨?_, ?_, fun _ => ⟨htoken, ?_⟩⟩
  · rw [issuedIn, List.countP_cons_of_pos (by simp)]
    exact hnext.trans (congrArg (· + 1) h.token)
  · exact List.forall_mem_cons.mpr ⟨Nat.le_refl _, h.past⟩
  · rw [htoken]
    exact List.mem_cons_self

theorem Numbered.step (h : Numbered r) (call : EpisodeCall) : Numbered (r.step ids call) := by
  cases call with
  | begin p now change secured =>
    simp only [EpisodeRun.step, DeviceStartup.begin]
    by_cases hrefuses : r.machine.refusesBegin p change secured = true
    · rw [if_pos hrefuses]
      exact h
    · rw [if_neg hrefuses]
      exact h.begins p now change
  | poll now => exact h.same (r.machine.sameToken_poll now)
  | next now =>
    rcases @DeviceStartup.next_cases ids r.machine now with ⟨hbelow, heq⟩ | ⟨hnone, hsame⟩
    · simp only [EpisodeRun.step, heq]
      exact h.issues hbelow
    · obtain ⟨s, operation, heq⟩ : ∃ s operation, r.machine.next ids now = (s, operation) :=
        ⟨_, _, rfl⟩
      rw [heq] at hnone hsame
      dsimp only at hnone
      subst hnone
      simp only [EpisodeRun.step, heq]
      exact h.same hsame
  | reply episode token data length ok now =>
    exact h.same (r.machine.sameToken_reply token data length ok now)

/-- Numbers tell the waiting script's token from the others. -/
theorem Numbered.confusable_iff (h : Numbered r) {episode : ℕ} {token : BitVec 32}
    {data : Option (List Byte)} {length : Nat} {ok : Bool} {now : Tick} :
    r.Confusable (.reply episode token data length ok now) ↔
      r.Late episode token ∧ r.machine.state = .checking ∧ r.machine.active = true ∧
        token = r.machine.pending.token := by
  refine and_congr_right fun _ => and_congr_right fun _ => and_congr_right fun hactive => ?_
  rw [(h.pending hactive).1, ← h.token, BitVec.toNat_inj]

/-- **When a reply is handled as it should be.** -/
theorem Numbered.faithful_iff (h : Numbered r) (call : EpisodeCall) :
    r.Faithful ids call ↔ ¬ r.Confusable call := by
  cases call with
  | reply episode token data length ok now =>
    rw [h.confusable_iff, Faithful, DeviceStartup.reply_refused_iff]
    constructor
    · rintro ⟨-, hlate⟩ ⟨hlate', hwaits⟩
      exact hlate hlate' hwaits
    · intro hclear
      refine ⟨fun haccepted => ?_, fun hlate hwaits => hclear ⟨hlate, hwaits⟩⟩
      obtain ⟨hactive, rfl⟩ := DeviceStartup.reply_accepted haccepted
      obtain ⟨htoken, hissued⟩ := h.pending hactive
      rw [htoken]
      exact hissued
  | _ => exact ⟨fun _ => id, fun _ => trivial⟩

/-- **Replies and episodes.**  In every run of the machine, every reply is accepted only for a token
of its episode and every late one leaves no trace, exactly if no late reply bears the number of the
operation that the script is waiting for. -/
theorem faithful_along_iff (ids : MobileIds) (calls : List EpisodeCall) :
    Along (step ids) (Faithful ids) init calls ↔
      Along (step ids) (fun r call => ¬ r.Confusable call) init calls :=
  along_congr_of (fun _ call h => Numbered.step h call) (fun _ call h => h.faithful_iff call) calls
    numbered_init

/-! ## 4. A reply from before -/

/-- The script times out with its first operation out and begins again. -/
def restarted : List EpisodeCall :=
  [.begin benchProfile 0 false false, .next 0, .poll 1000, .begin benchProfile 1000 false false,
    .next 1000]

/-- The first operation's reply, which comes in now. -/
def lateReply : EpisodeCall := .reply 1 1 (some [9, 3, 8, 0]) 4 true 1000

/-- The reply to the operation of the first episode is taken for one of the second. -/
theorem late_reply_accepted : ¬ ∀ (ids : MobileIds) (calls : List EpisodeCall),
    Along (step ids) (Faithful ids) init calls := by
  intro h
  have hrun := (along_append init restarted [lateReply]).mp (h .reference (restarted ++ [lateReply]))
  have hrefused := congrArg Prod.snd (hrun.2.1.2 (by decide +kernel))
  revert hrefused
  decide +kernel

end EpisodeRun

end MobileBimanual.Mobile
