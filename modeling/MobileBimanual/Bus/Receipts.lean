/-
# What a receipt is worth

A router keeps one receipt, of the transmission that completed last, and its owners tell their own
transmissions from older ones by the token: what carries a token ahead of the one they noted went
out after they noted it.

That is proved here against a log of what went out and what completed.  `Evidence` says of a token
noted earlier that a transmission in flight ahead of it, and a receipt ahead of it, are in the
log since; every call of the router keeps it (`Evidence.call`), and so does anything that leaves
the transmission and the receipt alone (`Frame`).  Where a token is noted it holds of the empty
log (`Evidence.start`).
-/
import MobileBimanual.Bus.Completion

namespace MobileBimanual.Bus

open MobileBimanual.Stream (Byte Tick)

/-! ## 1. Marks -/

/-- What an observer of the bus writes down. -/
inductive BusMark where
  | handed (out : Handout)
  | completed (receipt : Receipt)

namespace Router

def mark (r : Router) (c : Call) : Option BusMark :=
  match r.handout c with
  | some out => some (.handed out)
  | none => if r.completes c then some (.completed (r.call c).completed) else none

/-- The transmission that is on the bus. -/
def flight (r : Router) : Handout := ⟨r.bus.owner, r.bus.token, r.activeBytes⟩

/-- The transmission a receipt acknowledges. -/
def acknowledged (receipt : Receipt) : Handout := ⟨receipt.kind, receipt.token, receipt.bytes⟩

/-- The bus is at least as far as its receipt. -/
def Behind (r : Router) : Prop := r.completed.token ≤ r.bus.token

/-- The transmission and the receipt are left alone. -/
structure Frame (r s : Router) : Prop where
  active : s.bus.active = r.bus.active
  flight : s.flight = r.flight
  completed : s.completed = r.completed

variable {r s t : Router}

theorem Frame.refl (r : Router) : Frame r r := ⟨rfl, rfl, rfl⟩

theorem Frame.trans (h : Frame r s) (h' : Frame s t) : Frame r t :=
  ⟨h'.active.trans h.active, h'.flight.trans h.flight, h'.completed.trans h.completed⟩

theorem Frame.of_same (h : SameTransaction r s) (hbytes : s.activeBytes = r.activeBytes) :
    Frame r s :=
  ⟨h.active, by simp [Router.flight, h.owner, h.token, hbytes], h.completed⟩

theorem Frame.token (h : Frame r s) : s.bus.token = r.bus.token := congrArg Handout.token h.flight

theorem Frame.behind (h : Frame r s) (hr : Behind r) : Behind s := by
  rw [Behind, h.completed, h.token]
  exact hr

/-! ## 2. What the calls do to the transmission -/

/-- A turn of the scan without a find does not touch the bytes on the bus. -/
theorem visit_activeBytes {now available : Tick} {kind : Work}
    (hnone : (visit now available r kind).2 = none) :
    (visit now available r kind).1.activeBytes = r.activeBytes := by
  rcases visit_cases now available r kind with
    ⟨-, heq⟩ | ⟨-, -, heq⟩ | ⟨-, -, heq⟩ | ⟨-, -, heq⟩ | ⟨-, -, heq⟩
  · rw [heq]
  · rw [heq]
    rfl
  · rw [heq]
    rfl
  · rw [heq]
  · rw [heq] at hnone
    cases hnone

/-- Only a hand-out changes the bytes on the bus. -/
theorem call_activeBytes {c : Call} (hnone : r.handout c = none) :
    (r.call c).activeBytes = r.activeBytes := by
  cases c with
  | submit kind bytes now deadline budget =>
    rcases r.submit_cases kind bytes now deadline budget with
      ⟨-, -, heq⟩ | ⟨-, -, heq⟩ | ⟨-, -, heq⟩ | ⟨work, -, -, -, -, -, -, heq⟩ <;>
      exact (congrArg Router.activeBytes heq).trans rfl
  | next now available =>
    rcases next_rule (r := r)
      (P := fun s => s.activeBytes = r.activeBytes) rfl
        (fun s kind hs hquiet => (visit_activeBytes hquiet).trans hs) with
      ⟨-, hkept⟩ | ⟨s, kind, -, -, -, heq⟩
    · exact hkept
    · rw [handout, heq] at hnone
      cases hnone
  | complete token now ok =>
    rcases r.complete_cases token now ok with heq | ⟨-, -, -, -, heq⟩ | ⟨-, -, -, -, heq⟩ <;>
      exact (congrArg (fun answer => answer.1.activeBytes) heq).trans rfl
  | poll now => rfl
  | resume confirmed =>
    rcases r.resume_cases confirmed with heq | ⟨-, -, -, -, heq⟩ <;> rw [Router.call, heq]
  | recover idle =>
    rcases r.recover_cases idle with heq | ⟨-, heq⟩ <;> rw [Router.call, heq]

/-- What is handed out is on the bus. -/
theorem handout_flight {c : Call} {out : Handout} (h : r.handout c = some out) :
    (r.call c).flight = out := by
  cases c with
  | next now available =>
    rcases next_rule (r := r) (P := fun _ => True) trivial
      (fun _ _ _ _ => trivial) with ⟨hnone, -⟩ | ⟨s, kind, -, -, -, heq⟩
    · rw [handout, hnone] at h
      cases h
    · rw [handout, heq] at h
      cases h
      rw [Router.call, heq]
      rfl
  | _ => cases h

/-- What is completed is what was on the bus. -/
theorem completes_acknowledged {c : Call} (h : r.completes c = true) :
    acknowledged (r.call c).completed = r.flight := by
  cases c with
  | complete token now ok =>
    rcases r.complete_cases token now ok with heq | ⟨-, -, -, -, heq⟩ | ⟨-, htoken, -, -, heq⟩
    · rw [completes, heq] at h
      cases h
    · rw [completes, heq] at h
      cases h
    · subst htoken
      rw [Router.call, heq]
      rfl
  | _ => cases h

/-- A submission leaves the transmission alone. -/
theorem submitWork_frame (r : Router) (kind : Work) (bytes : List Byte)
    (now deadline budget : Tick) :
    Frame r (r.submitWork kind bytes now deadline budget).1 := by
  have hpoll : Frame r (r.poll now) := .of_same (SameTransaction.poll r now) rfl
  rcases r.submitWork_cases kind bytes now deadline budget with
    ⟨-, heq⟩ | ⟨-, heq⟩ | ⟨-, rfl, -, heq⟩ | ⟨-, -, -, -, -, heq⟩ <;> rw [heq]
  · exact .refl r
  · exact hpoll
  · exact hpoll.trans ⟨rfl, rfl, rfl⟩
  · exact hpoll.trans ⟨rfl, rfl, rfl⟩

theorem behind_init : Behind init := BitVec.le_refl _

theorem Behind.call (h : Behind r) (c : Call) : Behind (r.call c) := by
  cases r.call_effect c with
  | quiet nothing done held same fault =>
    rw [Behind, same.completed, same.token]
    exact h
  | handsOut out found done held idle left token current active receipt =>
    rw [Behind, receipt, current]
    exact BitVec.le_of_lt (Booked.token_lt h (Booked.lt_succ_of_left left))
  | completes now call done active intime token free =>
    have hsame : (r.call c).completed.token = r.bus.token :=
      congrArg Handout.token (completes_acknowledged done)
    rw [Behind, hsame, token]
    exact BitVec.le_refl _
  | recovers call held faulted token free receipt =>
    rw [Behind, receipt, token]
    exact h

/-! ## 3. Evidence -/

/-- Since `after` was noted: what is in flight ahead of it went out, and the receipt ahead of it is
of a transmission that went out and then completed.  `write` puts marks into the log. -/
structure Evidence {α : Type*} (write : BusMark → α) (r : Router) (after : Tick) (log : List α) :
    Prop where
  out : r.bus.active = true → after < r.bus.token → write (.handed r.flight) ∈ log
  done : after < r.completed.token →
    List.Sublist [write (.handed (acknowledged r.completed)), write (.completed r.completed)] log

namespace Evidence

variable {α : Type*} {write : BusMark → α} {after : Tick} {log : List α}

/-- Nothing is ahead of the token of the bus. -/
theorem start (h : Behind r) : Evidence write r r.bus.token log := by
  refine ⟨fun _ hlt => absurd hlt (BitVec.lt_irrefl _), fun hlt => ?_⟩
  exact absurd h (BitVec.not_le.mpr hlt)

theorem append (h : Evidence write r after log) (more : List α) :
    Evidence write r after (log ++ more) :=
  ⟨fun hactive hlt => List.mem_append_left more (h.out hactive hlt),
    fun hlt => (h.done hlt).trans (List.sublist_append_left log more)⟩

theorem frame (h : Evidence write r after log) (hframe : Frame r s) :
    Evidence write s after log := by
  refine ⟨?_, ?_⟩
  · rw [hframe.active, hframe.token, hframe.flight]
    exact h.out
  · rw [hframe.completed]
    exact h.done

/-- **Every call keeps the evidence**, its mark being written down. -/
theorem call (h : Evidence write r after log) (c : Call) :
    Evidence write (r.call c) after (log ++ ((r.mark c).map write).toList) := by
  cases r.call_effect c with
  | quiet nothing done held same fault =>
    have hframe : Frame r (r.call c) := .of_same same (call_activeBytes nothing)
    exact (h.frame hframe).append _
  | handsOut out found done held idle left token current active receipt =>
    have hmark : r.mark c = some (.handed out) := by rw [mark, found]
    rw [hmark, Option.map_some, Option.toList_some]
    refine ⟨?_, ?_⟩
    · intro _ _
      rw [handout_flight found]
      exact List.mem_append_right log List.mem_cons_self
    · rw [receipt]
      exact fun hlt => (h.done hlt).trans (List.sublist_append_left log _)
  | completes now call done active intime token free =>
    have hnone : r.handout c = none := by rw [call]; rfl
    have hmark : r.mark c = some (.completed (r.call c).completed) := by
      rw [mark, hnone]
      exact if_pos done
    have hflight := completes_acknowledged done
    rw [hmark, Option.map_some, Option.toList_some]
    refine ⟨fun hactive => ?_, fun hlt => ?_⟩
    · rw [free] at hactive
      cases hactive
    · rw [hflight]
      have hahead : after < r.bus.token := by
        have hsame : (r.call c).completed.token = r.bus.token := congrArg Handout.token hflight
        rwa [hsame] at hlt
      exact (List.singleton_sublist.mpr (h.out active hahead)).append (List.Sublist.refl _)
  | recovers call held faulted token free receipt =>
    refine ⟨fun hactive => ?_, ?_⟩
    · rw [free] at hactive
      cases hactive
    · rw [receipt]
      exact fun hlt => (h.done hlt).trans (List.sublist_append_left log _)

end Evidence

end Router

end MobileBimanual.Bus
