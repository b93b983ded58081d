/-
# Spells of a sampled signal

Samples, the newest first.  A spell is a stretch of good samples each of which goes on from the one
before it; a dwell timer that is set at the first of them and cleared by whatever ends the stretch
tells how long the newest spell has lasted.

* `Spelling` is what such a timer knows; `good` and `linked` are what follows from its time alone,
  where the times increase.
* `Epochs` numbers the samples and takes a new number where one does not go on calmly; two samples
  of one number have only calm ones in between.
-/
import Mathlib.Data.List.Basic
import Mathlib.Order.Lattice

namespace Spells

variable {α T : Type*} [LinearOrder T] {time : α → T} {good : α → Prop} {link calm : α → α → Prop}
  {first a b : α} {log l : List α}

/-! ## 1. A spell -/

/-- The samples since the first one are good, and each goes on from the one before it. -/
inductive Spell (good : α → Prop) (link : α → α → Prop) (first : α) : List α → Prop
  | start (h : good first) : Spell good link first [first]
  | more {a b : α} {l : List α} (h : Spell good link first (a :: l)) (hgood : good b)
    (hlink : link a b) : Spell good link first (b :: a :: l)

/-- The newest samples are a spell since the first one. -/
def Spelling (good : α → Prop) (link : α → α → Prop) (first : α) (log : List α) : Prop :=
  ∃ recent older, log = recent ++ older ∧ Spell good link first recent

theorem Spell.mem (h : Spell good link first log) : first ∈ log := by
  induction h with
  | start h => exact List.mem_singleton_self _
  | more h hgood hlink ih => exact List.mem_cons_of_mem _ ih

theorem Spelling.mem (h : Spelling good link first log) : first ∈ log := by
  obtain ⟨recent, older, rfl, hspell⟩ := h
  exact List.mem_append_left older hspell.mem

theorem Spelling.start (h : good a) : Spelling good link a (a :: l) :=
  ⟨[a], l, rfl, .start h⟩

/-- The next sample goes on with it. -/
theorem Spelling.more (h : Spelling good link first (a :: l)) (hgood : good b) (hlink : link a b) :
    Spelling good link first (b :: a :: l) := by
  obtain ⟨recent, older, heq, hspell⟩ := h
  cases hspell with
  | start hfirst =>
    obtain ⟨rfl, rfl⟩ := List.cons.inj heq
    exact ⟨[b, a], l, rfl, .more (.start hfirst) hgood hlink⟩
  | more hspell hnewest hnewer =>
    obtain ⟨rfl, rfl⟩ := List.cons.inj heq
    exact ⟨_, older, rfl, .more (.more hspell hnewest hnewer) hgood hlink⟩

/-! ## 2. What its time tells -/

/-- The times decrease from the newest sample on. -/
abbrev Ordered (time : α → T) (log : List α) : Prop :=
  log.Pairwise fun newer older => time older < time newer

variable {older newer : List α}

/-- What is not newer than a sample comes with it or after it. -/
theorem Ordered.mem_of_le (hordered : Ordered time (newer ++ b :: older))
    (ha : a ∈ newer ++ b :: older) (hle : time a ≤ time b) : a ∈ b :: older := by
  rcases List.mem_append.mp ha with ha | ha
  · have hlt := (List.pairwise_append.mp hordered).2.2 a ha b List.mem_cons_self
    exact absurd hle (not_le.mpr hlt)
  · exact ha

/-- What is not older than a sample comes before it or with it. -/
theorem Ordered.mem_of_ge (hordered : Ordered time (newer ++ b :: older))
    (ha : a ∈ newer ++ b :: older) (hle : time b ≤ time a) : a ∈ newer ++ [b] := by
  rcases List.mem_append.mp ha with ha | ha
  · exact List.mem_append_left _ ha
  · rcases List.mem_cons.mp ha with rfl | ha
    · simp
    · have hnext := (List.pairwise_append.mp hordered).2.1
      have hlt := (List.pairwise_cons.mp hnext).1 a ha
      exact absurd hle (not_le.mpr hlt)

/-- A sample that is not newer than another is found in what is left from the other on. -/
theorem Ordered.rest_of_le {newer' rest : List α} (hordered : Ordered time (newer ++ a :: older))
    (heq : newer ++ a :: older = newer' ++ b :: rest) (hle : time b ≤ time a) :
    ∃ between, a :: older = between ++ b :: rest := by
  induction newer generalizing newer' with
  | nil => exact ⟨newer', heq⟩
  | cons c newer ih =>
    obtain ⟨hnewest, hrest⟩ := List.pairwise_cons.mp hordered
    cases newer' with
    | nil =>
      obtain ⟨rfl, -⟩ := List.cons.inj heq
      exact absurd hle (not_le.mpr (hnewest a (by simp)))
    | cons c' newer' => exact ih hrest (List.cons.inj heq).2

theorem Spell.good_of_mem (h : Spell good link first log) : ∀ a ∈ log, good a := by
  induction h with
  | start h =>
    intro a ha
    rw [List.mem_singleton.mp ha]
    exact h
  | more h hgood hlink ih => exact List.forall_mem_cons.mpr ⟨hgood, ih⟩

/-- Each sample of a spell goes on from the one before it. -/
theorem Spell.isChain (h : Spell good link first log) :
    log.IsChain fun later a => link a later := by
  induction h with
  | start h => exact .singleton _
  | more h hgood hlink ih => exact List.isChain_cons_cons.mpr ⟨hlink, ih⟩

/-- Only the spell is as new as its first sample. -/
theorem older_lt {recent : List α} (hordered : Ordered time (recent ++ older))
    (h : Spell good link first recent) : ∀ a ∈ older, time a < time first :=
  fun a ha => (List.pairwise_append.mp hordered).2.2 first h.mem a ha

/-- **Every sample since the first is good.** -/
theorem Spelling.forall_good (h : Spelling good link first log) (hordered : Ordered time log) :
    ∀ a ∈ log, time first ≤ time a → good a := by
  obtain ⟨recent, older, rfl, hspell⟩ := h
  intro a ha hsince
  rcases List.mem_append.mp ha with ha | ha
  · exact hspell.good_of_mem a ha
  · exact absurd hsince (not_le.mpr (older_lt hordered hspell a ha))

/-- Two samples, one after the other, are linked if the older one is not before the spell. -/
theorem Spell.linked {recent past : List α} (h : Spell good link first recent) :
    ∀ newer older : List α, ∀ a b, recent ++ past = newer ++ b :: a :: older → a ∉ past →
      link a b := by
  induction h with
  | start h =>
    intro newer older a b heq ha
    refine absurd ?_ ha
    cases newer with
    | nil =>
      have hpast : past = a :: older := (List.cons.inj heq).2
      rw [hpast]
      exact List.mem_cons_self
    | cons c newer =>
      have hpast : past = newer ++ b :: a :: older := (List.cons.inj heq).2
      rw [hpast]
      simp
  | more h hgood hlink ih =>
    intro newer older a b heq ha
    cases newer with
    | nil =>
      obtain ⟨rfl, hrest⟩ := List.cons.inj heq
      obtain ⟨rfl, -⟩ := List.cons.inj hrest
      exact hlink
    | cons c newer => exact ih newer older a b (List.cons.inj heq).2 ha

/-- **Every two samples since the first, one after the other, are linked.** -/
theorem Spelling.forall_linked (h : Spelling good link first log) (hordered : Ordered time log) :
    ∀ newer older : List α, ∀ a b, log = newer ++ b :: a :: older → time first ≤ time a →
      link a b := by
  obtain ⟨recent, past, rfl, hspell⟩ := h
  intro newer older a b heq hsince
  exact hspell.linked newer older a b heq
    fun ha => absurd hsince (not_le.mpr (older_lt hordered hspell a ha))

/-! ## 3. Epochs -/

/-- Numbered samples, the newest first: the number goes up where one does not follow calmly. -/
inductive Epochs (calm : α → α → Prop) : List (ℕ × α) → Prop
  | none : Epochs calm []
  | first (n : ℕ) (a : α) : Epochs calm [(n, a)]
  | same {n : ℕ} {a b : α} {l : List (ℕ × α)} (h : Epochs calm ((n, a) :: l)) (hcalm : calm a b) :
    Epochs calm ((n, b) :: (n, a) :: l)
  | next {n : ℕ} {a b : α} {l : List (ℕ × α)} (h : Epochs calm ((n, a) :: l)) :
    Epochs calm ((n + 1, b) :: (n, a) :: l)

variable {p : ℕ × α}

theorem Epochs.tail {l : List (ℕ × α)} (h : Epochs calm (p :: l)) : Epochs calm l := by
  cases h with
  | first n a => exact .none
  | same h hcalm => exact h
  | next h => exact h

/-- No older sample has a higher number. -/
theorem Epochs.le_head {l : List (ℕ × α)} (h : Epochs calm (p :: l)) : ∀ q ∈ l, q.1 ≤ p.1 := by
  induction l generalizing p with
  | nil => exact nofun
  | cons r l ih =>
    have hle : r.1 ≤ p.1 := by
      cases h with
      | same h hcalm => exact Nat.le_refl _
      | next h => exact Nat.le_succ _
    intro q hq
    rcases List.mem_cons.mp hq with rfl | hq
    · exact hle
    · exact Nat.le_trans (ih h.tail q hq) hle

theorem Epochs.suffix {newer l : List (ℕ × α)} (h : Epochs calm (newer ++ l)) : Epochs calm l := by
  induction newer with
  | nil => exact h
  | cons p newer ih => exact ih h.tail

/-- **Between two samples of one number every sample is calm.** -/
theorem Epochs.calm_between {newer older : List (ℕ × α)} {q : ℕ × α}
    (h : Epochs calm (newer ++ q :: p :: older)) {n : ℕ} (hnewer : ∃ r ∈ newer ++ [q], r.1 = n)
    (holder : ∃ r ∈ p :: older, r.1 = n) : calm p.2 q.2 := by
  have hpair : Epochs calm (q :: p :: older) := h.suffix
  have hn : n ≤ p.1 := by
    obtain ⟨r, hr, rfl⟩ := holder
    rcases List.mem_cons.mp hr with rfl | hr
    · exact Nat.le_refl _
    · exact hpair.tail.le_head r hr
  have hq : q.1 ≤ n := by
    obtain ⟨r, hr, rfl⟩ := hnewer
    rcases List.mem_append.mp hr with hr | hr
    · obtain ⟨front, back, rfl⟩ := List.append_of_mem hr
      rw [List.append_assoc] at h
      have hback : Epochs calm (r :: back ++ q :: p :: older) := h.suffix
      exact hback.le_head q (by simp)
    · obtain rfl := List.mem_singleton.mp hr
      exact Nat.le_refl _
  cases hpair with
  | same h hcalm => exact hcalm
  | next h =>
    dsimp only at hn hq
    omega

end Spells
