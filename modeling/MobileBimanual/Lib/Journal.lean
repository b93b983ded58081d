/-
# Calls answered by an oracle

An oracle answers every call, as it likes, knowing all that was asked and answered before; the
journal keeps both, the last call first.  A run consults one oracle after another, so nothing is
assumed of who answers.

* `Triple.consulted`: what a triple over the journal says, a consultation does;
* `consult_invariant`: what every operation keeps, however it ends, holds in every run.
-/
import MobileBimanual.Lib.Machine
import MobileBimanual.Lib.Program

structure Entry (Call : Type) (Reply : Call → Type) where
  call : Call
  reply : Reply call

/-- The last entry first. -/
abbrev Journal (Call : Type) (Reply : Call → Type) := List (Entry Call Reply)

abbrev Oracle (Call : Type) (Reply : Call → Type) :=
  (c : Call) → Journal Call Reply → Reply c

namespace Oracle

open Program Activity Machine

variable {Call : Type} {Reply : Call → Type} {ε σ α Op : Type}

def serve (oracle : Oracle Call Reply) (c : Call) (journal : Journal Call Reply) :
    Reply c × Journal Call Reply :=
  (oracle c journal, ⟨c, oracle c journal⟩ :: journal)

/-- Any call, any reply; both are kept. -/
def conduct (Call : Type) (Reply : Call → Type) : Conduct Call Reply (Journal Call Reply) where
  interferes journal journal' := journal' = journal
  permits _ _ := True
  answers c journal reply journal' := journal' = ⟨c, reply⟩ :: journal

variable (oracle : Oracle Call Reply)

theorem holds_exec {post : α → Journal Call Reply → Prop} :
    ∀ {p : Program Call Reply α} {journal : Journal Call Reply},
      p.Holds (conduct Call Reply) post journal →
        post (p.exec oracle.serve journal).1 (p.exec oracle.serve journal).2 := by
  intro p
  induction p with
  | done value => exact fun h => h
  | call c resume ih =>
    intro journal h
    exact ih (oracle c journal) ((h journal rfl).2 (oracle c journal) _ rfl)

theorem exec_journal {calls : Call → Prop} {ends : α → Prop} :
    ∀ {p : Program Call Reply α}, p.Within calls ends → ∀ journal : Journal Call Reply,
      ∃ added, (p.exec oracle.serve journal).2 = added ++ journal ∧
        ∀ entry ∈ added, calls entry.call := by
  intro p
  induction p with
  | done value => exact fun _ journal => ⟨[], rfl, nofun⟩
  | call c resume ih =>
    rintro ⟨hc, hresume⟩ journal
    obtain ⟨added, heq, hadded⟩ := ih _ (hresume _) (⟨c, oracle c journal⟩ :: journal)
    refine ⟨added ++ [⟨c, oracle c journal⟩], ?_, fun entry hmem => ?_⟩
    · rw [List.append_assoc]
      exact heq
    · rcases List.mem_append.mp hmem with hmem | hmem
      · exact hadded entry hmem
      · rw [List.mem_singleton.mp hmem]
        exact hc

variable {pre : σ → Journal Call Reply → Prop} {c : Call}

theorem triple_ask {post : Reply c → σ → Journal Call Reply → Prop}
    {raised : ε → σ → Journal Call Reply → Prop}
    (h : ∀ s journal reply, pre s journal → post reply s (⟨c, reply⟩ :: journal)) :
    Triple (conduct Call Reply) pre (Activity.ask c) post raised := by
  rintro s journal hpre journal' rfl
  refine ⟨trivial, ?_⟩
  rintro reply - rfl
  exact h s journal' reply hpre

/-- A call whose reply is a value or an exception. -/
def invoke {Result : Call → Type} (c : Call) :
    Activity Call (fun c => Except ε (Result c)) ε σ (Result c) := do
  expect (← Activity.ask c)

variable {Result : Call → Type}

theorem triple_invoke {pre : σ → Journal Call (fun c => Except ε (Result c)) → Prop}
    {post : Result c → σ → Journal Call (fun c => Except ε (Result c)) → Prop}
    {raised : ε → σ → Journal Call (fun c => Except ε (Result c)) → Prop}
    (hok : ∀ s journal value, pre s journal → post value s (⟨c, .ok value⟩ :: journal))
    (herror : ∀ s journal error, pre s journal → raised error s (⟨c, .error error⟩ :: journal)) :
    Triple (conduct Call fun c => Except ε (Result c)) pre (invoke c) post raised := by
  refine Triple.bind (M := fun reply s journal =>
    ∃ before, journal = ⟨c, reply⟩ :: before ∧ pre s before)
    (triple_ask fun s journal reply hpre => ⟨journal, rfl, hpre⟩) fun reply => ?_
  refine triple_expect ?_ ?_
  · rintro value rfl s journal ⟨before, rfl, hpre⟩
    exact hok s before value hpre
  · rintro error rfl s journal ⟨before, rfl, hpre⟩
    exact herror s before error hpre

variable {F : Frame Call σ}

theorem keeps_invoke (hc : ∀ s, F.calls s c) :
    (invoke c : Activity Call (fun c => Except ε (Result c)) ε σ (Result c)).Keeps F :=
  (keeps_ask hc).bind fun _ => keeps_expect _

variable {x : Activity Call Reply ε σ α}

/-- What the changes of a frame preserve, an action in the frame preserves. -/
theorem triple_kept {I : σ → Prop} (h : x.Keeps F) (hI : ∀ s t, F.changes s t → I s → I t) :
    Triple (conduct Call Reply) (fun s _ => I s) x (fun _ s _ => I s) fun _ s _ => I s := by
  intro s journal hs
  have hall := (h s).holds (C := conduct Call Reply) (I := fun _ => True) (w := journal)
    (fun _ _ => trivial) (fun _ _ => ⟨trivial, fun _ _ _ => trivial⟩) trivial
  refine hall.mono ?_
  rintro ⟨error | value, t⟩ _ ⟨hchanges, -⟩
  · exact hI s t hchanges hs
  · exact hI s t hchanges hs

variable {s : σ}

theorem perform_invoke_ok {value : Result c} {oracle : Oracle Call fun c => Except ε (Result c)}
    {journal : Journal Call fun c => Except ε (Result c)} (h : oracle c journal = .ok value) :
    (invoke c).perform oracle.serve s journal = ((.ok value, s), ⟨c, .ok value⟩ :: journal) := by
  rw [← h, perform, invoke, program_bind, program_ask, call_bind, exec]
  simp only [done_bind, goOn_ok, program_expect]
  rfl

theorem perform_invoke_error {error : ε} {oracle : Oracle Call fun c => Except ε (Result c)}
    {journal : Journal Call fun c => Except ε (Result c)} (h : oracle c journal = .error error) :
    (invoke c).perform oracle.serve s journal = ((.error error, s), ⟨c, .error error⟩ :: journal) := by
  rw [← h, perform, invoke, program_bind, program_ask, call_bind, exec]
  simp only [done_bind, goOn_ok, program_expect]
  rfl

/-- An operation carried out, with its journal. -/
def consult (action : Op → Activity Call Reply ε σ α) (w : σ × Journal Call Reply)
    (e : Op × Oracle Call Reply) : σ × Journal Call Reply :=
  (((action e.1).perform e.2.serve w.1 w.2).1.2, ((action e.1).perform e.2.serve w.1 w.2).2)

theorem Keeps.consulted {A : Op → Activity Call Reply ε σ α} {op : Op} (h : (A op).Keeps F)
    (w : σ × Journal Call Reply) (oracle : Oracle Call Reply) :
    F.changes w.1 (consult A w (op, oracle)).1 ∧
      ∃ added, (consult A w (op, oracle)).2 = added ++ w.2 ∧
        ∀ entry ∈ added, F.calls w.1 entry.call :=
  ⟨(h w.1).exec oracle.serve w.2, exec_journal oracle (h w.1) w.2⟩

variable {post : σ → Journal Call Reply → Prop} {journal : Journal Call Reply}

theorem Triple.consulted (h : Triple (conduct Call Reply) pre x (fun _ => post) fun _ => post)
    (oracle : Oracle Call Reply) (hpre : pre s journal) :
    post (x.perform oracle.serve s journal).1.2 (x.perform oracle.serve s journal).2 := by
  have hend := holds_exec oracle (h s journal hpre)
  unfold perform
  revert hend
  generalize (x.program s).exec oracle.serve journal = result
  obtain ⟨⟨error | value, s'⟩, journal'⟩ := result
  · exact id
  · exact id

/-! ## One oracle -/

def heeds (oracle : Oracle Call Reply) : Conduct Call Reply (Journal Call Reply) where
  interferes journal journal' := journal' = journal
  permits _ _ := True
  answers c journal reply journal' := reply = oracle c journal ∧ journal' = ⟨c, reply⟩ :: journal

/-- A state and a journal. -/
abbrev At (s : σ) (journal : Journal Call Reply) (t : σ) (journal' : Journal Call Reply) : Prop :=
  t = s ∧ journal' = journal

/-- A call that the oracle answers, and what comes after it. -/
theorem triple_hear_bind {β : Type} {c : Call} {oracle : Oracle Call fun c => Except ε (Result c)}
    {s : σ} {journal : Journal Call fun c => Except ε (Result c)}
    {f : Result c → Activity Call (fun c => Except ε (Result c)) ε σ β}
    {post : β → σ → Journal Call (fun c => Except ε (Result c)) → Prop}
    {raised : ε → σ → Journal Call (fun c => Except ε (Result c)) → Prop}
    (hok : ∀ value, oracle c journal = .ok value →
      Triple (heeds oracle) (At s (⟨c, .ok value⟩ :: journal)) (f value) post raised)
    (herror : ∀ error, oracle c journal = .error error →
      raised error s (⟨c, .error error⟩ :: journal)) :
    Triple (heeds oracle) (At s journal) (invoke c >>= f) post raised := by
  refine Triple.bind (M := fun value t journal' => oracle c journal = .ok value ∧
    At s (⟨c, .ok value⟩ :: journal) t journal') ?_ fun value t journal' ⟨hvalue, hat⟩ =>
      hok value hvalue t journal' hat
  rintro t journal' ⟨rfl, rfl⟩ _ rfl
  refine ⟨trivial, ?_⟩
  rintro reply _ ⟨hreply, rfl⟩
  cases reply with
  | ok value => exact ⟨hreply.symm, rfl, rfl⟩
  | error error => exact herror error hreply.symm

theorem Triple.heard {oracle : Oracle Call Reply}
    (h : Triple (heeds oracle) pre x (fun _ => post) fun _ => post) (hpre : pre s journal) :
    post (x.perform oracle.serve s journal).1.2 (x.perform oracle.serve s journal).2 := by
  have hexec : ∀ {α : Type} {ends : α → Journal Call Reply → Prop} {p : Program Call Reply α}
      {journal : Journal Call Reply}, p.Holds (heeds oracle) ends journal →
        ends (p.exec oracle.serve journal).1 (p.exec oracle.serve journal).2 := by
    intro α ends p
    induction p with
    | done value => exact fun h => h
    | call c resume ih =>
      intro journal h
      exact ih (oracle c journal) ((h journal rfl).2 (oracle c journal) _ ⟨rfl, rfl⟩)
  have hend := hexec (h s journal hpre)
  unfold perform
  revert hend
  generalize (x.program s).exec oracle.serve journal = result
  obtain ⟨⟨error | value, s'⟩, journal'⟩ := result
  · exact id
  · exact id

/-- **What every operation keeps, however it ends, every run keeps.** -/
theorem consult_invariant {action : Op → Activity Call Reply ε σ α}
    {I : σ → Journal Call Reply → Prop}
    (h : ∀ op, Triple (conduct Call Reply) I (action op) (fun _ => I) fun _ => I)
    (l : List (Op × Oracle Call Reply)) {w : σ × Journal Call Reply} (hw : I w.1 w.2) :
    I (run (consult action) w l).1 (run (consult action) w l).2 :=
  run_invariant_all (I := fun w : σ × Journal Call Reply => I w.1 w.2)
    (fun _ e hw => Triple.consulted (h e.1) e.2 hw) l hw

end Oracle
