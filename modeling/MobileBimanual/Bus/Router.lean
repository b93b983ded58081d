/-
# The bus router

`bus_router.c` in full.  Every class of work has one slot for a queued job; `submit` fills it,
`next` hands the first job of the scan out that the bus grants, `complete` ends the transaction.
The scan looks at the STOP slot first and then at the other four in turn, from behind the class
served last.  A job the scan finds too late is dropped, and a stop is latched for it.

A submitted STOP empties the other slots and inhibits them until `resume`.
-/
import MobileBimanual.Lib.Machine
import MobileBimanual.Lib.Search
import MobileBimanual.Bus.SharedBus

namespace MobileBimanual.Bus

open MobileBimanual.Stream (Byte Tick)
open Search

/-! ## 1. The record -/

structure Job where
  pending : Bool
  bytes : List Byte
  deadlineUs : Tick
  budgetUs : Tick

/-- The budget no longer fits before the deadline. -/
def Job.late (job : Job) (nowUs : Tick) : Bool :=
  let remaining := job.deadlineUs - nowUs
  remaining == 0 || halfCircle ≤ remaining || remaining ≤ job.budgetUs

/-- A job that is queued past its time. -/
def Job.expired (job : Job) (nowUs : Tick) : Bool := job.pending && job.late nowUs

/-- The last transmission that completed. -/
structure Receipt where
  token : Tick
  us : Tick
  kind : Work
  bytes : List Byte

structure Router where
  bus : SharedBus
  jobs : Work → Job
  activeBytes : List Byte
  expiredJobs : Tick
  inhibited : Bool
  cursor : Nat
  completed : Receipt

/-- What `next` gives to the transmitter. -/
structure Handout where
  kind : Work
  token : Tick
  bytes : List Byte

def packetMax : Nat := 32

namespace Router

def init : Router where
  bus := SharedBus.init
  jobs _ := { pending := false, bytes := [], deadlineUs := 0, budgetUs := 0 }
  activeBytes := []
  expiredJobs := 0
  inhibited := false
  cursor := 0
  completed := { token := 0, us := 0, kind := .stop, bytes := [] }

/-! ## 2. The operations -/

def poll (r : Router) (nowUs : Tick) : Router := { r with bus := r.bus.poll nowUs }

/-- The slot is emptied; what it held stays in it. -/
def drop (r : Router) (kind : Work) : Router :=
  { r with jobs := Function.update r.jobs kind { r.jobs kind with pending := false } }

/-- Every slot but STOP's is emptied. -/
def flush (r : Router) : Router :=
  { r with jobs := fun kind =>
      if kind = .stop then r.jobs kind else { r.jobs kind with pending := false } }

def requestStop (r : Router) : Router := { r with bus := r.bus.requestStop }

def inhibit (r : Router) : Router := { r with inhibited := true }

/-- The arguments `submit` takes. -/
def wellFormed (bytes : List Byte) (nowUs deadlineUs budgetUs : Tick) : Bool :=
  let remaining := deadlineUs - nowUs
  !(bytes.length == 0 || packetMax < bytes.length || budgetUs == 0 || halfCircle ≤ budgetUs ||
    remaining == 0 || halfCircle ≤ remaining || remaining ≤ budgetUs)

def fill (r : Router) (kind : Work) (bytes : List Byte) (deadlineUs budgetUs : Tick) : Router :=
  { r with jobs := Function.update r.jobs kind { pending := true, bytes, deadlineUs, budgetUs } }

def submitWork (r : Router) (kind : Work) (bytes : List Byte) (nowUs deadlineUs budgetUs : Tick) :
    Router × Bool :=
  if !wellFormed bytes nowUs deadlineUs budgetUs then (r, false)
  else
    let r := r.poll nowUs
    if r.bus.faulted || ((r.bus.stopPending || r.inhibited) && kind != .stop) then (r, false)
    else if kind = .stop then (r.inhibit.flush.requestStop.fill kind bytes deadlineUs budgetUs, true)
    else (r.fill kind bytes deadlineUs budgetUs, true)

/-- The kind arrives as a number and is checked with the other arguments. -/
def submit (r : Router) (kind : Nat) (bytes : List Byte) (nowUs deadlineUs budgetUs : Tick) :
    Router × Bool :=
  match Work.ofNat? kind with
  | none => (r, false)
  | some kind => r.submitWork kind bytes nowUs deadlineUs budgetUs

/-- The scan looks at STOP and then round the other four. -/
def scanIndex (cursor i : Nat) : Nat := if i = 0 then 0 else 1 + (cursor + i - 1) % 4

def scanOrder (cursor : Nat) : List Work :=
  (List.range 5).filterMap fun i => Work.ofNat? (scanIndex cursor i)

/-- An expired job is dropped, counted up to `UINT32_MAX`, and latches a stop. -/
def expire (r : Router) (kind : Work) : Router :=
  { r.drop kind with
    expiredJobs := if r.expiredJobs = 0xFFFFFFFF then r.expiredJobs else r.expiredJobs + 1
    inhibited := true
    bus := r.bus.requestStop }

/-- One turn of the loop in `next`. -/
def visit (nowUs availableUs : Tick) (r : Router) (kind : Work) : Router × Option Handout :=
  if !(r.jobs kind).pending || (r.inhibited && kind != .stop) then (r, none)
  else if (r.jobs kind).late nowUs then (r.expire kind, none)
  else
    match r.bus.acquire kind nowUs (r.jobs kind).budgetUs availableUs with
    | (bus, none) => ({ r with bus }, none)
    | (bus, some token) =>
      ({ r.drop kind with
          bus
          activeBytes := (r.jobs kind).bytes
          cursor := kind.toNat % 4 }, some ⟨kind, token, (r.jobs kind).bytes⟩)

def next (r : Router) (nowUs availableUs : Tick) : Router × Option Handout :=
  let r := r.poll nowUs
  if r.bus.active || r.bus.faulted then (r, none)
  else search (visit nowUs availableUs) r (scanOrder r.cursor)

def complete (r : Router) (token nowUs : Tick) (ok : Bool) : Router × Bool :=
  match r.bus.complete token nowUs ok with
  | (bus, false) => ({ r with bus }, false)
  | (bus, true) =>
    ({ r with
        bus
        completed := { token, us := nowUs, kind := bus.owner, bytes := r.activeBytes } }, true)

def resume (r : Router) (confirmed : Bool) : Router × Bool :=
  if !confirmed || r.bus.active || r.bus.faulted || r.bus.stopPending || (r.jobs .stop).pending then
    (r, false)
  else ({ r with inhibited := false }, true)

def recover (r : Router) (uartIdle : Bool) : Router × Bool :=
  match r.bus.recover uartIdle with
  | (bus, done) => ({ r with bus }, done)

/-! ## 3. The fields they leave alone -/

variable (r : Router)

variable (now : Tick)

@[simp] theorem poll_jobs : (r.poll now).jobs = r.jobs := rfl

@[simp] theorem poll_bus : (r.poll now).bus = r.bus.poll now := rfl

@[simp] theorem poll_inhibited : (r.poll now).inhibited = r.inhibited :=
  rfl

@[simp] theorem poll_cursor : (r.poll now).cursor = r.cursor := rfl

@[simp] theorem poll_completed : (r.poll now).completed = r.completed :=
  rfl

@[simp] theorem expire_completed (kind : Work) : (r.expire kind).completed = r.completed := rfl

@[simp] theorem expire_bus (kind : Work) : (r.expire kind).bus = r.bus.requestStop := rfl

variable {kind : Work}

/-- An empty slot stays empty when another is emptied. -/
theorem drop_pending {r : Router} {other : Work} :
    ((r.drop kind).jobs other).pending = true ↔ other ≠ kind ∧ (r.jobs other).pending = true := by
  by_cases h : other = kind
  · subst h
    simp [drop]
  · simp [drop, h]

theorem flush_pending {r : Router} :
    (r.flush.jobs kind).pending = true ↔ kind = .stop ∧ (r.jobs kind).pending = true := by
  by_cases h : kind = .stop
  · simp [flush, h]
  · simp [flush, h]

theorem fill_pending {r : Router} {other : Work} {bytes : List Byte} {deadline budget : Tick} :
    ((r.fill kind bytes deadline budget).jobs other).pending = true ↔
      other = kind ∨ (r.jobs other).pending = true := by
  by_cases h : other = kind
  · subst h
    simp [fill]
  · simp [fill, h]

/-! ## 4. What they do -/

/-- **Submitting**: refused for the arguments without a look at the router, refused, or queued. -/
theorem submitWork_cases (kind : Work) (bytes : List Byte) (now deadline budget : Tick) :
    (wellFormed bytes now deadline budget = false ∧
      r.submitWork kind bytes now deadline budget = (r, false)) ∨
    (wellFormed bytes now deadline budget = true ∧
      r.submitWork kind bytes now deadline budget = (r.poll now, false)) ∨
    (wellFormed bytes now deadline budget = true ∧ kind = .stop ∧
      (r.bus.poll now).faulted = false ∧ r.submitWork kind bytes now deadline budget =
        ((r.poll now).inhibit.flush.requestStop.fill .stop bytes deadline budget, true)) ∨
    (wellFormed bytes now deadline budget = true ∧ kind ≠ .stop ∧
      (r.bus.poll now).faulted = false ∧ (r.bus.poll now).stopPending = false ∧
      r.inhibited = false ∧ r.submitWork kind bytes now deadline budget =
        ((r.poll now).fill kind bytes deadline budget, true)) := by
  unfold submitWork
  cases hw : wellFormed bytes now deadline budget
  · left
    exact ⟨rfl, rfl⟩
  right
  cases hf : (r.bus.poll now).faulted
  swap
  · left
    simp [hf]
  by_cases hk : kind = .stop
  · right; left
    subst hk
    refine ⟨rfl, rfl, rfl, ?_⟩
    simp [hf]
  cases hs : (r.bus.poll now).stopPending
  swap
  · left
    simp [hf, hs, hk]
  cases hi : r.inhibited
  swap
  · left
    simp [hf, hs, hk, hi]
  right; right
  refine ⟨rfl, hk, rfl, rfl, rfl, ?_⟩
  simp [hf, hs, hk, hi]

/-- The bus would give the job in the slot a token. -/
def offered (r : Router) (nowUs availableUs : Tick) (kind : Work) : Bool :=
  (r.jobs kind).pending && !(r.jobs kind).late nowUs &&
    (r.bus.poll nowUs).grants kind (r.jobs kind).budgetUs availableUs && r.bus.token != lastToken

/-- The job of a slot goes out. -/
def handOut (r : Router) (nowUs : Tick) (kind : Work) : Router :=
  { r.drop kind with
    bus := { r.bus.poll nowUs with
      token := r.bus.token + 1
      active := true
      owner := kind
      startedUs := nowUs
      budgetUs := (r.jobs kind).budgetUs }
    activeBytes := (r.jobs kind).bytes
    cursor := kind.toNat % 4 }

/-- **A turn of the scan**: the slot is passed over, expires, is refused by the bus, which may
run out of tokens over it, or is handed out. -/
theorem visit_cases (available : Tick) (r : Router) (kind : Work) :
    (((r.jobs kind).pending = false ∨ (r.inhibited = true ∧ kind ≠ .stop)) ∧
      visit now available r kind = (r, none)) ∨
    ((r.jobs kind).expired now = true ∧ (r.inhibited = true → kind = .stop) ∧
      visit now available r kind = (r.expire kind, none)) ∨
    ((r.jobs kind).expired now = false ∧
      (r.bus.poll now).grants kind (r.jobs kind).budgetUs available = false ∧
      visit now available r kind = (r.poll now, none)) ∨
    ((r.jobs kind).expired now = false ∧ r.bus.token = lastToken ∧
      visit now available r kind = ({ r with bus := (r.bus.poll now).faultStop }, none)) ∨
    (r.offered now available kind = true ∧ (r.inhibited = true → kind = .stop) ∧
      visit now available r kind =
        (r.handOut now kind, some ⟨kind, r.bus.token + 1, (r.jobs kind).bytes⟩)) := by
  unfold visit
  by_cases hskip : (!(r.jobs kind).pending || (r.inhibited && kind != .stop)) = true
  · left
    refine ⟨?_, if_pos hskip⟩
    simpa using hskip
  rw [if_neg hskip]
  simp only [Bool.or_eq_true, Bool.not_eq_true', not_or, Bool.not_eq_false, Bool.and_eq_true,
    bne_iff_ne, ne_eq, not_and, not_not] at hskip
  by_cases hlate : (r.jobs kind).late now = true
  · right; left
    exact ⟨by simp [Job.expired, hskip.1, hlate], hskip.2, if_pos hlate⟩
  rw [if_neg hlate]
  rw [Bool.not_eq_true] at hlate
  have hexpired : (r.jobs kind).expired now = false := by simp [Job.expired, hlate]
  rcases r.bus.acquire_cases kind now (r.jobs kind).budgetUs available with
    ⟨hno, hrefused⟩ | ⟨-, hlast, hrefused⟩ | ⟨hgrants, htoken, hgiven⟩
  · right; right; left
    rw [hrefused]
    exact ⟨hexpired, hno, rfl⟩
  · right; right; right; left
    rw [hrefused]
    exact ⟨hexpired, hlast, rfl⟩
  · right; right; right; right
    refine ⟨by simp [offered, hskip.1, hlate, hgrants, htoken], hskip.2, ?_⟩
    rw [hgiven]
    rfl

/-- **The next job**: none while the bus is taken or faulted, else what the scan finds. -/
theorem next_cases (available : Tick) :
    ((r.bus.active = true ∨ r.bus.faulted = true) ∧ r.next now available = (r.poll now, none)) ∨
    (r.bus.active = false ∧ r.bus.faulted = false ∧
      r.next now available = search (visit now available) r (scanOrder r.cursor)) := by
  unfold next
  cases ha : r.bus.active
  swap
  · left
    simp [ha]
  have hpoll : r.poll now = r := by rw [poll, SharedBus.poll_of_idle ha]
  cases hf : r.bus.faulted
  swap
  · left
    simp [hpoll, ha, hf]
  right
  simp [hpoll, ha, hf]

/-- The rule of the scan: what every turn without a find preserves holds where the job handed out
was found, or at the end. -/
theorem scan_rule {P : Router → Prop} {now available : Tick}
    (hvisit : ∀ r kind, P r → (visit now available r kind).2 = none →
      P (visit now available r kind).1) (l : List Work) {r : Router} (hr : P r) :
    ((search (visit now available) r l).2 = none ∧ P (search (visit now available) r l).1) ∨
    ∃ s kind, P s ∧ s.offered now available kind = true ∧ (s.inhibited = true → kind = .stop) ∧
      search (visit now available) r l =
        (s.handOut now kind, some ⟨kind, s.bus.token + 1, (s.jobs kind).bytes⟩) := by
  rcases search_rule hvisit l hr with hnone | ⟨s, kind, hs, -, hsome, hfound⟩
  · exact Or.inl hnone
  right
  rw [hfound]
  rcases visit_cases now available s kind with
    ⟨-, h⟩ | ⟨-, -, h⟩ | ⟨-, -, h⟩ | ⟨-, -, h⟩ | ⟨hoffered, hkind, h⟩
  · exact absurd (by rw [h]) hsome
  · exact absurd (by rw [h]) hsome
  · exact absurd (by rw [h]) hsome
  · exact absurd (by rw [h]) hsome
  · exact ⟨s, kind, hs, hoffered, hkind, h⟩

/-- The rule of `next`. -/
theorem next_rule {P : Router → Prop} {r : Router} {now available : Tick} (hpoll : P (r.poll now))
    (hvisit : ∀ r kind, P r → (visit now available r kind).2 = none →
      P (visit now available r kind).1) :
    ((r.next now available).2 = none ∧ P (r.next now available).1) ∨
    ∃ s kind, P s ∧ s.offered now available kind = true ∧ (s.inhibited = true → kind = .stop) ∧
      r.next now available =
        (s.handOut now kind, some ⟨kind, s.bus.token + 1, (s.jobs kind).bytes⟩) := by
  rcases r.next_cases now available with ⟨-, heq⟩ | ⟨hidle, -, heq⟩ <;> rw [heq]
  · exact Or.inl ⟨rfl, hpoll⟩
  · rw [poll, SharedBus.poll_of_idle hidle] at hpoll
    exact scan_rule hvisit _ hpoll

/-- **Completing**: refused, or failed, or receipted. -/
theorem complete_cases (token now : Tick) (ok : Bool) :
    r.complete token now ok = (r.poll now, false) ∨
    (r.bus.active = true ∧ token = r.bus.token ∧ (r.bus.poll now).faulted = false ∧ ok = false ∧
      r.complete token now ok = ({ r with bus := (r.bus.poll now).faultStop }, false)) ∨
    (r.bus.active = true ∧ token = r.bus.token ∧ (r.bus.poll now).faulted = false ∧ ok = true ∧
      r.complete token now ok =
        ({ r with
            bus := { r.bus.poll now with
              active := false
              stopPending := (r.bus.poll now).stopPending && r.bus.owner != .stop }
            completed :=
              { token, us := now, kind := r.bus.owner, bytes := r.activeBytes } }, true)) := by
  unfold complete
  rcases r.bus.complete_cases token now ok with
    h | ⟨ha, ht, hf, hok, h⟩ | ⟨ha, ht, hf, hok, h⟩
  · left
    rw [h]
    rfl
  · right; left
    rw [h]
    exact ⟨ha, ht, hf, hok, rfl⟩
  · right; right
    rw [h]
    exact ⟨ha, ht, hf, hok, by simp⟩

theorem resume_cases (confirmed : Bool) :
    r.resume confirmed = (r, false) ∨
    (r.bus.active = false ∧ r.bus.faulted = false ∧ r.bus.stopPending = false ∧
      (r.jobs .stop).pending = false ∧
      r.resume confirmed = ({ r with inhibited := false }, true)) := by
  unfold resume
  split
  · exact Or.inl rfl
  · rename_i h
    simp only [Bool.or_eq_true, Bool.not_eq_true', not_or, Bool.not_eq_true] at h
    exact Or.inr ⟨h.1.1.1.2, h.1.1.2, h.1.2, h.2, rfl⟩

theorem recover_cases (idle : Bool) :
    r.recover idle = (r, false) ∨
    (r.bus.faulted = true ∧ r.recover idle =
      ({ r with bus := { r.bus with active := false, faulted := false, stopPending := true } },
        true)) := by
  unfold recover
  rcases r.bus.recover_cases idle with h | ⟨hf, h⟩
  · left
    rw [h]
  · right
    rw [h]
    exact ⟨hf, rfl⟩

end Router

/-! ## 5. Calls -/

/-- A call of the router's one owner. -/
inductive Call where
  | submit (kind : Nat) (bytes : List Byte) (nowUs deadlineUs budgetUs : Tick)
  | next (nowUs availableUs : Tick)
  | complete (token nowUs : Tick) (ok : Bool)
  | poll (nowUs : Tick)
  | resume (confirmed : Bool)
  | recover (uartIdle : Bool)

/-- The reading at which a call polls the bus.  A submission refused for its arguments and the
two calls that take no time do not. -/
def Call.clock : Call → Option Tick
  | .submit kind bytes nowUs deadlineUs budgetUs =>
    if (Work.ofNat? kind).isSome && Router.wellFormed bytes nowUs deadlineUs budgetUs then
      some nowUs
    else none
  | .next nowUs _ => some nowUs
  | .complete _ nowUs _ => some nowUs
  | .poll nowUs => some nowUs
  | .resume _ => none
  | .recover _ => none

namespace Router

def call (r : Router) : Call → Router
  | .submit kind bytes nowUs deadlineUs budgetUs =>
    (r.submit kind bytes nowUs deadlineUs budgetUs).1
  | .next nowUs availableUs => (r.next nowUs availableUs).1
  | .complete token nowUs ok => (r.complete token nowUs ok).1
  | .poll nowUs => r.poll nowUs
  | .resume confirmed => (r.resume confirmed).1
  | .recover uartIdle => (r.recover uartIdle).1

def handout (r : Router) : Call → Option Handout
  | .next nowUs availableUs => (r.next nowUs availableUs).2
  | _ => none

/-- The class whose slot a call fills. -/
def queues (r : Router) : Call → Option Work
  | .submit kind bytes nowUs deadlineUs budgetUs =>
    if (r.submit kind bytes nowUs deadlineUs budgetUs).2 then Work.ofNat? kind else none
  | _ => none

/-- The call ends the inhibition. -/
def resumes (r : Router) : Call → Bool
  | .resume confirmed => (r.resume confirmed).2
  | _ => false

/-- The job in flight is past its time when the call polls the bus. -/
def overruns (r : Router) (c : Call) : Bool :=
  match c.clock with
  | none => false
  | some nowUs => r.bus.overrun nowUs

/-- A queued job is past its time when the call polls the bus. -/
def expires (r : Router) (c : Call) : Bool :=
  match c.clock with
  | none => false
  | some nowUs => decide (∃ kind, (r.jobs kind).expired nowUs = true)

/-- A submission that queues, and one that does not. -/
theorem submit_cases (r : Router) (kind : Nat) (bytes : List Byte) (now deadline budget : Tick) :
    let call := Call.submit kind bytes now deadline budget
    (r.queues call = none ∧ call.clock = none ∧ r.call call = r) ∨
    (r.queues call = none ∧ call.clock = some now ∧ r.call call = r.poll now) ∨
    (r.queues call = some .stop ∧ call.clock = some now ∧ r.call call =
      (r.poll now).inhibit.flush.requestStop.fill .stop bytes deadline budget) ∨
    ∃ work, work ≠ .stop ∧ r.queues call = some work ∧ call.clock = some now ∧
      (r.bus.poll now).faulted = false ∧ (r.bus.poll now).stopPending = false ∧
      r.inhibited = false ∧ r.call call = (r.poll now).fill work bytes deadline budget := by
  intro call
  rcases hk : Work.ofNat? kind with - | work
  · left
    simp [call, queues, Call.clock, Router.call, submit, hk]
  simp only [call, queues, Call.clock, Router.call, submit, hk]
  rcases r.submitWork_cases work bytes now deadline budget with
    ⟨hw, h⟩ | ⟨hw, h⟩ | ⟨hw, rfl, -, h⟩ | ⟨hw, hkind, hf, hs, hi, h⟩
  · left
    simp [hw, h]
  · right; left
    simp [hw, h]
  · right; right; left
    simp [hw, h]
  · right; right; right
    refine ⟨work, hkind, ?_⟩
    simp [hw, h, hf, hs, hi]

end Router

end MobileBimanual.Bus
