/-
# What a packet tells the lift

`liftWord` is the velocity a packet writes to the lift, if it writes one.  Only the packets of the
LIFT class move it: the output's STOP stands it still and its WHEELS packets do not name it.
`Tame` says of an operation of the output that it tells the lift nothing new: it leaves the
lift's slot as it was or empties it, hands nothing out, and claims no hold.
-/
import MobileBimanual.Mobile.Output

namespace MobileBimanual.Mobile

open MobileBimanual.Stream (Byte Tick)
open MobileBimanual.Bus MobileOutput

/-! ## 1. What a packet tells the lift -/

/-- The velocity a packet writes to the lift, if it writes one. -/
def liftWord (ids : MobileIds) (packet : List Byte) : Option Word :=
  if packet.getD 5 0 = velocityAddress then (syncWords packet).lookup ids.liftId else none

/-- The packet tells the lift nothing but standstill. -/
def Harmless (ids : MobileIds) (packet : List Byte) : Prop :=
  ∀ word, liftWord ids packet = some word → word = 0

instance (ids : MobileIds) (packet : List Byte) : Decidable (Harmless ids packet) :=
  Option.decidableForallMem (p := (· = 0)) (liftWord ids packet)

section Packets

variable {ids : MobileIds} {packet : List Byte}

theorem harmless_of_lookup
    (h : ∀ word, (syncWords packet).lookup ids.liftId = some word → word = 0) :
    Harmless ids packet := by
  intro word hword
  unfold liftWord at hword
  split at hword
  · exact h word hword
  · cases hword

theorem harmless_nil : Harmless ids [] := by
  refine harmless_of_lookup ?_
  intro word hword
  cases hword

/-- The STOP that stands the four axes still is harmless. -/
theorem harmless_of_zeroServos (h : syncWords packet = zeroServos ids) :
    Harmless ids packet := by
  refine harmless_of_lookup ?_
  intro word hword
  rw [h] at hword
  obtain ⟨before, after, hsplit, -⟩ := List.lookup_eq_some_iff.mp hword
  have hmem : (ids.liftId, word) ∈ zeroServos ids := by
    rw [hsplit]
    exact List.mem_append_right _ List.mem_cons_self
  simp only [zeroServos, List.mem_cons, Prod.mk.injEq, List.not_mem_nil, or_false]
    at hmem
  rcases hmem with ⟨-, hzero⟩ | ⟨-, hzero⟩ | ⟨-, hzero⟩ | ⟨-, hzero⟩
  · exact hzero
  · exact hzero
  · exact hzero
  · exact hzero

theorem syncWords_group {group : MotorGroup} {velocities : List Int}
    (h : motorGroupVelocities ids group velocities = .ok packet) :
    syncWords packet = (group.spec ids).servos.zip (velocities.map velocityWord) := by
  unfold motorGroupVelocities at h
  dsimp only at h
  split_ifs at h
  split at h
  · cases h
  · rename_i hbuilt
    cases h
    exact syncWords_build hbuilt

theorem harmless_of_wheels {velocities : List Int}
    (h : motorGroupVelocities ids .baseWheels velocities = .ok packet) : Harmless ids packet := by
  refine harmless_of_lookup ?_
  intro word hword
  rw [syncWords_group h] at hword
  have hne : ∀ axis : Axis, axis ≠ liftAxis → (ids.liftId == ids.servo axis) = false := by
    intro axis haxis
    rw [beq_eq_false_iff_ne]
    exact ids.servo_ne haxis.symm
  have hnone : ∀ words : List Word,
      (((MotorGroup.baseWheels.spec ids).servos.zip words).lookup ids.liftId) = none := by
    intro words
    rcases words with _ | ⟨a, _ | ⟨b, _ | ⟨c, _⟩⟩⟩ <;>
      simp [MotorGroup.spec, List.lookup_cons, hne 0 (by decide), hne 1 (by decide), hne 2 (by decide)]
  rw [hnone] at hword
  cases hword

theorem harmless_of_still {velocity : Int} (hstill : velocity = 0)
    (h : motorGroupVelocities ids .lift [velocity] = .ok packet) : Harmless ids packet := by
  refine harmless_of_lookup ?_
  intro word hword
  rw [syncWords_group h, hstill] at hword
  simp only [MotorGroup.spec, List.map_cons, List.map_nil, List.zip_cons_cons, List.zip_nil_right,
    List.lookup_cons, beq_self_eq_true, Option.some_inj] at hword
  rw [← hword]
  rfl

theorem drop_getD {l : List Byte} {i : Nat} (h : i < l.length) :
    l.drop i = l.getD i 0 :: l.drop (i + 1) := by
  rw [List.drop_eq_getElem_cons h, List.getD_eq_getElem?_getD, List.getElem?_eq_getElem h, Option.getD_some]

/-- Three more bytes are one more word. -/
theorem wordsOf_drop {l : List Byte} {i : Nat} (h : i + 3 ≤ l.length) :
    wordsOf (l.drop i) =
      (l.getD i 0, l.getD (i + 2) 0 ++ l.getD (i + 1) 0) :: wordsOf (l.drop (i + 3)) := by
  rw [drop_getD (by omega : i < l.length), drop_getD (by omega : i + 1 < l.length),
    drop_getD (by omega : i + 1 + 1 < l.length), wordsOf]

variable {kind : Work}

/-- **What counts as a zero is one**: the lift's own packet by its bytes, a STOP because no STOP
tells the lift to move. -/
theorem liftWord_of_sendsZero (h : sendsZero ids kind packet = true)
    (hstop : kind ≠ .lift → Harmless ids packet) : liftWord ids packet = some 0 := by
  simp only [sendsZero, zeroLift, zeroAll, Bool.or_eq_true,
    Bool.and_eq_true, decide_eq_true_eq, beq_iff_eq] at h
  rcases h with ⟨-, ⟨⟨⟨hlength, haddress⟩, hid⟩, hlow⟩, hhigh⟩ |
    ⟨hkind, ⟨⟨⟨hlength, haddress⟩, hid⟩, -⟩, -⟩
  · rw [liftWord, if_pos haddress, syncWords, wordsOf_drop (by omega), hid, hlow, hhigh,
      List.lookup_cons, beq_self_eq_true]
    rfl
  · have hsome : ∃ word, liftWord ids packet = some word := by
      rw [liftWord, if_pos haddress, syncWords, wordsOf_drop (by omega), wordsOf_drop (by omega),
        wordsOf_drop (by omega), wordsOf_drop (by omega), hid]
      simp only [List.lookup_cons, beq_self_eq_true]
      split
      · exact ⟨_, rfl⟩
      split
      · exact ⟨_, rfl⟩
      split
      · exact ⟨_, rfl⟩
      · exact ⟨_, rfl⟩
    obtain ⟨word, hword⟩ := hsome
    rw [hword, hstop (by rw [hkind]; decide) word hword]

end Packets

/-! ## 2. What tells the lift nothing new -/

/-- A call of the router by the transport or by the owner of another class, who does not move
the lift. -/
def Foreign (ids : MobileIds) : Call → Prop
  | .submit kind bytes _ _ _ => kind ≠ Work.lift.toNat ∧ Harmless ids bytes
  | _ => True

/-- What waits in a slot waited there, or waits outside the lift's slot and is harmless; nothing
goes out. -/
structure Calm (ids : MobileIds) (r r' : Router) : Prop where
  jobs : ∀ kind, (r'.jobs kind).pending = true → r'.jobs kind = r.jobs kind ∨
    (kind ≠ .lift ∧ Harmless ids (r'.jobs kind).bytes)
  activeBytes : r'.activeBytes = r.activeBytes
  owner : r'.bus.owner = r.bus.owner

namespace Calm

variable {ids : MobileIds} {r r' r'' : Router}

theorem trans (h : Calm ids r r') (h' : Calm ids r' r'') : Calm ids r r'' where
  jobs := by
    intro kind hp
    rcases h'.jobs kind hp with heq | hnew
    · rw [heq] at hp ⊢
      exact h.jobs kind hp
    · exact Or.inr hnew
  activeBytes := h'.activeBytes.trans h.activeBytes
  owner := h'.owner.trans h.owner

/-- The slots are the same. -/
theorem of_jobs (hjobs : r'.jobs = r.jobs) (hbytes : r'.activeBytes = r.activeBytes)
    (howner : r'.bus.owner = r.bus.owner) : Calm ids r r' where
  jobs kind _ := Or.inl (by rw [hjobs])
  activeBytes := hbytes
  owner := howner

theorem refl (r : Router) : Calm ids r r := of_jobs rfl rfl rfl

theorem poll (r : Router) (now : Tick) : Calm ids r (r.poll now) := of_jobs rfl rfl (by simp)

theorem drop (r : Router) (kind : Work) : Calm ids r (r.drop kind) where
  jobs := by
    intro other hp
    obtain ⟨hne, -⟩ := Router.drop_pending.mp hp
    exact Or.inl (by simp [Router.drop, Function.update_of_ne hne])
  activeBytes := rfl
  owner := rfl

theorem expire (r : Router) (kind : Work) : Calm ids r (r.expire kind) :=
  (drop r kind).trans (of_jobs rfl rfl rfl)

theorem flush (r : Router) : Calm ids r r.flush where
  jobs := by
    intro kind hp
    obtain ⟨rfl, -⟩ := Router.flush_pending.mp hp
    exact Or.inl (by simp [Router.flush])
  activeBytes := rfl
  owner := rfl

/-- Another class is queued. -/
theorem fill (r : Router) {kind : Work} (hkind : kind ≠ .lift) {bytes : List Byte}
    (hbytes : Harmless ids bytes) (deadline budget : Tick) :
    Calm ids r (r.fill kind bytes deadline budget) where
  jobs := by
    intro other _
    by_cases hother : other = kind
    · subst hother
      exact Or.inr ⟨hkind, by simpa [Router.fill] using hbytes⟩
    · exact Or.inl (by simp [Router.fill, Function.update_of_ne hother])
  activeBytes := rfl
  owner := rfl

theorem submitWork (r : Router) (hkind : kind ≠ .lift) {bytes : List Byte}
    (hbytes : Harmless ids bytes) (now deadline budget : Tick) :
    Calm ids r (r.submitWork kind bytes now deadline budget).1 := by
  rcases r.submitWork_cases kind bytes now deadline budget with
    ⟨-, heq⟩ | ⟨-, heq⟩ | ⟨-, rfl, -, heq⟩ | ⟨-, -, -, -, -, heq⟩ <;> rw [heq]
  · exact refl r
  · exact poll r now
  · have hinhibit : Calm ids r (r.poll now).inhibit := (poll r now).trans (of_jobs rfl rfl rfl)
    have hflush : Calm ids r (r.poll now).inhibit.flush := hinhibit.trans (flush _)
    have hstop : Calm ids r (r.poll now).inhibit.flush.requestStop :=
      hflush.trans (of_jobs rfl rfl rfl)
    exact hstop.trans (fill _ hkind hbytes _ _)
  · exact (poll r now).trans (fill _ hkind hbytes _ _)

/-- A turn of the scan that hands nothing out. -/
theorem visit (r : Router) {now available : Tick}
    (hnone : (Router.visit now available r kind).2 = none) :
    Calm ids r (Router.visit now available r kind).1 := by
  rcases Router.visit_cases now available r kind with
    ⟨-, heq⟩ | ⟨-, -, heq⟩ | ⟨-, -, heq⟩ | ⟨-, -, heq⟩ | ⟨-, -, heq⟩
  · rw [heq]
    exact refl r
  · rw [heq]
    exact expire r kind
  · rw [heq]
    exact poll r now
  · rw [heq]
    exact of_jobs rfl rfl (by simp [SharedBus.faultStop])
  · rw [heq] at hnone
    cases hnone

/-- A call of another owner that hands nothing out. -/
theorem call {c : Call} (hforeign : Foreign ids c) (hout : r.handout c = none) :
    Calm ids r (r.call c) := by
  cases c with
  | submit kind bytes now deadline budget =>
    rw [Router.call, Router.submit]
    cases hwork : Work.ofNat? kind with
    | none => exact refl r
    | some work =>
      refine submitWork r ?_ hforeign.2 now deadline budget
      rintro rfl
      exact hforeign.1 (Work.toNat_of_ofNat? hwork).symm
  | next now available =>
    rcases Router.next_rule (P := Calm ids r) (poll r now)
        (fun s kind hs hnone => hs.trans (visit s hnone)) with
      ⟨-, hcalm⟩ | ⟨s, kind, -, -, -, heq⟩
    · exact hcalm
    · rw [Router.handout, heq] at hout
      cases hout
  | complete token now ok =>
    rcases r.complete_cases token now ok with heq | ⟨-, -, -, -, heq⟩ | ⟨-, -, -, -, heq⟩ <;>
      rw [Router.call, heq]
    · exact poll r now
    · exact of_jobs rfl rfl (by simp [SharedBus.faultStop])
    · exact of_jobs rfl rfl (by simp)
  | poll now => exact poll r now
  | resume confirmed =>
    rcases r.resume_cases confirmed with heq | ⟨-, -, -, -, heq⟩ <;> rw [Router.call, heq]
    · exact refl r
    · exact of_jobs rfl rfl rfl
  | recover idle =>
    rcases r.recover_cases idle with heq | ⟨-, heq⟩ <;> rw [Router.call, heq]
    · exact refl r
    · exact of_jobs rfl rfl rfl

theorem stopRouter (r : Router) (written : Bool) :
    Calm ids r (stopRouter r written) := by
  cases written
  · exact (of_jobs rfl rfl rfl : Calm ids r r.inhibit.requestStop).trans (flush _)
  · exact (of_jobs rfl rfl rfl : Calm ids r r.inhibit).trans (flush _)

end Calm

/-- The router is left calm and no hold is claimed. -/
structure Tame (ids : MobileIds) (o o' : MobileOutput) : Prop where
  calm : Calm ids o.router o'.router
  lift : ∀ truth, Lift.Settled truth o.endpoint.lift → Lift.Settled truth o'.endpoint.lift

namespace Tame

variable {ids : MobileIds} {o o' o'' : MobileOutput}

theorem trans (h : Tame ids o o') (h' : Tame ids o' o'') : Tame ids o o'' :=
  ⟨h.calm.trans h'.calm, fun truth => h'.lift truth ∘ h.lift truth⟩

/-- The lift is the same. -/
theorem of_calm (hcalm : Calm ids o.router o'.router)
    (hlift : o'.endpoint.lift = o.endpoint.lift) : Tame ids o o' where
  calm := hcalm
  lift truth h := by rwa [hlift]

theorem refl (o : MobileOutput) : Tame ids o o := of_calm (.refl _) rfl

theorem noteFault (o : MobileOutput) (fault : OutputFault) : Tame ids o (o.noteFault fault) :=
  of_calm (.refl _) rfl

theorem stop (o : MobileOutput) (fault : OutputFault) : Tame ids o (o.stop fault) := by
  unfold MobileOutput.stop
  split
  · exact refl o
  · constructor
    · exact Calm.stopRouter _ _
    · intro truth h
      dsimp only
      split
      · exact (LiftEndpoint.keeps_settled truth).stop h
      · exact h

theorem queueStop (o : MobileOutput) (now : Tick) :
    Tame ids o (queueStop ids o now) := by
  unfold MobileOutput.queueStop
  split
  · exact refl o
  split
  · exact noteFault o .queue
  · rename_i packet hpacket
    have hcalm : Calm ids o.router (o.router.submitWork .stop packet now
        (now + o.config.jobLifetimeUs) o.config.stopBudgetUs).1 :=
      Calm.submitWork _ (by decide) (harmless_of_zeroServos (syncWords_build hpacket)) _ _ _
    split
    · rename_i router heq
      rw [heq] at hcalm
      exact of_calm hcalm rfl
    · rename_i router heq
      rw [heq] at hcalm
      exact (of_calm hcalm rfl : Tame ids o { o with router }).trans (noteFault _ .queue)

theorem halt (o : MobileOutput) (fault : OutputFault) (now : Tick) :
    Tame ids o (halt ids o fault now) :=
  (stop o fault).trans (queueStop _ now)

/-- The parts of an inspection tell the lift nothing. -/
theorem kept : Kept (Tame ids) where
  refl := refl
  trans := trans
  stop := stop
  drop o kind _ := of_calm ((Calm.drop o.router kind).trans (.of_jobs rfl rfl rfl)) rfl
  schedule _ _ := of_calm (.refl _) rfl
  watch o nowUs _ := of_calm (Calm.poll o.router nowUs) rfl

theorem disengage (o : MobileOutput) : Tame ids o o.disengage :=
  of_calm ((Calm.drop _ .wheels).trans (Calm.drop _ .lift)) rfl

theorem bindLift (o : MobileOutput) : Tame ids o o.bindLift.1 := by
  unfold MobileOutput.bindLift
  split
  · exact refl o
  · exact of_calm (.refl _) rfl

theorem rearm (o : MobileOutput) (session epoch ms : Tick) (proof : Bool) :
    Tame ids o (o.rearm session epoch ms proof).1 := by
  have hresume : ∀ confirmed, Calm ids o.router (o.router.resume confirmed).1 := by
    intro confirmed
    rcases o.router.resume_cases confirmed with heq | ⟨-, -, -, -, heq⟩ <;> rw [heq]
    · exact .refl _
    · exact .of_jobs rfl rfl rfl
  unfold MobileOutput.rearm
  split
  · exact refl o
  split
  · exact refl o
  have hcalm := hresume true
  split
  · rename_i router heq
    rw [heq] at hcalm
    exact of_calm hcalm rfl
  · rename_i router heq
    rw [heq] at hcalm
    split
    · exact of_calm hcalm rfl
    · exact of_calm hcalm rfl

end Tame

/-! ## 3. Queueing a velocity -/

/-- **A velocity job** is refused, and the output stops, or it is in its slot. -/
theorem queueJob_cases (ids : MobileIds) (o : MobileOutput) (job : VelocityJob)
    (hkind : job.kind ≠ .stop) (lifetime now : Tick) :
    ((queueJob ids o job lifetime now).2 = false ∧
      Tame ids o (queueJob ids o job lifetime now).1) ∨
    ∃ packet, job.budgetUs < lifetime ∧
      motorGroupVelocities ids job.group job.velocities = .ok packet ∧
      queueJob ids o job lifetime now =
        ({ o with router :=
            (o.router.poll now).fill job.kind packet (now + lifetime) job.budgetUs }, true) := by
  unfold queueJob
  split
  · exact Or.inl ⟨rfl, Tame.halt o .queue now⟩
  rename_i hlifetime
  split
  · exact Or.inl ⟨rfl, Tame.halt o .queue now⟩
  rename_i packet hpacket
  rcases o.router.submitWork_cases job.kind packet now (now + lifetime) job.budgetUs with
    ⟨-, heq⟩ | ⟨-, heq⟩ | ⟨-, hstop, -⟩ | ⟨-, -, -, -, -, heq⟩
  · left
    rw [heq]
    exact ⟨rfl, Tame.halt _ .queue now⟩
  · left
    rw [heq]
    have hpoll : Tame ids o { o with router := o.router.poll now } :=
      .of_calm (Calm.poll o.router now) rfl
    exact ⟨rfl, hpoll.trans (Tame.halt _ .queue now)⟩
  · exact absurd hstop hkind
  · right
    rw [heq]
    exact ⟨packet, BitVec.not_le.mp hlifetime, hpacket, rfl⟩

/-- A job that was queued fits its lifetime, and leaves the lift alone. -/
theorem queueJob_go {ids : MobileIds} {o : MobileOutput} {job : VelocityJob}
    (hkind : job.kind ≠ .stop) {lifetime now : Tick}
    (hgo : (queueJob ids o job lifetime now).2 = true) :
    job.budgetUs < lifetime ∧
      (queueJob ids o job lifetime now).1.endpoint = o.endpoint := by
  rcases queueJob_cases ids o _ hkind lifetime now with ⟨hstopped, -⟩ | ⟨packet, hbudget, -, heq⟩
  · rw [hstopped] at hgo
    cases hgo
  · rw [heq]
    exact ⟨hbudget, rfl⟩

theorem Tame.queueWheels (ids : MobileIds) (o : MobileOutput) (lifting : Bool)
    (lifetime now : Tick) :
    Tame ids o (queueJob ids o (o.wheelsJob lifting) lifetime now).1 := by
  have hkind : (o.wheelsJob lifting).kind ≠ .stop := by simp [wheelsJob]
  rcases queueJob_cases ids o _ hkind lifetime now with ⟨-, htame⟩ | ⟨packet, -, hpacket, heq⟩
  · exact htame
  · rw [heq]
    have hlift : (o.wheelsJob lifting).kind ≠ .lift := by simp [wheelsJob]
    exact of_calm ((Calm.poll _ now).trans
      (Calm.fill _ hlift (harmless_of_wheels hpacket) _ _)) rfl

end MobileBimanual.Mobile
