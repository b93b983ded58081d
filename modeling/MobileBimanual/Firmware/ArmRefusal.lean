/-
# A refused ARM

`BinaryControl` configures and energises the arms before it asks the safety state machine
whether they may be armed.  A configuration that fails on the servo buses takes the torque off
again (`released_energiseArms`); one that goes through and is then refused, by the safety state
or by the tracking of the DMA image, does not.  So a refused ARM leaves the motors as they were
exactly when the buses did not take the whole configuration, or ARM was permitted after all
(`refusalDeenergises_iff`).
-/
import MobileBimanual.Firmware.HostService

namespace MobileBimanual.Firmware

open Machine Release
open MobileBimanual.Stream

/-! ## 1. The torque writes of a frame -/

def HostAction.torqueWrite? : HostAction → Option TorqueWrite
  | .torque write => some write
  | _ => none

/-- The torque writes made between two states. -/
def writesSince (before after : HostControl) : List TorqueWrite :=
  (after.actions.drop before.actions.length).filterMap HostAction.torqueWrite?

/-- An ARM that is not answered OK leaves the outputs as they were, and every torque it turned
on is taken off again. -/
def RefusalDeenergises (build : Build) (payload : List Byte) (replies : ArmReplies)
    (host : HostControl) : Prop :=
  (armRequest build payload replies host).2 ≠ .ok →
    (armRequest build payload replies host).1.servosConfigured = host.servosConfigured ∧
    (armRequest build payload replies host).1.rightArmOutputActive = host.rightArmOutputActive ∧
    TorqueReleased (writesSince host (armRequest build payload replies host).1)

/-- The servo buses take the whole configuration that an ARM asks for. -/
def configurationTaken (build : Build) (replies : ArmReplies) (host : HostControl) : Bool :=
  if build.dmaDispatch then
    !configurationRefused build replies host && (energiseArms build replies).2
  else (servoConfigureAllForTrajectory replies.serviceAllowed replies.left).2

/-- The ARM request gets as far as the configuration, and the configuration as far as the last
servo. -/
def armEnergises (build : Build) (payload : List Byte) (replies : ArmReplies)
    (host : HostControl) : Bool :=
  payload.length == 4 && readU32Le payload 0 == build.calibrationHash &&
    !host.servosConfigured && configurationTaken build replies host

/-- The tracking of the DMA image is ready for the arms. -/
def armsTracked (build : Build) (replies : ArmReplies) : Bool :=
  !build.dmaDispatch || replies.armsPrepared

/-- Nothing speaks against ARM. -/
def armPermitted (build : Build) (replies : ArmReplies) (host : HostControl) : Bool :=
  host.safety.state == .safeDisabled && !host.safety.estopAsserted && armsTracked build replies

/-! ## 2. A configuration that fails takes the torque off -/

theorem not_energises_torqueOff (arm arm' : Arm) (servo : Servo) :
    ¬ Energises (torqueOff arm servo) arm' := by
  rintro ⟨h, -⟩
  cases h

variable {serviceAllowed : Bool} {servo : Servo} {write : TorqueWrite}

theorem mem_servoConfigureForTrajectory {replies : ConfigureReplies}
    (h : write ∈ (servoConfigureForTrajectory serviceAllowed servo replies).1) :
    write.arm = .left ∧ serviceAllowed = true := by
  unfold servoConfigureForTrajectory at h
  split_ifs at h with h₁ h₂
  · cases h
  all_goals
    simp only [Bool.or_eq_true, Bool.not_eq_true', not_or, Bool.not_eq_false] at h₁
    simp only [List.mem_cons, List.not_mem_nil, or_false] at h
  · subst h
    exact ⟨rfl, h₁.1⟩
  · rcases h with rfl | rfl <;> exact ⟨rfl, h₁.1⟩

theorem energises_configureServos {replies : Servo → ConfigureReplies} {arm : Arm}
    (hon : Energises write arm) :
    ∀ {servos configured : List Servo},
      write ∈ (configureServos serviceAllowed replies configured servos).1 →
        arm = .left ∧ serviceAllowed = true
  | [], _, h => by cases h
  | servo :: servos, configured, h => by
    unfold configureServos at h
    have hone : write ∈ (servoConfigureForTrajectory serviceAllowed servo (replies servo)).1 →
        write.arm = .left ∧ serviceAllowed = true := mem_servoConfigureForTrajectory
    generalize servoConfigureForTrajectory serviceAllowed servo (replies servo) = out at h hone
    obtain ⟨writes, ok⟩ := out
    have hkeep : write ∈ writes → arm = .left ∧ serviceAllowed = true := by
      intro hw
      obtain ⟨hleft, hallowed⟩ := hone hw
      exact ⟨hon.2.symm.trans hleft, hallowed⟩
    cases ok with
    | false =>
      rcases List.mem_append.mp h with hw | hw
      · exact hkeep hw
      · obtain ⟨s, -, rfl⟩ := List.mem_map.mp hw
        exact absurd hon (not_energises_torqueOff _ _ s)
    | true =>
      rcases List.mem_append.mp h with hw | hw
      · exact hkeep hw
      · exact energises_configureServos hon hw

/-- A failed configuration of the left arm ends in a write that takes its torque off, and is
released. -/
theorem released_configureServos {replies : Servo → ConfigureReplies} :
    ∀ {servos configured : List Servo},
      (configureServos serviceAllowed replies configured servos).2 = false →
        TorqueReleased (configureServos serviceAllowed replies configured servos).1 ∧
        ∃ write ∈ (configureServos serviceAllowed replies configured servos).1,
          Deenergises write .left
  | [], _, h => by cases h
  | servo :: servos, configured, h => by
    unfold configureServos at h ⊢
    have hone : ∀ write, write ∈ (servoConfigureForTrajectory serviceAllowed servo
        (replies servo)).1 → write.arm = .left ∧ serviceAllowed = true :=
      fun _ => mem_servoConfigureForTrajectory
    generalize servoConfigureForTrajectory serviceAllowed servo (replies servo) = out at h hone ⊢
    obtain ⟨writes, ok⟩ := out
    cases ok with
    | false =>
      have hoff : torqueOff .left servo ∈ (configured ++ [servo]).map (torqueOff .left) :=
        List.mem_map_of_mem (List.mem_append_right _ List.mem_cons_self)
      refine ⟨Released.cleanup ?_ (released_of_no_acquire ?_),
        torqueOff .left servo, List.mem_append_right _ hoff, rfl, rfl⟩
      · intro write hw arm hon
        exact ⟨torqueOff .left servo, hoff, rfl, (hone write hw).1.symm.trans hon.2⟩
      · intro write hw arm
        obtain ⟨s, -, rfl⟩ := List.mem_map.mp hw
        exact not_energises_torqueOff _ _ s
    | true =>
      obtain ⟨hrest, off, hoff, hdis⟩ := released_configureServos h
      refine ⟨Released.cleanup ?_ hrest, off, List.mem_append_right _ hoff, hdis⟩
      intro write hw arm hon
      exact ⟨off, hoff, hdis.1, hdis.2.trans ((hone write hw).1.symm.trans hon.2)⟩

variable {act : Servo → List TorqueWrite × Bool}

theorem mem_rightServoPass :
    ∀ {servos : List Servo}, write ∈ (rightServoPass act servos).1 →
      ∃ servo ∈ servos, write ∈ (act servo).1
  | [], h => by cases h
  | servo :: servos, h => by
    unfold rightServoPass at h
    generalize hact : act servo = out at h
    obtain ⟨writes, ok⟩ := out
    have hhead : write ∈ writes → ∃ s ∈ servo :: servos, write ∈ (act s).1 := by
      intro hw
      exact ⟨servo, List.mem_cons_self, by rw [hact]; exact hw⟩
    cases ok with
    | false => exact hhead h
    | true =>
      rcases List.mem_append.mp h with hw | hw
      · exact hhead hw
      · obtain ⟨s, hs, hws⟩ := mem_rightServoPass hw
        exact ⟨s, List.mem_cons_of_mem _ hs, hws⟩

variable {replies : ArmReplies}

theorem mem_configureRightServo (h : write ∈ (configureRightServo replies servo).1) :
    write = torqueOff .right servo := by
  unfold configureRightServo rightServoConfigureAtPresentPositionOnce at h
  split_ifs at h <;> simp_all

theorem mem_energiseRightServo (h : write ∈ (energiseRightServo replies servo).1) :
    write = torqueOn .right servo ∧ replies.rightBusPresent = true := by
  unfold energiseRightServo rightServoEnableTorqueAtPresentPositionOnce at h
  split_ifs at h <;> simp_all

theorem enable_servoDisableTorqueAll {readbackRecovery : Bool} {replies : TorqueOffReplies}
    (h : write ∈ (servoDisableTorqueAll readbackRecovery serviceAllowed replies).1) :
    write.enable = false := by
  unfold servoDisableTorqueAll at h
  split_ifs at h
  · cases h
  · rcases List.mem_append.mp h with hw | hw <;>
      obtain ⟨s, -, rfl⟩ := List.mem_map.mp hw <;> rfl
  · obtain ⟨s, -, rfl⟩ := List.mem_map.mp h
    rfl

theorem enable_rightServoDisableTorqueAll {busPresent : Bool} {replies : TorqueOffReplies}
    (h : write ∈ (rightServoDisableTorqueAll busPresent replies).1) : write.enable = false := by
  unfold rightServoDisableTorqueAll at h
  split_ifs at h
  · cases h
  · obtain ⟨s, -, rfl⟩ := List.mem_map.mp h
    rfl

variable {build : Build}

/-- The sweep that ends a failed configuration never energises. -/
theorem not_energises_abandon (h : write ∈ abandonConfiguration build replies) (arm : Arm) :
    ¬ Energises write arm := by
  rintro ⟨hon, -⟩
  have hoff : write.enable = false := by
    unfold abandonConfiguration at h
    rcases List.mem_append.mp h with hw | hw
    · exact enable_servoDisableTorqueAll hw
    · split_ifs at hw
      · cases hw
      · exact enable_rightServoDisableTorqueAll hw
  rw [hoff] at hon
  cases hon

/-- An arm whose bus the driver may use, in this image. -/
def ArmReachable (build : Build) (replies : ArmReplies) : Arm → Prop
  | .left => replies.serviceAllowed = true
  | .right => build.leftOnly = false ∧ replies.rightBusPresent = true

theorem abandon_deenergises {arm : Arm} (h : ArmReachable build replies arm) :
    ∃ write ∈ abandonConfiguration build replies, Deenergises write arm := by
  have hjoint : (0 : Servo) ∈ servoJoints := List.mem_finRange 0
  cases arm with
  | left =>
    have hallowed : replies.serviceAllowed = true := h
    refine ⟨torqueOff .left 0, List.mem_append_left _ ?_, rfl, rfl⟩
    unfold servoDisableTorqueAll
    rw [hallowed, Bool.not_true, if_neg Bool.false_ne_true]
    split_ifs
    · exact List.mem_append_left _ (List.mem_map_of_mem hjoint)
    · exact List.mem_map_of_mem hjoint
  | right =>
    obtain ⟨hboth, hbus⟩ := h
    refine ⟨torqueOff .right 0, List.mem_append_right _ ?_, rfl, rfl⟩
    rw [hboth, if_neg Bool.false_ne_true]
    unfold rightServoDisableTorqueAll
    rw [hbus, Bool.not_true, if_neg Bool.false_ne_true]
    exact List.mem_map_of_mem hjoint

theorem released_abandon {writes : List TorqueWrite}
    (h : ∀ write ∈ writes, ∀ arm, Energises write arm → ArmReachable build replies arm) :
    TorqueReleased (writes ++ abandonConfiguration build replies) :=
  Released.cleanup (fun write hw arm hon => abandon_deenergises (h write hw arm hon))
    (released_of_no_acquire fun _ hw arm => not_energises_abandon hw arm)

/-- **A configuration that fails on the buses takes all torque off again.** -/
theorem released_energiseArms (h : (energiseArms build replies).2 = false) :
    TorqueReleased (energiseArms build replies).1 := by
  have hleft : ∀ write ∈ (servoConfigureAllForTrajectory replies.serviceAllowed replies.left).1,
      ∀ arm, Energises write arm → ArmReachable build replies arm := by
    intro write hw arm hon
    obtain ⟨rfl, hallowed⟩ := energises_configureServos hon hw
    exact hallowed
  have hconf : ∀ write ∈ (rightServoPass (configureRightServo replies) servoJoints).1,
      ∀ arm, ¬ Energises write arm := by
    intro write hw arm
    obtain ⟨s, -, hs⟩ := mem_rightServoPass hw
    rw [mem_configureRightServo hs]
    exact not_energises_torqueOff _ _ s
  have hon : build.leftOnly = false →
      ∀ write ∈ (rightServoPass (energiseRightServo replies) servoJoints).1,
        ∀ arm, Energises write arm → ArmReachable build replies arm := by
    intro hboth write hw arm hen
    obtain ⟨s, -, hs⟩ := mem_rightServoPass hw
    obtain ⟨rfl, hbus⟩ := mem_energiseRightServo hs
    obtain rfl : Arm.right = arm := hen.2
    exact ⟨hboth, hbus⟩
  unfold energiseArms at h ⊢
  simp only [] at h ⊢
  split_ifs at h ⊢ with h₁ h₂ h₃ h₄
  · exact released_abandon hleft
  · refine released_abandon ?_
    intro write hw arm hen
    rcases List.mem_append.mp hw with hw | hw
    · exact hleft write hw arm hen
    · exact absurd hen (hconf write hw arm)
  · refine released_abandon ?_
    intro write hw arm hen
    rcases List.mem_append.mp hw with hw | hw
    · rcases List.mem_append.mp hw with hw | hw
      · exact hleft write hw arm hen
      · exact absurd hen (hconf write hw arm)
    · exact hon (Bool.eq_false_iff.mpr h₂) write hw arm hen

/-! ## 3. A configuration that goes through ends with torque on -/

theorem last_configureServos {replies : Servo → ConfigureReplies} :
    ∀ {servos configured : List Servo}, servos ≠ [] →
      (configureServos serviceAllowed replies configured servos).2 = true →
        ∃ front servo, (configureServos serviceAllowed replies configured servos).1 =
          front ++ [torqueOn .left servo]
  | [], _, hne, _ => absurd rfl hne
  | servo :: servos, configured, _, h => by
    unfold configureServos at h ⊢
    have hone : (servoConfigureForTrajectory serviceAllowed servo (replies servo)).2 = true →
        (servoConfigureForTrajectory serviceAllowed servo (replies servo)).1 =
          [torqueOff .left servo, torqueOn .left servo] := by
      unfold servoConfigureForTrajectory
      split_ifs <;> simp
    generalize servoConfigureForTrajectory serviceAllowed servo (replies servo) = out at h hone ⊢
    obtain ⟨writes, ok⟩ := out
    cases ok with
    | false => cases h
    | true =>
      obtain rfl : writes = _ := hone rfl
      cases servos with
      | nil => exact ⟨[torqueOff .left servo], servo, rfl⟩
      | cons next servos =>
        obtain ⟨front, last, hlast⟩ := last_configureServos (List.cons_ne_nil next servos) h
        refine ⟨[torqueOff .left servo, torqueOn .left servo] ++ front, last, ?_⟩
        simp only [hlast, List.append_assoc]

theorem last_rightServoPass {last : TorqueWrite → Prop}
    (hact : ∀ servo, (act servo).2 = true → ∃ write, last write ∧ (act servo).1 = [write]) :
    ∀ {servos : List Servo}, servos ≠ [] → (rightServoPass act servos).2 = true →
      ∃ front write, last write ∧ (rightServoPass act servos).1 = front ++ [write]
  | [], hne, _ => absurd rfl hne
  | servo :: servos, _, h => by
    unfold rightServoPass at h ⊢
    have hone := hact servo
    generalize act servo = out at h hone ⊢
    obtain ⟨writes, ok⟩ := out
    cases ok with
    | false => cases h
    | true =>
      obtain ⟨write, hwrite, rfl : writes = _⟩ := hone rfl
      cases servos with
      | nil => exact ⟨[], write, hwrite, rfl⟩
      | cons next servos =>
        obtain ⟨front, final, hfinal, heq⟩ :=
          last_rightServoPass hact (List.cons_ne_nil next servos) h
        exact ⟨write :: front, final, hfinal, by simp only [heq, List.cons_append, List.nil_append]⟩

/-- A log that ends in an energising write is not released. -/
theorem not_released_of_last {front : List TorqueWrite} (h : write.enable = true) :
    ¬ TorqueReleased (front ++ [write]) :=
  not_released (k := write.arm) ⟨h, rfl⟩ fun _ hb => by cases hb

theorem servoJoints_ne_nil : servoJoints ≠ [] := by decide

theorem not_released_configureLeft {replies : Servo → ConfigureReplies}
    (h : (servoConfigureAllForTrajectory serviceAllowed replies).2 = true) :
    ¬ TorqueReleased (servoConfigureAllForTrajectory serviceAllowed replies).1 := by
  obtain ⟨front, servo, heq⟩ := last_configureServos servoJoints_ne_nil h
  unfold servoConfigureAllForTrajectory
  rw [heq]
  exact not_released_of_last rfl

theorem energiseRightServo_ok (h : (energiseRightServo replies servo).2 = true) :
    ∃ write, write.enable = true ∧ (energiseRightServo replies servo).1 = [write] := by
  refine ⟨torqueOn .right servo, rfl, ?_⟩
  unfold energiseRightServo rightServoEnableTorqueAtPresentPositionOnce at h ⊢
  split_ifs at h ⊢ <;> simp_all

/-- **A configuration that goes through leaves torque on.** -/
theorem not_released_energiseArms (h : (energiseArms build replies).2 = true) :
    ¬ TorqueReleased (energiseArms build replies).1 := by
  unfold energiseArms at h ⊢
  simp only [] at h ⊢
  split_ifs at h ⊢ with h₁ h₂ h₃ h₄
  · exact not_released_configureLeft (by simpa using h₁)
  · obtain ⟨front, write, hon, heq⟩ :=
      last_rightServoPass (fun servo => energiseRightServo_ok) servoJoints_ne_nil
        (by simpa using h₄)
    rw [heq, ← List.append_assoc]
    exact not_released_of_last hon

/-! ## 4. The configuration step -/

@[simp] theorem writesSince_self (host : HostControl) : writesSince host host = [] := by
  simp [writesSince]

theorem filterMap_torqueWrite? (writes : List TorqueWrite) :
    (writes.map HostAction.torque).filterMap HostAction.torqueWrite? = writes := by
  rw [List.filterMap_map]
  exact List.filterMap_some

@[simp] theorem filterMap_torqueWrite?_armed :
    [HostAction.armed].filterMap HostAction.torqueWrite? = [] := rfl

/-- What the configuration step did to the host: the torque writes it made, and whether it
reports the arms configured. -/
structure Configuration (build : Build) (replies : ArmReplies) (host after : HostControl)
    (healthOk : Bool) : Prop where
  safety : after.safety = host.safety
  health : healthOk = (configurationTaken build replies host && armsTracked build replies)
  kept : healthOk = false →
    after.servosConfigured = host.servosConfigured ∧
    after.rightArmOutputActive = host.rightArmOutputActive
  logged : ∃ writes, after.actions = host.actions ++ writes.map .torque ∧
    (TorqueReleased writes ↔ configurationTaken build replies host = false)

theorem configureForArm_spec (build : Build) (replies : ArmReplies) (host : HostControl) :
    Configuration build replies host (configureForArm build replies host).1
      (configureForArm build replies host).2 := by
  unfold configureForArm configureBimanualForTrajectory
  by_cases hdma : build.dmaDispatch
  · by_cases hrefused : configurationRefused build replies host
    · have htaken : configurationTaken build replies host = false := by
        simp [configurationTaken, hdma, hrefused]
      simp only [hdma, hrefused, if_true]
      exact ⟨rfl, by simp [htaken], fun _ => ⟨rfl, rfl⟩, [], by simp, by simp [htaken]⟩
    · have htaken : configurationTaken build replies host = (energiseArms build replies).2 := by
        simp [configurationTaken, hdma, hrefused]
      have hreleased : TorqueReleased (energiseArms build replies).1 ↔
          (energiseArms build replies).2 = false := by
        cases h : (energiseArms build replies).2 with
        | false => simp [released_energiseArms h]
        | true => simp [not_released_energiseArms h]
      have htracked : armsTracked build replies = replies.armsPrepared := by
        simp [armsTracked, hdma]
      rw [← htaken] at hreleased
      simp only [hdma, hrefused, if_true, Bool.false_eq_true, if_false, ← htaken]
      split_ifs with hfail hok hok
      · cases hok
      · refine ⟨rfl, ?_, fun _ => ⟨rfl, rfl⟩, _, rfl, hreleased⟩
        rw [htracked]
        revert hfail
        cases configurationTaken build replies host <;> cases replies.armsPrepared <;> simp
      · refine ⟨rfl, ?_, fun h => Bool.noConfusion h, _, rfl, hreleased⟩
        rw [htracked]
        revert hfail
        cases configurationTaken build replies host <;> cases replies.armsPrepared <;> simp
      · exact absurd rfl hok
  · have htaken : configurationTaken build replies host =
        (servoConfigureAllForTrajectory replies.serviceAllowed replies.left).2 := by
      simp [configurationTaken, hdma]
    have hreleased :
        TorqueReleased (servoConfigureAllForTrajectory replies.serviceAllowed replies.left).1 ↔
          (servoConfigureAllForTrajectory replies.serviceAllowed replies.left).2 = false := by
      cases h : (servoConfigureAllForTrajectory replies.serviceAllowed replies.left).2 with
      | false => simp [servoConfigureAllForTrajectory, (released_configureServos h).1]
      | true => simp [not_released_configureLeft h]
    have htracked : armsTracked build replies = true := by simp [armsTracked, hdma]
    rw [← htaken] at hreleased
    simp only [hdma, Bool.false_eq_true, if_false, ← htaken]
    split_ifs with hok
    · exact ⟨rfl, by simp [hok, htracked], fun h => Bool.noConfusion h, _, rfl, hreleased⟩
    · exact ⟨rfl, by simp [hok], fun _ => ⟨rfl, rfl⟩, _, rfl, hreleased⟩

/-! ## 5. The answer -/

/-- The ARM frame touches the host only through the safety state and its configuration step. -/
theorem armRequest_of_unconfigured {build : Build} {payload : List Byte} {host : HostControl}
    (replies : ArmReplies)
    (h : (payload.length == 4 && readU32Le payload 0 == build.calibrationHash &&
      !host.servosConfigured) = false) :
    (armRequest build payload replies host).1.servosConfigured = host.servosConfigured ∧
    (armRequest build payload replies host).1.rightArmOutputActive = host.rightArmOutputActive ∧
    TorqueReleased (writesSince host (armRequest build payload replies host).1) := by
  unfold armRequest
  by_cases hlen : payload.length = 4
  · have hskip : (readU32Le payload 0 == build.calibrationHash && !host.servosConfigured) =
        false := by
      simpa [hlen] using h
    simp only [hlen, ne_eq, not_true_eq_false, if_false, hskip, Bool.false_eq_true]
    split_ifs <;> simp [HostControl.note, writesSince]
  · simp [hlen]

theorem refusalDeenergises_iff (build : Build) (payload : List Byte) (replies : ArmReplies)
    (host : HostControl) :
    RefusalDeenergises build payload replies host ↔
      (armEnergises build payload replies host = true →
        armPermitted build replies host = true) := by
  by_cases hgo : (payload.length == 4 && readU32Le payload 0 == build.calibrationHash &&
      !host.servosConfigured) = true
  · have henergises : armEnergises build payload replies host =
        configurationTaken build replies host := by
      rw [armEnergises, hgo, Bool.true_and]
    simp only [Bool.and_eq_true, beq_iff_eq] at hgo
    obtain ⟨⟨hlen, hhash⟩, hservos⟩ := hgo
    obtain ⟨hsafety, hhealth, hkept, writes, hlog, hreleased⟩ :=
      configureForArm_spec build replies host
    have hbeq : (readU32Le payload 0 == build.calibrationHash) = true := by
      rw [hhash]
      exact beq_self_eq_true _
    have hok := safetyRequestArm_ok_iff host.safety (configureForArm build replies host).2 true
    have hanswer : (armRequest build payload replies host).2 =
        (safetyRequestArm host.safety (configureForArm build replies host).2 true).2 := by
      simp only [armRequest, hlen, ne_eq, not_true_eq_false, if_false, hbeq, hservos,
        Bool.and_self, if_true, hsafety]
    have hafter :
        (armRequest build payload replies host).1.servosConfigured =
          (configureForArm build replies host).1.servosConfigured ∧
        (armRequest build payload replies host).1.rightArmOutputActive =
          (configureForArm build replies host).1.rightArmOutputActive ∧
        writesSince host (armRequest build payload replies host).1 = writes := by
      simp only [armRequest, hlen, ne_eq, not_true_eq_false, if_false, hbeq, hservos,
        Bool.and_self, if_true]
      split_ifs <;>
        simp [HostControl.note, writesSince, hlog, filterMap_torqueWrite?, -List.filterMap_map]
    obtain ⟨hconfigured, hright, hwrites⟩ := hafter
    rw [RefusalDeenergises, hanswer, hconfigured, hright, hwrites, henergises, hreleased]
    have hpermitted : armPermitted build replies host = true ↔
        host.safety.state = .safeDisabled ∧ host.safety.estopAsserted = false ∧
          armsTracked build replies = true := by
      simp [armPermitted, and_assoc]
    rw [ne_eq, hok, hpermitted]
    cases htaken : configurationTaken build replies host with
    | false =>
      rw [htaken, Bool.false_and] at hhealth
      simp [hkept hhealth]
    | true =>
      rw [htaken, Bool.true_and] at hhealth
      rw [hhealth]
      simp
  · have hskip := armRequest_of_unconfigured replies (Bool.eq_false_iff.mpr hgo)
    have henergises : armEnergises build payload replies host = false := by
      rw [armEnergises, Bool.eq_false_iff.mpr hgo, Bool.false_and]
    simp [RefusalDeenergises, hskip, henergises]

/-- What an ARM frame owes, once it is past the filters. -/
def ArmKeepsOff (build : Build) (host : HostControl) : HostEvent → Prop
  | .frame .armRequest payload replies =>
    frameFiltered build .armRequest = false → RefusalDeenergises build payload replies.arm host
  | _ => True

/-- The condition on an ARM frame: what energises the arms is also permitted. -/
def ArmWellTimed (build : Build) (host : HostControl) : HostEvent → Prop
  | .frame .armRequest payload replies =>
    frameFiltered build .armRequest = false → armEnergises build payload replies.arm host = true →
      armPermitted build replies.arm host = true
  | _ => True

theorem armKeepsOff_iff (build : Build) (host : HostControl) (event : HostEvent) :
    ArmKeepsOff build host event ↔ ArmWellTimed build host event := by
  unfold ArmKeepsOff ArmWellTimed
  split
  · exact imp_congr_right fun _ => refusalDeenergises_iff build _ _ host
  · exact Iff.rfl

/-- **No refused ARM of a run energises the motors, exactly if every ARM that gets through the
configuration of the arms is permitted by the state it arrives in.** -/
theorem refused_arm_keeps_off (build : Build) (events : List HostEvent) :
    Along (hostStep build) (ArmKeepsOff build) (binaryControlInit build) events ↔
      Along (hostStep build) (ArmWellTimed build) (binaryControlInit build) events :=
  along_congr (armKeepsOff_iff build) _ _

/-- After a SAFE_STOP the safety state is HOLD; the next ARM configures the arms anew, is
answered BAD_STATE and leaves their torque on. -/
theorem arm_in_hold_energises :
    let host := Bench.after (Bench.activate ++ [Bench.frame .safeStop []])
    host.safety.state = .hold ∧ ¬ RefusalDeenergises Bench.build [0, 0, 0, 0] {} host := by
  constructor
  · decide +kernel
  · rw [refusalDeenergises_iff]
    decide +kernel

end MobileBimanual.Firmware
