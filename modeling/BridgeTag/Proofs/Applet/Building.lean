import BridgeTag.Applet.Request
import BridgeTag.Proofs.Apdu.RoundTrip
import BridgeTag.Proofs.Dgi.Framing

/-! Commands that instructions become. Each lemma says of one builder which arguments it accepts and
what it makes of them. No instruction asks for exactly 256 octets, so its command is decoded as it
was built. -/
namespace BridgeTag.Applet.Instruction

open Apdu

variable {offset length tag : UInt16} {data value frame : Octets} {operation : String}
  {ins id mode tests : UInt8} {command : Command} {order : Instruction}

theorem readCommand_eq_ok : readCommand offset length = .ok command ↔
    (length ≠ 0 ∧ length ≤ 256) ∧ ⟨Class.interindustry, Ins.readBinary,
      UInt8.ofNat (offset.toNat / 256), UInt8.ofNat offset.toNat, [],
      some (if length = 256 then .any else .exact length)⟩ = command := by
  unfold readCommand refuse
  by_cases accepted : length ≠ 0 ∧ length ≤ 256
  · have few : ¬length > 256 := UInt16.not_lt.mpr accepted.2
    simp [accepted, few]
  · have : length = 0 ∨ length > 256 := by
      rw [Classical.not_and_iff_not_or_not, ne_eq, Classical.not_not, UInt16.not_le] at accepted
      exact accepted
    simp [accepted, this]

theorem updateCommand_eq_ok : updateCommand offset data = .ok command ↔
    (data ≠ [] ∧ data.length ≤ 255) ∧ ⟨Class.interindustry, Ins.updateBinary,
      UInt8.ofNat (offset.toNat / 256), UInt8.ofNat offset.toNat, data, none⟩ = command := by
  unfold updateCommand refuse
  by_cases empty : data = []
  · simp [empty]
  · by_cases few : data.length ≤ 255
    · have : ¬data.length > 255 := by omega
      simp [empty, few, this]
    · have : data.length > 255 := by omega
      simp [few, this]

theorem passwordCommand_eq_ok : passwordCommand operation ins id mode data = .ok command ↔
    PasswordId.valid id = true ∧
      ⟨Class.interindustry, ins, 0x00, mode ||| id, data, none⟩ = command := by
  unfold passwordCommand refuse
  cases PasswordId.valid id <;> simp

/-- The whole entity has to fit the data field; its value then fits its own length field. -/
theorem personalizeCommand_eq_ok : personalizeCommand tag value = .ok command ↔
    (Dgi.octets ⟨tag, value⟩).length ≤ 65535 ∧ ⟨Class.interindustry, Ins.personalizeData,
      0x00, 0x00, Dgi.octets ⟨tag, value⟩, none⟩ = command := by
  have longer : value.length ≤ (Dgi.octets ⟨tag, value⟩).length := Dgi.length_value_le ⟨tag, value⟩
  unfold personalizeCommand refuse
  by_cases fits : (Dgi.octets ⟨tag, value⟩).length ≤ 65535
  · have encoded : Dgi.encode [⟨tag, value⟩] = .ok (Dgi.octets ⟨tag, value⟩) :=
      Dgi.encode_singleton.mpr ⟨Nat.le_trans longer fits, rfl⟩
    have : ¬(Dgi.octets ⟨tag, value⟩).length > 65535 := by omega
    simp [encoded, this, fits]
  · have : (Dgi.octets ⟨tag, value⟩).length > 65535 := by omega
    cases encoded : Dgi.encode [⟨tag, value⟩] with
    | error failure => simp [fits]
    | ok octets =>
      obtain ⟨_, rfl⟩ := Dgi.encode_singleton.mp encoded
      simp [this, fits]

/-- A value that no length field of an entity can count is refused before the data field is. -/
theorem personalizeCommand_eq_error {failure : Failure} :
    personalizeCommand tag value = .error failure ↔
      failure = ⟨.command, "personalize_data", .illegalArgument⟩ ∧
          65535 < (Dgi.octets ⟨tag, value⟩).length ∧ value.length ≤ 65535 ∨
        failure = ⟨.dgi, "encode", .illegalArgument⟩ ∧ 65535 < value.length := by
  unfold personalizeCommand refuse
  cases encoded : Dgi.encode [⟨tag, value⟩] with
  | error other =>
    obtain ⟨rfl, long⟩ := Dgi.encode_eq_error.mp encoded
    have long : 65535 < value.length := by simpa using long
    have : ¬value.length ≤ 65535 := by omega
    simp [long, this, eq_comm]
  | ok octets =>
    obtain ⟨short, rfl⟩ := Dgi.encode_singleton.mp encoded
    have short : value.length ≤ 65535 := short
    have counted : ¬65535 < value.length := by omega
    by_cases fits : (Dgi.octets ⟨tag, value⟩).length ≤ 65535
    · have : ¬(Dgi.octets ⟨tag, value⟩).length > 65535 := by omega
      simp [this, short]
    · have : (Dgi.octets ⟨tag, value⟩).length > 65535 := by omega
      simp [this, short, counted, eq_comm]

theorem command_finalizePersonalization :
    finalizePersonalization.command = personalizeCommand Dgi.finalize [] := rfl

theorem authenticate_eq_ok {challenge : Octets} :
    (authenticateTag challenge).command = .ok command ↔ challenge ≠ [] ∧
      ⟨Class.interindustry, Ins.authenticateTag, 0x00, 0x00, challenge, some .any⟩ = command := by
  unfold Instruction.command refuse
  cases challenge <;> simp

theorem setConfiguration_eq_ok : (setConfiguration tag value).command = .ok command ↔
    value.length ≤ 255 ∧ ⟨Class.proprietary, Ins.setConfiguration, 0x00, 0x00,
      Octets.ofU16 tag ++ UInt8.ofNat value.length :: value, none⟩ = command := by
  unfold Instruction.command refuse
  by_cases few : value.length ≤ 255
  · have : ¬value.length > 255 := by omega
    simp [few, this]
  · have : value.length > 255 := by omega
    simp [few, this]

theorem backendTest_eq_ok : (backendTest tests).command = .ok command ↔
    tests ≤ allBackendTests ∧
      ⟨Class.interindustry, Ins.backendTest, 0x00, tests, [], none⟩ = command := by
  unfold Instruction.command refuse
  by_cases known : tests ≤ allBackendTests
  · have : ¬tests > allBackendTests := UInt8.not_lt.mpr known
    simp [known, this]
  · have : tests > allBackendTests := UInt8.not_le.mp known
    simp [known, this]

/-- An instruction that asks for a number of octets asks for fewer than 256 and for one at least;
reading 256 of them asks for any number. -/
theorem count_of_command (built : order.command = .ok command) {count : UInt16}
    (asked : command.le = some (.exact count)) : count ≠ 0 ∧ count < 256 := by
  cases order with
  | readBinary offset length =>
    obtain ⟨⟨nonzero, few⟩, rfl⟩ := readCommand_eq_ok.mp built
    by_cases full : length = 256
    · simp [full] at asked
    · simp only [full, if_false, Option.some.injEq, Le.exact.injEq] at asked
      subst asked
      exact ⟨nonzero, UInt16.lt_of_le_of_ne few full⟩
  | updateBinary offset data =>
    obtain ⟨_, rfl⟩ := updateCommand_eq_ok.mp built
    cases asked
  | createPassword | changePassword | unblockPassword | deletePassword =>
    obtain ⟨_, rfl⟩ := passwordCommand_eq_ok.mp built
    cases asked
  | authenticateTag challenge =>
    obtain ⟨_, rfl⟩ := authenticate_eq_ok.mp built
    cases asked
  | setConfiguration tag value =>
    obtain ⟨_, rfl⟩ := setConfiguration_eq_ok.mp built
    cases asked
  | personalizeData tag value =>
    obtain ⟨_, rfl⟩ := personalizeCommand_eq_ok.mp built
    cases asked
  | finalizePersonalization =>
    rw [command_finalizePersonalization] at built
    obtain ⟨_, rfl⟩ := personalizeCommand_eq_ok.mp built
    cases asked
  | backendTest tests =>
    obtain ⟨_, rfl⟩ := backendTest_eq_ok.mp built
    cases asked
  | _ =>
    cases built
    cases asked

theorem le_ne_of_command (built : order.command = .ok command) :
    command.le ≠ some (.exact 256) :=
  fun asked => absurd (count_of_command built asked).2 (by decide)

/-- The frame of an instruction is the encoding of its command. -/
theorem octets_eq_ok : (Request.instruction order).octets = .ok frame ↔
    ∃ command, order.command = .ok command ∧ command.encode = .ok frame :=
  Failure.bind_eq_ok

theorem octets_eq_error {failure : Failure} : (Request.instruction order).octets = .error failure ↔
    order.command = .error failure ∨
      ∃ command, order.command = .ok command ∧ command.encode = .error failure :=
  Failure.bind_eq_error

theorem exists_frame (built : order.command = .ok command)
    (encodable : command.encodable = true) :
    ∃ frame, (Request.instruction order).octets = .ok frame :=
  ⟨_, octets_eq_ok.mpr ⟨command, built, Command.encode_eq_ok.mpr ⟨encodable, rfl⟩⟩⟩

/-- Arguments within the bounds that the instruction sets them. -/
def InBounds : Instruction → Prop
  | readBinary _ length => 1 ≤ length ∧ length ≤ 256
  | updateBinary _ data => 1 ≤ data.length ∧ data.length ≤ 255
  | createPassword id _ _ _ _ | changePassword id _ _ | unblockPassword id _
  | deletePassword id _ => 1 ≤ id ∧ id ≤ 31
  | authenticateTag challenge => 1 ≤ challenge.length ∧ challenge.length ≤ 65535
  | setConfiguration _ value => value.length ≤ 255
  | personalizeData _ value => value.length ≤ 65530
  | backendTest tests => tests ≤ 0x7F
  | selectApplication | selectFile _ | selectFileWithPassword _ _ _ | getData _ | passThroughFetch
  | getConfiguration _ | finalizePersonalization | disableBackendTests => True

theorem valid_iff : PasswordId.valid id = true ↔ 1 ≤ id ∧ id ≤ 31 := by
  simp only [PasswordId.valid, Bool.and_eq_true, decide_eq_true_eq]
  exact Iff.rfl

/-- Tag and length field take up to five octets of the data field. -/
theorem length_octets_le_iff : (Dgi.octets ⟨tag, value⟩).length ≤ 65535 ↔ value.length ≤ 65530 := by
  simp only [Dgi.length_octets, Dgi.encodedSize, Dgi.lengthSize]
  split <;> omega

/-- Arguments out of bounds make no frame. -/
theorem inBounds_of_octets (framed : (Request.instruction order).octets = .ok frame) :
    order.InBounds := by
  obtain ⟨command, built, encoded⟩ := octets_eq_ok.mp framed
  cases order with
  | readBinary offset length =>
    obtain ⟨⟨nonzero, few⟩, _⟩ := readCommand_eq_ok.mp built
    refine ⟨?_, few⟩
    rw [UInt16.le_iff_toNat_le]
    exact Nat.pos_of_ne_zero fun zero => nonzero (UInt16.toNat_inj.mp zero)
  | updateBinary offset data =>
    obtain ⟨⟨some, few⟩, _⟩ := updateCommand_eq_ok.mp built
    exact ⟨List.length_pos_iff.mpr some, few⟩
  | createPassword | changePassword | unblockPassword | deletePassword =>
    exact valid_iff.mp (passwordCommand_eq_ok.mp built).1
  | authenticateTag challenge =>
    obtain ⟨some, rfl⟩ := authenticate_eq_ok.mp built
    obtain ⟨encodable, _⟩ := Command.encode_eq_ok.mp encoded
    exact ⟨List.length_pos_iff.mpr some, (Command.encodable_iff.mp encodable).1⟩
  | setConfiguration tag value => exact (setConfiguration_eq_ok.mp built).1
  | personalizeData tag value =>
    exact length_octets_le_iff.mp (personalizeCommand_eq_ok.mp built).1
  | backendTest tests => exact (backendTest_eq_ok.mp built).1
  | _ => exact trivial

theorem exists_frame_readBinary (offset : UInt16) (nonzero : length ≠ 0) (few : length ≤ 256) :
    ∃ frame, (Request.instruction (readBinary offset length)).octets = .ok frame := by
  refine exists_frame (readCommand_eq_ok.mpr ⟨⟨nonzero, few⟩, rfl⟩) ?_
  refine Command.encodable_iff.mpr ⟨Nat.zero_le _, ?_⟩
  by_cases full : length = 256
  · simp [full]
  · simpa [full] using nonzero

theorem returned_of_command (built : order.command = .ok command) : command.returned = command :=
  Command.returned_eq_self_iff.mpr fun aliased => le_ne_of_command built aliased.1

/-- The octets of an instruction's command are decoded as that very command. -/
theorem decode_of_command (built : order.command = .ok command)
    (encoded : command.encode = .ok frame) : Command.decode frame = .ok command := by
  rw [Command.decode_of_encode encoded, returned_of_command built]

end BridgeTag.Applet.Instruction
