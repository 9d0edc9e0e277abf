import BridgeTag.Proofs.Apdu.Shortening
import BridgeTag.Proofs.Applet.Building
import BridgeTag.Proofs.Dgi.RoundTrip

/-! Frames of instructions. The bounds that instructions set their arguments keep their commands
within those of a frame, except that a challenge has no bound; and only configuration values, data
groups and challenges can be too long for the short form. -/
namespace BridgeTag.Applet.Instruction

open Apdu

variable {order : Instruction} {command : Command} {tag : UInt16} {value : Octets}

/-- A challenge that no data field can hold. -/
def Overlong : Instruction → Prop
  | authenticateTag challenge => 65535 < challenge.length
  | _ => False

/-- Arguments that make more data than one octet can count; a configuration value has three octets
in front of it, and so has a data group of that size. -/
def Extended : Instruction → Prop
  | setConfiguration _ value | personalizeData _ value => 253 ≤ value.length
  | authenticateTag challenge => 255 < challenge.length
  | _ => False

theorem length_password_le (value : Option UInt32) : (password value).length ≤ 4 := by
  cases value <;> simp [password]

theorem length_taggedPassword_le (tag : UInt8) (value : Option UInt32) :
    (taggedPassword tag value).length ≤ 6 := by
  cases value <;> simp [taggedPassword]

theorem length_octets_gt_iff :
    255 < (Dgi.octets ⟨tag, value⟩).length ↔ 253 ≤ value.length := by
  simp only [Dgi.length_octets, Dgi.encodedSize, Dgi.lengthSize]
  split <;> omega

theorem exceeds_neither {size : Nat} (few : size ≤ 255) (short : ¬order.Extended)
    (fits : ¬order.Overlong) :
    (255 < size ↔ order.Extended) ∧ (65535 < size ↔ order.Overlong) := by
  simp only [short, fits, iff_false]
  omega

/-- Which of the two bounds on data the data of a command exceeds. -/
theorem length_data_of_command (built : order.command = .ok command) :
    (255 < command.data.length ↔ order.Extended) ∧
      (65535 < command.data.length ↔ order.Overlong) := by
  cases order with
  | selectApplication | selectFile | getData | passThroughFetch | getConfiguration
  | disableBackendTests =>
    cases built
    exact exceeds_neither (Nat.le_of_ble_eq_true rfl) nofun nofun
  | selectFileWithPassword fid read write =>
    cases built
    refine exceeds_neither ?_ nofun nofun
    have := length_taggedPassword_le 0x52 read
    have := length_taggedPassword_le 0x54 write
    simp only [selectById, List.length_append, Octets.length_ofU16]
    omega
  | readBinary offset length =>
    obtain ⟨_, rfl⟩ := readCommand_eq_ok.mp built
    exact exceeds_neither (Nat.zero_le _) nofun nofun
  | updateBinary offset data =>
    obtain ⟨⟨_, few⟩, rfl⟩ := updateCommand_eq_ok.mp built
    exact exceeds_neither few nofun nofun
  | createPassword id new response limit master | changePassword id new master
  | unblockPassword id master | deletePassword id master =>
    obtain ⟨_, rfl⟩ := passwordCommand_eq_ok.mp built
    refine exceeds_neither ?_ nofun nofun
    have := length_password_le master
    simp only [List.length_append, List.length_cons, Octets.length_ofU16, Octets.length_ofU32]
    omega
  | authenticateTag challenge =>
    obtain ⟨_, rfl⟩ := authenticate_eq_ok.mp built
    exact ⟨Iff.rfl, Iff.rfl⟩
  | setConfiguration tag value =>
    obtain ⟨few, rfl⟩ := setConfiguration_eq_ok.mp built
    simp only [Extended, Overlong, List.length_append, List.length_cons, Octets.length_ofU16,
      iff_false]
    omega
  | personalizeData tag value =>
    obtain ⟨fits, rfl⟩ := personalizeCommand_eq_ok.mp built
    refine ⟨length_octets_gt_iff, ?_⟩
    simpa [Overlong] using fits
  | finalizePersonalization =>
    rw [command_finalizePersonalization] at built
    obtain ⟨_, rfl⟩ := personalizeCommand_eq_ok.mp built
    exact exceeds_neither (by decide) nofun nofun
  | backendTest tests =>
    obtain ⟨_, rfl⟩ := backendTest_eq_ok.mp built
    exact exceeds_neither (Nat.zero_le _) nofun nofun

theorem extended_of_command (built : order.command = .ok command) :
    command.extended = true ↔ order.Extended := by
  rw [Command.extended_iff, ← (length_data_of_command built).1]
  constructor
  · rintro (long | ⟨count, asked, many⟩)
    · exact long
    · exact absurd (count_of_command built asked).2 (UInt16.not_lt.mpr (UInt16.le_of_lt many))
  · exact .inl

theorem encodable_of_command (built : order.command = .ok command) :
    command.encodable = false ↔ order.Overlong := by
  rw [← (length_data_of_command built).2, Bool.eq_false_iff, ne_eq, Command.encodable_iff,
    Classical.not_and_iff_not_or_not, Nat.not_le]
  constructor
  · rintro (long | asked)
    · exact long
    · exact absurd rfl (count_of_command built (Classical.not_not.mp asked)).1
  · exact .inl

theorem exists_encode_of_command (built : order.command = .ok command) (fits : ¬order.Overlong) :
    ∃ frame, command.encode = .ok frame := by
  rw [← encodable_of_command built, Bool.not_eq_false] at fits
  exact ⟨_, Command.encode_eq_ok.mpr ⟨fits, rfl⟩⟩

/-- Whatever an instruction makes can be framed, but for a challenge that is too long for any data
field. The frame is read as the very command, for no command asks for exactly 256 octets; and it is
in the extended form just where the arguments make more data than one octet can count. -/
theorem encode_decode_of_command (built : order.command = .ok command) :
    (∀ failure, command.encode = .error failure ↔
      failure = ⟨.apdu, "to_bytes", .illegalArgument⟩ ∧ order.Overlong) ∧
    (¬order.Overlong → ∃ frame, command.encode = .ok frame) ∧
    (∀ frame, command.encode = .ok frame → Command.decode frame = .ok command ∧
      ∃ layout : Layout, layout.octets = frame ∧ layout.command = command ∧
        (layout.body.short = false ↔ order.Extended)) ∧
    command.le ≠ some (.exact 256) ∧ (command.extended = true ↔ order.Extended) := by
  have extended := extended_of_command built
  refine ⟨?_, exists_encode_of_command built, ?_, le_ne_of_command built, extended⟩
  · intro failure
    rw [Command.encode_eq_error, encodable_of_command built]
  · intro frame encoded
    refine ⟨decode_of_command built encoded, ?_⟩
    obtain ⟨layout, spelled, laid, form⟩ := Command.exists_layout encoded
    refine ⟨layout, spelled, ?_, ?_⟩
    · rw [laid, returned_of_command built]
    · rw [form, Bool.not_eq_false', extended]

/-- A value of 253 octets, the first that is too long for the short form, and a challenge that is
too long for either. -/
theorem encode_decode_longest :
    (∃ command frame, (setConfiguration 0x1F01 (List.replicate 253 0xAA)).command = .ok command ∧
      command.encode = .ok frame ∧ Command.decode frame = .ok command ∧
      command.extended = true) ∧
    ∃ command, (authenticateTag (List.replicate 65536 0xAA)).command = .ok command ∧
      command.encode = .error ⟨.apdu, "to_bytes", .illegalArgument⟩ := by
  constructor
  · have long : (List.replicate 253 (0xAA : UInt8)).length = 253 := List.length_replicate
    have built : (setConfiguration 0x1F01 (List.replicate 253 0xAA)).command = .ok _ :=
      setConfiguration_eq_ok.mpr ⟨Nat.le_trans (Nat.le_of_eq long) (by decide), rfl⟩
    obtain ⟨_, framed, read, _, extended⟩ := encode_decode_of_command built
    obtain ⟨frame, encoded⟩ := framed nofun
    exact ⟨_, frame, built, encoded, (read frame encoded).1, extended.mpr (Nat.le_of_eq long.symm)⟩
  · have long : (List.replicate 65536 (0xAA : UInt8)).length = 65536 := List.length_replicate
    have built := authenticate_eq_ok.mpr ⟨List.length_pos_iff.mp (by rw [long]; decide), rfl⟩
    obtain ⟨refused, _⟩ := encode_decode_of_command built
    exact ⟨_, built, (refused _).mpr ⟨rfl, Nat.le_of_eq long.symm⟩⟩

/-- A data group can be sent if its value has at most 65530 octets; one that is longer is refused,
by the data field up to the greatest length an entity can have and by the entity beyond it. What is
sent is framed and read back through both layers, as the command and as the one data group. -/
theorem personalizeData_outcome (tag : UInt16) (value : Octets) :
    ((∃ command, (personalizeData tag value).command = .ok command) ↔ value.length ≤ 65530) ∧
    (∀ failure, (personalizeData tag value).command = .error failure ↔
      failure = ⟨.command, "personalize_data", .illegalArgument⟩ ∧
          65531 ≤ value.length ∧ value.length ≤ 65535 ∨
        failure = ⟨.dgi, "encode", .illegalArgument⟩ ∧ 65535 < value.length) ∧
    ∀ command, (personalizeData tag value).command = .ok command →
      ∃ frame, command.encode = .ok frame ∧ Command.decode frame = .ok command ∧
        Dgi.decode command.data = .ok [⟨tag, value⟩] := by
  refine ⟨?_, ?_, ?_⟩
  · constructor
    · intro accepted
      obtain ⟨_, built⟩ := accepted
      exact length_octets_le_iff.mp (personalizeCommand_eq_ok.mp built).1
    · intro fits
      exact ⟨_, personalizeCommand_eq_ok.mpr ⟨length_octets_le_iff.mpr fits, rfl⟩⟩
  · intro failure
    have overflows : 65535 < (Dgi.octets ⟨tag, value⟩).length ↔ 65531 ≤ value.length := by
      rw [← Nat.not_le, length_octets_le_iff]
      omega
    rw [Instruction.command, personalizeCommand_eq_error, overflows]
  · intro command built
    obtain ⟨frame, encoded⟩ := exists_encode_of_command built nofun
    refine ⟨frame, encoded, decode_of_command built encoded, ?_⟩
    obtain ⟨fits, rfl⟩ := personalizeCommand_eq_ok.mp built
    have counted : value.length ≤ 65535 := Nat.le_trans (Dgi.length_value_le ⟨tag, value⟩) fits
    have fits : ∀ dgi ∈ [Dgi.mk tag value], dgi.value.length ≤ 65535 :=
      List.forall_mem_singleton.mpr counted
    have whole := Dgi.leading_flatMap_octets fits
    rw [List.flatMap_singleton] at whole
    exact Dgi.decode_eq_ok.mpr whole

end BridgeTag.Applet.Instruction
