import BridgeTag.Proofs.Checked.Apdu
import BridgeTag.Proofs.Checked.Dgi
import BridgeTag.Proofs.Checked.Message
import BridgeTag.Proofs.Ndef.RoundTrip

/-! Decoders of octets that nothing is known about, with every access checked. Whatever the octets
are, no sum, difference, index, part or place leaves its bounds. -/
namespace BridgeTag

open Checked Apdu Ndef

/-- A run that comes to what decoding comes to halts at failures that decoding reports, and at no
access: the decoders of commands, responses, data groups, records and messages come to just that. -/
theorem Machine.checked_eq_decoded (machine : Machine) (octets : Octets)
    (holds : machine.Holds octets.length) :
    Command.checkedDecode machine octets = of (Command.decode octets) ∧
    Response.checkedDecode octets = of (Response.decode octets) ∧
    Response.checkedSplit octets = of (Response.split octets) ∧
    Dgi.checkedDecode machine octets = of (Dgi.decode octets) ∧
    (∀ entities capacity, Dgi.checkedDecodeInto machine octets entities capacity =
      (of (Dgi.decodeInto octets entities capacity).1,
        (Dgi.decodeInto octets entities capacity).2)) ∧
    Record.checkedDecode machine Registry.builtInKinds
        (Message.checkedDecode machine Registry.builtInKinds (octets.length / 4)) octets =
      of (Record.decode .builtIn octets) ∧
    Message.checkedDecode machine Registry.builtInKinds (octets.length / 4) octets =
      of (Message.decode .builtIn octets) := by
  have message (part : Octets) (shorter : part.length ≤ octets.length) :
      Message.checkedDecode machine Registry.builtInKinds (octets.length / 4) part =
        of (Message.decode .builtIn part) :=
    Message.checkedDecode_eq (holds.mono shorter) (by omega)
  have record : Record.checkedDecode machine Registry.builtInKinds
        (Message.checkedDecode machine Registry.builtInKinds (octets.length / 4)) octets =
      of (Record.decode .builtIn octets) := by
    apply Record.checkedDecode_eq holds
    intro part shorter
    exact message part (by omega)
  exact ⟨Command.checkedDecode_eq holds, Response.checkedDecode_eq octets,
    Response.checkedSplit_eq octets, Dgi.checkedDecode_eq holds,
    Dgi.checkedDecodeInto_eq holds, record, message octets (Nat.le_refl _)⟩

def Machine.selection : Octets := [0x00, 0xA4, 0x00, 0x0C, 0x02, 0xE1, 0x04, 0x10]

/-- A command on either machine, then a message with another inside, and its first record. -/
theorem Machine.checkedDecode_samples :
    word64.Holds selection.length ∧ word32.Holds selection.length ∧
    word64.Holds Message.handoverOctets.length ∧
    Command.checkedDecode word64 selection =
      .ok ⟨0x00, 0xA4, 0x00, 0x0C, [0xE1, 0x04], some (.exact 16)⟩ ∧
    Command.checkedDecode word32 selection =
      .ok ⟨0x00, 0xA4, 0x00, 0x0C, [0xE1, 0x04], some (.exact 16)⟩ ∧
    Record.checkedDecode word64 Registry.builtInKinds
        (Message.checkedDecode word64 Registry.builtInKinds 8) Message.handoverOctets =
      .ok (Message.handoverSample.head (List.cons_ne_nil _ _), 23) ∧
    Message.checkedDecode word64 Registry.builtInKinds 8 Message.handoverOctets =
      .ok Message.handoverSample := by
  have wide : word64.Holds selection.length := holds_word64 (by decide)
  have narrow : word32.Holds selection.length := holds_word32 (by decide)
  have holds : word64.Holds Message.handoverOctets.length := holds_word64 (by decide)
  obtain ⟨_, _, _, _, _, record, message⟩ := checked_eq_decoded word64 Message.handoverOctets holds
  rw [Message.decode_record_handoverOctets] at record
  rw [Message.decode_handoverOctets] at message
  exact ⟨wide, narrow, holds, (checked_eq_decoded word64 selection wide).1,
    (checked_eq_decoded word32 selection narrow).1, record, message⟩

end BridgeTag
