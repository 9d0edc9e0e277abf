import BridgeTag.Proofs.Ndef.Payload
import BridgeTag.Proofs.Text.Utf8

/-! Payloads of URI records. A payload is a code, any of them, and well-formed UTF-8; it is what its
record is written as, and no two payloads mean the same record. -/
namespace BridgeTag.Ndef.Uri

open Text.Utf8

variable {payload : Octets} {uri : Uri} {failure : Failure}

/-- A code, listed or reserved, and octets that spell a text. -/
def Legible (payload : Octets) : Prop := ∃ code rest, payload = code :: rest ∧ WellFormed rest

theorem decode_eq_ok_iff_encode : decode payload = .ok uri ↔ uri.encode = payload :=
  decode_eq_ok.trans eq_comm

/-- The text of a record is the characters that the octets behind the code spell. -/
theorem decode_eq_ok_iff_spells : decode payload = .ok uri ↔
    ∃ rest, payload = uri.code :: rest ∧ Spells rest (uri.rest.toList.map Char.toNat) := by
  simp only [decode_eq_ok, spells_toList_iff]
  constructor
  · intro written
    exact ⟨_, written, rfl⟩
  · intro spelled
    obtain ⟨rest, whole, rfl⟩ := spelled
    exact whole

theorem exists_decode_iff : (∃ uri, decode payload = .ok uri) ↔ Legible payload := by
  constructor
  · intro accepted
    obtain ⟨uri, decoded⟩ := accepted
    obtain ⟨rest, whole, spells⟩ := decode_eq_ok_iff_spells.mp decoded
    exact ⟨uri.code, rest, whole, _, spells⟩
  · intro legible
    obtain ⟨code, rest, rfl, wellFormed⟩ := legible
    obtain ⟨text, rfl⟩ := wellFormed_iff.mp wellFormed
    exact ⟨⟨code, text⟩, decode_eq_ok.mpr rfl⟩

theorem reason_of_decode (refused : decode payload = .error failure) :
    failure = ⟨.recordType, "decode", .illegalArgument⟩ := by
  unfold decode at refused
  split at refused
  next => exact (Except.error.inj refused).symm
  next =>
    split at refused
    next => cases refused
    next => exact (Except.error.inj refused).symm

theorem decode_eq_error : decode payload = .error failure ↔
    ¬Legible payload ∧ failure = ⟨.recordType, "decode", .illegalArgument⟩ := by
  rw [← exists_decode_iff]
  constructor
  · intro refused
    refine ⟨?_, reason_of_decode refused⟩
    rintro ⟨uri, decoded⟩
    rw [refused] at decoded
    cases decoded
  · intro refused
    obtain ⟨illegible, rfl⟩ := refused
    cases outcome : decode payload with
    | ok uri => exact absurd ⟨uri, outcome⟩ illegible
    | error failure => rw [reason_of_decode outcome]

/-- Decoding accepts a code and well-formed UTF-8 behind it, whatever the code, and takes the
characters that are spelled there; anything else, the empty payload too, is an illegal argument. It
accepts a payload as the record that is written so, and therefore gives every record back. -/
theorem decode_legible :
    (∀ payload : Octets, ((∃ uri, decode payload = .ok uri) ↔ Legible payload) ∧
      (∀ failure, decode payload = .error failure ↔
        ¬Legible payload ∧ failure = ⟨.recordType, "decode", .illegalArgument⟩) ∧
      ∀ uri : Uri, (decode payload = .ok uri ↔ uri.encode = payload) ∧
        (decode payload = .ok uri ↔ ∃ rest, payload = uri.code :: rest ∧
          Spells rest (uri.rest.toList.map Char.toNat))) ∧
    ∀ uri : Uri, decode uri.encode = .ok uri := by
  refine ⟨fun payload => ⟨exists_decode_iff, fun _ => decode_eq_error, fun uri => ?_⟩, ?_⟩
  · exact ⟨decode_eq_ok_iff_encode, decode_eq_ok_iff_spells⟩
  · intro uri
    exact decode_eq_ok_iff_encode.mpr rfl

/-- Under a reserved code two octets spell one character; the overlong form of a slash and a
surrogate spell none. -/
example : decode [0xFF, 0xC3, 0xA9] = .ok ⟨0xFF, "é"⟩ ∧
    decode [0x00, 0xC0, 0xAF] = .error ⟨.recordType, "decode", .illegalArgument⟩ ∧
    decode [0x00, 0xED, 0xA0, 0x80] = .error ⟨.recordType, "decode", .illegalArgument⟩ := by
  decide +kernel

end BridgeTag.Ndef.Uri
