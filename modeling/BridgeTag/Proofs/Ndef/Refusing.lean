import BridgeTag.Proofs.Ndef.Handover

/-! When encoding fails, and why. The failure of a record is that of the message it stands in and of
the record around it, unchanged; of several records the first one counts. -/
namespace BridgeTag.Ndef

/-- The first of the records that are not encoded fails in this way. -/
def Record.FirstRefused (records : List Record) (failure : Failure) : Prop :=
  ∃ before record after, records = before ++ record :: after ∧
    (∀ earlier ∈ before, ∃ octets, earlier.encode = .ok octets) ∧ record.encode = .error failure

/-- Why a body has no payload. A handover select is judged itself before its records are. -/
inductive RecordBody.Refused : RecordBody → Failure → Prop
  | external : Refused (.external ⟨none⟩) ⟨.recordType, "encode", .invalidState⟩
  | brandProtection : Refused (.brandProtection ⟨none⟩) ⟨.recordType, "encode", .invalidState⟩
  | alternativeCarrier {carrier : AlternativeCarrier} (oversized : carrier.Oversized) :
      Refused (.alternativeCarrier carrier) ⟨.recordType, "encode", .illegalArgument⟩
  | handoverSelect {select : HandoverSelect} (invalid : ¬ select.Valid) :
      Refused (.handoverSelect select) ⟨.recordType, "encode", .illegalArgument⟩
  | localRecord {select : HandoverSelect} {failure : Failure} (valid : select.Valid)
      (first : Record.FirstRefused select.records failure) :
      Refused (.handoverSelect select) failure

/-- Why a record has no frame. Type and identifier are judged before the body, the body before the
length of its payload. -/
inductive Record.Refused (record : Record) : Failure → Prop
  | label (long : 255 < record.type.length ∨ 255 < record.id.length) :
      Refused record ⟨.record, "encode", .illegalArgument⟩
  | body {failure : Failure} (type : record.type.length ≤ 255) (id : record.id.length ≤ 255)
      (refused : record.body.encode = .error failure) : Refused record failure
  | payload {payload : Octets} (type : record.type.length ≤ 255) (id : record.id.length ≤ 255)
      (encoded : record.body.encode = .ok payload) (long : 4294967295 < payload.length) :
      Refused record ⟨.record, "encode", .illegalArgument⟩

/-- The octets of a record that stands in no message: every flag but the one for a short payload and
the one for an identifier is clear, and there are no octets besides those of the fields. -/
structure Record.FramedAlone (record : Record) (payload octets : Octets) : Prop where
  header : octets.head?.map Header.ofOctet = some {
    begins := false
    ends := false
    chunked := false
    short := payload.length ≤ 255
    identified := record.id ≠ []
    tnf := record.tnf }
  length : octets.length = 2 + (if payload.length ≤ 255 then 1 else 4) +
    (if record.id = [] then 0 else 1) + record.type.length + record.id.length + payload.length
  content : record.type ++ record.id ++ payload <:+ octets

variable {record : Record} {records : List Record} {frame : Frame} {body : RecordBody}
  {octets : Octets} {failure : Failure}

theorem Record.frames_eq_error_iff :
    Record.frames records = .error failure ↔ Record.FirstRefused records failure := by
  rw [frames_eq_error, FirstRefused]
  simp only [exists_encode, encode_eq_error]

theorem RecordBody.encode_handoverSelect_eq_error {select : HandoverSelect} :
    (RecordBody.handoverSelect select).encode = .error failure ↔
      (¬ select.Valid ∧ failure = ⟨.recordType, "encode", .illegalArgument⟩) ∨
        (select.Valid ∧ Record.frames select.records = .error failure) := by
  rw [← HandoverSelect.valid_iff]
  rcases select with ⟨major, minor, records⟩
  rw [RecordBody.encode]
  split
  next valid => cases Record.frames records <;> simp [valid]
  next invalid => simp [invalid, eq_comm]

theorem RecordBody.encode_eq_error : body.encode = .error failure ↔ body.Refused failure := by
  constructor
  · intro refused
    cases body with
    | uri | error | generic => cases refused
    | external value =>
      rcases value with ⟨_ | payload⟩ <;> cases refused
      exact .external
    | brandProtection value =>
      rcases value with ⟨_ | payload⟩ <;> cases refused
      exact .brandProtection
    | alternativeCarrier carrier =>
      obtain ⟨oversized, rfl⟩ := AlternativeCarrier.encode_eq_error.mp refused
      exact .alternativeCarrier oversized
    | handoverSelect select =>
      rcases encode_handoverSelect_eq_error.mp refused with ⟨invalid, rfl⟩ | ⟨valid, failed⟩
      · exact .handoverSelect invalid
      · exact .localRecord valid (Record.frames_eq_error_iff.mp failed)
  · intro refused
    cases refused with
    | external | brandProtection => rfl
    | alternativeCarrier oversized =>
      exact AlternativeCarrier.encode_eq_error.mpr ⟨oversized, rfl⟩
    | handoverSelect invalid => exact encode_handoverSelect_eq_error.mpr (.inl ⟨invalid, rfl⟩)
    | localRecord valid first =>
      have failed := Record.frames_eq_error_iff.mpr first
      exact encode_handoverSelect_eq_error.mpr (.inr ⟨valid, failed⟩)

namespace Record

theorem frame_eq_error : record.frame = .error failure ↔ record.Refused failure := by
  rw [frame_eq]
  by_cases long : 255 < record.type.length ∨ 255 < record.id.length
  · rw [if_pos long]
    constructor
    · intro refused
      cases refused
      exact .label long
    · intro refused
      cases refused with
      | label => rfl
      | body type id | payload type id => omega
  · rw [if_neg long]
    obtain ⟨type, id⟩ : record.type.length ≤ 255 ∧ record.id.length ≤ 255 := by omega
    constructor
    · intro refused
      split at refused
      next payload encoded =>
        split at refused
        next huge =>
          cases refused
          exact .payload type id encoded huge
        next => cases refused
      next encoded =>
        cases refused
        exact .body type id encoded
    · intro refused
      cases refused with
      | label tooLong => exact absurd tooLong long
      | body _ _ refused => rw [refused]
      | payload _ _ encoded huge =>
        rw [encoded]
        dsimp only
        rw [if_pos huge]

/-- What the octets of a record on its own look like. -/
theorem framedAlone_of_encode (encoded : record.encode = .ok octets) :
    ∃ payload, record.body.encode = .ok payload ∧ record.FramedAlone payload octets := by
  obtain ⟨frame, framed, rfl⟩ := encode_eq_ok.mp encoded
  obtain ⟨body, _, tnf, type, id⟩ := frame_eq_ok.mp framed
  have named : (!frame.id.isEmpty) = decide (frame.id ≠ []) := by
    cases frame.id <;> rfl
  refine ⟨frame.payload, body, ?_, ?_, ?_⟩
  · rw [← tnf, ← id, ← named]
    exact congrArg some (Header.ofOctet_octet (frame.header false false))
  · rw [Frame.octets_eq_spelling, Frame.length_spelling, ← type, ← id]
    simp only [Frame.header, named, decide_eq_true_eq, ne_eq, ite_not]
  · rw [← type, ← id, Frame.octets]
    simp only [List.append_assoc]
    exact (List.suffix_append _ _).trans (List.suffix_append _ _)

end Record

/-- When encoding fails and with what. A message fails as the first of its records that fails; a
record for a long type or identifier, for its body, or for a long payload, in this order; a body for
what is missing, too long or out of place in it, or as the first of its local records that fails.
A record that is encoded alone is marked for no place in a message, and takes no octet more than the
fields need. -/
theorem Message.encode_eq_error_iff_refused :
    (∀ records failure,
      encode records = .error failure ↔ Record.FirstRefused records failure) ∧
    (∀ (record : Record) failure, record.encode = .error failure ↔ record.Refused failure) ∧
    (∀ (body : RecordBody) failure, body.encode = .error failure ↔ body.Refused failure) ∧
    ∀ (record : Record) octets, record.encode = .ok octets →
      ∃ payload, record.body.encode = .ok payload ∧ record.FramedAlone payload octets := by
  refine ⟨?_, ?_, ?_, ?_⟩
  · intro records failure
    rw [encode_eq_error, Record.frames_eq_error_iff]
  · intro record failure
    rw [Record.encode_eq_error, Record.frame_eq_error]
  · intro body failure
    exact RecordBody.encode_eq_error
  · intro record octets encoded
    exact Record.framedAlone_of_encode encoded

/-- Two errors inside the first record go before the missing payload of the second. -/
example : Message.encode [
    .ofHandoverSelect ⟨1, 2, [.ofError ⟨1, []⟩, .ofError ⟨2, []⟩]⟩,
    .ofExternal [0x61] ⟨none⟩] = .error ⟨.recordType, "encode", .illegalArgument⟩ := rfl

end BridgeTag.Ndef
