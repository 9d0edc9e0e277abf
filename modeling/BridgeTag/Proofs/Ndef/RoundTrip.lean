import BridgeTag.Proofs.Ndef.Dispatch
import BridgeTag.Proofs.Ndef.Encoding

/-! Decoding what was encoded. Under the built-in registry a message comes back as it was exactly
when its records are consistent, but for one message that reads as another. The handlers that turn
a brand-protection payload into certificates are no part of the record that is compared. -/
namespace BridgeTag.Ndef

variable {record : Record} {records : List Record} {frame : Frame} {frames : List Frame}
  {body : RecordBody} {payload octets : Octets} {begins : Bool}

/-- The octets of the message without records are those of the void record. -/
theorem Message.chained_empty_iff :
    Chained .builtIn true empty records ↔ records = [Record.void] := by
  constructor
  · intro chained
    rw [← List.append_nil empty] at chained
    obtain ⟨_, record, opened, alone⟩ := chained_empty chained
    rw [Frame.record_void] at opened
    cases opened
    exact alone
  · intro alone
    subst alone
    exact .last (fits_void true true) Frame.record_void rfl

namespace HandoverSelect

/-- A valid select record has versions that its version octet holds. -/
theorem ofVersion_version {select : HandoverSelect} (valid : select.valid = true) :
    ofVersion (RecordBody.version select) select.records = select := by
  have fit := valid_iff.mp valid
  rcases select with ⟨major, minor, records⟩
  have majorSmall : major.toNat ≤ 15 := fit.major
  have minorSmall : minor.toNat ≤ 15 := fit.minor
  simp only [ofVersion, RecordBody.version, HandoverSelect.mk.injEq, and_true]
  constructor <;> apply UInt8.toNat_inj.mp <;> simp only [UInt8.toNat_ofNat'] <;> omega

theorem version_ofVersion (version : UInt8) (records : List Record) :
    RecordBody.version (ofVersion version records) = version := by
  have := version.toNat_lt
  apply UInt8.toNat_inj.mp
  simp only [ofVersion, RecordBody.version, UInt8.toNat_ofNat']
  omega

/-- Nothing in a valid select record is void. -/
theorem records_ne_void {select : HandoverSelect} (valid : select.valid = true) :
    select.records ≠ [Record.void] := by
  intro same
  have kind := (valid_iff.mp valid).admits.kinds Record.void (by simp [same])
  simp [Record.void, RecordBody.kind] at kind

end HandoverSelect

/-- Decoding as the body's own kind reads back what the body wrote. -/
theorem RecordBody.decode_encode (encoded : body.encode = .ok payload)
    (inside : ∀ select frames, body = .handoverSelect select →
      Record.frames select.records = .ok frames → frames ≠ [] → select.valid = true →
        Message.decode .builtIn (Message.chain true frames) = .ok select.records) :
    body.kind.decoder payload (fun message _ => Message.decode .builtIn message) = .ok body := by
  cases body with
  | uri value =>
    rw [RecordBody.encode, Except.ok.injEq] at encoded
    simp only [kind, BodyKind.decoder, Decoder.uri_eq_ok]
    exact ⟨value, encoded.symm, rfl⟩
  | handoverSelect select =>
    obtain ⟨valid, frames, framed, rfl⟩ := encode_handoverSelect.mp encoded
    simp only [kind, BodyKind.decoder, Decoder.handoverSelect_eq_ok]
    refine ⟨version select, Message.chain true frames, select.records, rfl, ?_, ?_, ?_⟩
    · by_cases nothing : frames = []
      · subst nothing
        exact .inl ⟨rfl, Record.frames_nil.mp framed⟩
      · exact .inr ⟨Message.chain_ne_nil nothing, inside select frames rfl framed nothing valid⟩
    · rw [HandoverSelect.ofVersion_version valid]
      exact valid
    · rw [HandoverSelect.ofVersion_version valid]
  | alternativeCarrier value =>
    rw [RecordBody.encode] at encoded
    simp only [kind, BodyKind.decoder, Decoder.alternativeCarrier_eq_ok]
    exact ⟨value, AlternativeCarrier.decode_encode encoded, rfl⟩
  | error value =>
    rw [RecordBody.encode, Except.ok.injEq] at encoded
    simp only [kind, BodyKind.decoder, Decoder.handoverError_eq_ok]
    exact ⟨value, encoded.symm, rfl⟩
  | external value =>
    rw [RecordBody.encode] at encoded
    rcases value with ⟨_ | found⟩ <;> cases encoded
    rfl
  | brandProtection value =>
    rw [RecordBody.encode] at encoded
    rcases value with ⟨_ | found⟩ <;> cases encoded
    rfl
  | generic value =>
    rw [RecordBody.encode, Except.ok.injEq] at encoded
    rw [encoded]
    rfl

theorem Record.records_of_frames (framed : Record.frames records = .ok frames)
    (opened : ∀ record ∈ records, ∀ frame, record.frame = .ok frame →
      frame.record .builtIn = .ok record) :
    List.Forall₂ (fun record frame => frame.Sized ∧ frame.record .builtIn = .ok record)
      records frames := by
  have each := Record.frames_eq_ok.mp framed
  clear framed
  induction each with
  | nil => exact .nil
  | cons first later ih =>
    simp only [List.mem_cons, forall_eq_or_imp] at opened
    exact .cons ⟨(Record.frame_eq_ok.mp first).2.1, opened.1 _ first⟩ (ih opened.2)

/-- The frame of a consistent record holds that record. -/
theorem Record.record_of_frame (consistent : record.Consistent) (framed : record.frame = .ok frame) :
    frame.record .builtIn = .ok record := by
  induction consistent generalizing frame with
  | @intro record dispatched inside ih =>
    obtain ⟨encoded, sized, tnf, type, id⟩ := frame_eq_ok.mp framed
    rw [Frame.record_builtIn, ← dispatched]
    refine ⟨RecordBody.decode_encode encoded ?_, tnf, type, id⟩
    intro select frames same framed nonempty valid
    have opened := records_of_frames framed fun part member frame => ih select same part member
    have chained : Message.Chained .builtIn true (Message.chain true frames) select.records :=
      Message.chained_chain nonempty opened
    refine Message.decode_eq_ok.mpr (.inr ⟨?_, chained⟩)
    intro empty
    rw [empty, Message.chained_empty_iff] at chained
    exact HandoverSelect.records_ne_void valid chained

/-- A consistent record that is encoded on its own is decoded again, to the last octet. -/
theorem Record.decode_of_encode (consistent : record.Consistent) (encoded : record.encode = .ok octets) :
    decode .builtIn octets = .ok (record, octets.length) := by
  obtain ⟨frame, framed, rfl⟩ := encode_eq_ok.mp encoded
  have opened := record_of_frame consistent framed
  have sized := (frame_eq_ok.mp framed).2.1
  rw [Frame.octets_eq_spelling]
  refine decode_eq_ok.mpr ⟨_, frame, [], sized.fits false false, opened, ?_, rfl⟩
  rw [List.append_nil]

namespace Message

@[simp] theorem encode_void : encode [Record.void] = .ok empty := rfl

@[simp] theorem decode_empty (registry : Registry) : decode registry empty = .ok [] :=
  decode_eq_ok.mpr (.inl ⟨rfl, rfl⟩)

theorem decode_of_encode (encoded : encode records = .ok octets)
    (consistent : ∀ record ∈ records, record.Consistent) (differ : records ≠ [Record.void]) :
    decode .builtIn octets = .ok records := by
  obtain ⟨frames, framed, rfl⟩ := encode_eq_ok.mp encoded
  by_cases nothing : frames = []
  · subst nothing
    rw [Record.frames_nil.mp framed]
    exact decode_empty _
  · rw [octets_of_ne_nil nothing]
    have opened := Record.records_of_frames framed fun record member frame =>
      Record.record_of_frame (consistent record member)
    have chained : Chained .builtIn true (chain true frames) records :=
      chained_chain nothing opened
    refine decode_eq_ok.mpr (.inr ⟨?_, chained⟩)
    intro same
    rw [same, chained_empty_iff] at chained
    exact differ chained

/-- A handover select with both kinds of record inside, then a URI with an identifier. -/
def handoverSample : List Record := [
  .ofHandoverSelect ⟨1, 2, [.ofAlternativeCarrier ⟨.active, [0x30], []⟩, .ofError ⟨1, [0x10]⟩]⟩,
  (Record.ofUri ⟨5, "+1"⟩).withId [0x69]]

def handoverOctets : Octets := [
  0x91, 0x02, 0x12, 0x48, 0x73, 0x12,
  0x91, 0x02, 0x04, 0x61, 0x63, 0x01, 0x01, 0x30, 0x00,
  0x51, 0x03, 0x02, 0x65, 0x72, 0x72, 0x01, 0x10,
  0x59, 0x01, 0x03, 0x01, 0x55, 0x69, 0x05, 0x2B, 0x31]

theorem encode_handoverSample : encode handoverSample = .ok handoverOctets := rfl

theorem consistent_handoverSample : ∀ record ∈ handoverSample, record.Consistent := by
  intro record member
  simp only [handoverSample, List.mem_cons, List.not_mem_nil, or_false] at member
  rcases member with rfl | rfl
  · refine .intro rfl ?_
    intro select same part inside
    cases same
    simp only [List.mem_cons, List.not_mem_nil, or_false] at inside
    rcases inside with rfl | rfl <;> exact Record.consistent_of_flat rfl (by decide)
  · exact Record.consistent_of_flat rfl (by decide)

def selectFrame : Frame where
  tnf := .wellKnown
  type := HandoverSelect.type
  id := []
  payload := (handoverOctets.take 23).drop 5

def linkFrame : Frame where
  tnf := .wellKnown
  type := Uri.type
  id := [0x69]
  payload := [0x05, 0x2B, 0x31]

theorem fits_selectFrame (begins ends : Bool) : selectFrame.Fits (selectFrame.header begins ends) :=
  Frame.fits_header (by decide) (by decide) (by decide) begins ends

theorem fits_linkFrame (begins ends : Bool) : linkFrame.Fits (linkFrame.header begins ends) :=
  Frame.fits_header (by decide) (by decide) (by decide) begins ends

theorem record_selectFrame : selectFrame.record .builtIn =
    .ok (handoverSample.head (List.cons_ne_nil _ _)) :=
  Record.record_of_frame (consistent_handoverSample _ List.mem_cons_self) rfl

theorem record_linkFrame : linkFrame.record .builtIn =
    .ok (handoverSample.getLast (List.cons_ne_nil _ _)) :=
  Record.record_of_frame (consistent_handoverSample _ (List.mem_cons_of_mem _ List.mem_cons_self)) rfl

theorem decode_handoverOctets : decode .builtIn handoverOctets = .ok handoverSample :=
  decode_of_encode encode_handoverSample consistent_handoverSample (by decide)

theorem decode_record_handoverOctets : Record.decode .builtIn handoverOctets =
    .ok (handoverSample.head (List.cons_ne_nil _ _), 23) :=
  Record.decode_eq_ok.mpr ⟨_, selectFrame, handoverOctets.drop 23, fits_selectFrame true false,
    record_selectFrame, by decide, by decide⟩

/-- Under the built-in registry an encoded message is decoded to the records it was made of
exactly when they are consistent and are not the void record alone, whose octets are those of the
message without records. -/
theorem decode_encode_iff (encoded : encode records = .ok octets) :
    (decode .builtIn octets = .ok records ↔
      (∀ record ∈ records, record.Consistent) ∧ records ≠ [Record.void]) ∧
    (records = [Record.void] → octets = empty ∧ decode .builtIn octets = .ok []) := by
  have ofVoid : records = [Record.void] → octets = empty := by
    intro void
    rw [void, encode_void] at encoded
    exact (Except.ok.inj encoded).symm
  refine ⟨⟨fun decoded => ⟨consistent_of_decode decoded, ?_⟩, ?_⟩, ?_⟩
  · intro void
    rw [ofVoid void, decode_empty, void] at decoded
    cases decoded
  · intro kept
    obtain ⟨consistent, differ⟩ := kept
    exact decode_of_encode encoded consistent differ
  · intro void
    rw [ofVoid void]
    exact ⟨rfl, decode_empty _⟩

theorem decode_encode_handoverSample : encode handoverSample = .ok handoverOctets ∧
    decode .builtIn handoverOctets = .ok handoverSample :=
  ⟨encode_handoverSample, (decode_encode_iff encode_handoverSample).1.mpr
    ⟨consistent_handoverSample, by decide⟩⟩

end Message
end BridgeTag.Ndef
