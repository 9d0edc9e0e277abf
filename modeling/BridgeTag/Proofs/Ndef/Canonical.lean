import BridgeTag.Proofs.Ndef.RoundTrip

/-! Encoding what was decoded. It always succeeds, never takes more octets, and gives the same
octets back exactly when these are canonical, that is spelled as the encoder spells them. -/
namespace BridgeTag.Ndef

mutual

/-- All records are spelled as shortly as they can be: the short payload length is used where it
will do, an identifier length stands only before an identifier, and the payloads are canonical. -/
inductive Message.Canonical : Octets → Prop
  | done : Message.Canonical []
  | record {header : Header} {frame : Frame} {rest : Octets} (fits : frame.Fits header)
      (short : header.short = true ↔ frame.payload.length ≤ 255)
      (identified : header.identified = true ↔ frame.id ≠ [])
      (payload : Frame.Canonical frame) (later : Message.Canonical rest) :
      Message.Canonical (frame.spelling header ++ rest)

/-- An alternative carrier leaves its reserved bits clear; a handover select has nothing after its
version or a canonical message, but not the one without records. -/
inductive Frame.Canonical : Frame → Prop
  | intro {frame : Frame}
      (carrier : frame.tnf = .wellKnown → frame.type = AlternativeCarrier.type →
        ∃ first rest, frame.payload = first :: rest ∧ first < 4)
      (version : frame.tnf = .wellKnown → frame.type = HandoverSelect.type → frame.payload ≠ [])
      (occupied : frame.tnf = .wellKnown → frame.type = HandoverSelect.type →
        ∀ version message, frame.payload = version :: message → message ≠ Message.empty)
      (inside : frame.tnf = .wellKnown → frame.type = HandoverSelect.type →
        ∀ version message, frame.payload = version :: message → Message.Canonical message) :
      Frame.Canonical frame

end

variable {header : Header} {frame : Frame} {record : Record} {records : List Record}
  {body : RecordBody} {octets payload rest : Octets} {begins : Bool}

namespace Frame

/-- A header is the encoder's own when both its choices are the shortest. -/
theorem header_eq_iff (fits : frame.Fits header) :
    frame.header header.begins header.ends = header ↔
      (header.short = true ↔ frame.payload.length ≤ 255) ∧
        (header.identified = true ↔ frame.id ≠ []) := by
  have tnf := fits.tnf
  have whole := fits.whole
  rcases header with ⟨begins, ends, chunked, short, identified, format⟩
  simp only at tnf whole
  simp only [Frame.header, Header.mk.injEq, tnf, whole, true_and, and_true]
  cases short <;> cases identified <;> simp

def withPayload (frame : Frame) (payload : Octets) : Frame := { frame with payload := payload }

@[simp] theorem withPayload_type : (frame.withPayload payload).type = frame.type := rfl

@[simp] theorem withPayload_id : (frame.withPayload payload).id = frame.id := rfl

@[simp] theorem withPayload_payload : (frame.withPayload payload).payload = payload := rfl

theorem Fits.sized_withPayload (fits : frame.Fits header)
    (shorter : payload.length ≤ frame.payload.length) : (frame.withPayload payload).Sized :=
  ⟨fits.sized.type, fits.sized.id, Nat.le_trans shorter fits.sized.payload⟩

/-- The encoder never spells a frame longer than it was read. -/
theorem length_octets_withPayload (fits : frame.Fits header)
    (shorter : payload.length ≤ frame.payload.length) :
    ((frame.withPayload payload).octets header.begins header.ends).length ≤
      (frame.spelling header).length := by
  have payloadBound := fits.payload
  have idBound := fits.id
  have lengthField : (if ((frame.withPayload payload).header header.begins header.ends).short
      then 1 else 4) ≤ if header.short then 1 else 4 := by
    cases short : header.short with
    | false => split <;> simp
    | true =>
      rw [short] at payloadBound
      have small : payload.length ≤ 255 := Nat.le_trans shorter payloadBound
      simp [Frame.header, small]
  have idField : (if ((frame.withPayload payload).header header.begins header.ends).identified
      then 1 else 0) ≤ if header.identified then 1 else 0 := by
    cases identified : header.identified with
    | false =>
      rw [identified] at idBound
      have none : frame.id = [] := List.eq_nil_of_length_eq_zero (Nat.le_zero.mp idBound)
      simp [Frame.header, none]
    | true => split <;> simp
  rw [octets_eq_spelling, length_spelling, length_spelling, withPayload_type, withPayload_id,
    withPayload_payload]
  omega

/-- The encoder spells a frame as it was read exactly when nothing was left to choose. -/
theorem octets_withPayload_eq_iff (fits : frame.Fits header)
    (shorter : payload.length ≤ frame.payload.length) :
    (frame.withPayload payload).octets header.begins header.ends = frame.spelling header ↔
      (header.short = true ↔ frame.payload.length ≤ 255) ∧
        (header.identified = true ↔ frame.id ≠ []) ∧ payload = frame.payload := by
  have fits' := (fits.sized_withPayload shorter).fits header.begins header.ends
  rw [octets_eq_spelling, ← and_assoc, ← header_eq_iff fits]
  constructor
  · intro same
    rw [← List.append_nil (spelling _ _), ← List.append_nil (spelling frame _)] at same
    obtain ⟨headers, frames, _⟩ := spelling_inj fits' fits same
    rw [frames] at headers
    exact ⟨headers, congrArg Frame.payload frames⟩
  · intro same
    obtain ⟨headers, payloads⟩ := same
    subst payloads
    exact congrArg frame.spelling headers

theorem canonical_iff : Frame.Canonical frame ↔
    (BodyKind.ofType frame.tnf frame.type = .alternativeCarrier →
      ∃ first rest, frame.payload = first :: rest ∧ first < 4) ∧
    (BodyKind.ofType frame.tnf frame.type = .handoverSelect →
      ∃ version message, frame.payload = version :: message ∧ message ≠ Message.empty ∧
        Message.Canonical message) := by
  rw [BodyKind.ofType_eq_alternativeCarrier, BodyKind.ofType_eq_handoverSelect]
  constructor
  · intro canonical
    cases canonical with
    | intro carrier version occupied inside =>
      refine ⟨fun kind => carrier kind.1 kind.2, fun kind => ?_⟩
      obtain ⟨first, message, same⟩ := List.exists_cons_of_ne_nil (version kind.1 kind.2)
      exact ⟨first, message, same, occupied kind.1 kind.2 first message same,
        inside kind.1 kind.2 first message same⟩
  · intro canonical
    obtain ⟨carrier, select⟩ := canonical
    have opened (tnf : frame.tnf = .wellKnown) (type : frame.type = HandoverSelect.type) :
        frame.payload ≠ [] ∧ ∀ version message, frame.payload = version :: message →
          message ≠ Message.empty ∧ Message.Canonical message := by
      obtain ⟨first, message, same, occupied, inside⟩ := select ⟨tnf, type⟩
      rw [same]
      refine ⟨List.cons_ne_nil _ _, ?_⟩
      intro _ _ same'
      cases same'
      exact ⟨occupied, inside⟩
    apply Frame.Canonical.intro
    · exact fun tnf type => carrier ⟨tnf, type⟩
    · exact fun tnf type => (opened tnf type).1
    · exact fun tnf type version message same => ((opened tnf type).2 version message same).1
    · exact fun tnf type version message same => ((opened tnf type).2 version message same).2

end Frame

namespace Message

theorem canonical_spelling (fits : frame.Fits header) :
    Message.Canonical (frame.spelling header ++ rest) ↔
      ((header.short = true ↔ frame.payload.length ≤ 255) ∧
        (header.identified = true ↔ frame.id ≠ []) ∧ Frame.Canonical frame) ∧
          Message.Canonical rest := by
  constructor
  · intro canonical
    generalize same : frame.spelling header ++ rest = octets at canonical
    cases canonical with
    | done => simp [Frame.spelling] at same
    | record fits' short identified payload later =>
      obtain ⟨rfl, rfl, rfl⟩ := Frame.spelling_inj fits fits' same
      exact ⟨⟨short, identified, payload⟩, later⟩
  · intro canonical
    obtain ⟨⟨short, identified, payload⟩, later⟩ := canonical
    exact .record fits short identified payload later

def Restated (octets : Octets) (records : List Record) : Prop :=
  ∃ octets', encode records = .ok octets' ∧ octets'.length ≤ octets.length ∧
    (octets' = octets ↔ Message.Canonical octets)

end Message

/-- An alternative carrier loses the reserved bits of its first octet, and only these. -/
theorem AlternativeCarrier.encode_eq_ok_of_decode {carrier : AlternativeCarrier}
    (decoded : AlternativeCarrier.decode octets = .ok carrier) :
    ∃ payload, carrier.encode = .ok payload ∧ payload.length ≤ octets.length ∧
      (payload = octets ↔ ∃ first rest, octets = first :: rest ∧ first < 4) := by
  obtain ⟨first, rest, rfl, state, encoded⟩ := AlternativeCarrier.decode_eq_ok.mp decoded
  refine ⟨carrier.powerState.code :: rest, encoded, Nat.le_refl _, ?_⟩
  rw [← state]
  simp [PowerState.code_ofOctet_eq_iff]

/-- A handover select keeps its version, and its message is written again, but for the one without
records, which is left out. -/
theorem RecordBody.encode_of_decode_handoverSelect
    (decoded : Decoder.handoverSelect octets (fun message _ => Message.decode .builtIn message) =
      .ok body)
    (restated : ∀ message records, message.length < octets.length →
      Message.decode .builtIn message = .ok records → Message.Restated message records) :
    ∃ payload, body.encode = .ok payload ∧ payload.length ≤ octets.length ∧
      (payload = octets ↔ ∃ version message, octets = version :: message ∧
        message ≠ Message.empty ∧ Message.Canonical message) := by
  obtain ⟨version, message, records, rfl, found, valid, rfl⟩ :=
    Decoder.handoverSelect_eq_ok.mp decoded
  have written (frames : List Frame) (framed : Record.frames records = .ok frames) :
      (RecordBody.handoverSelect (.ofVersion version records)).encode =
        .ok (version :: Message.chain true frames) := by
    rw [RecordBody.encode_handoverSelect, HandoverSelect.version_ofVersion]
    exact ⟨valid, frames, framed, rfl⟩
  rcases found with ⟨rfl, rfl⟩ | ⟨further, found⟩
  · refine ⟨[version], written [] rfl, Nat.le_refl _, ?_⟩
    simp [Message.empty, Message.Canonical.done]
  · obtain ⟨payload, encoded, shorter, same⟩ :=
      restated message records (Nat.lt_succ_self _) found
    obtain ⟨frames, framed, rfl⟩ := Message.encode_eq_ok.mp encoded
    rcases Message.decode_eq_ok.mp found with ⟨rfl, rfl⟩ | ⟨occupied, chained⟩
    · exact ⟨[version], written [] rfl, by simp, by simp [Message.empty]⟩
    · have nonempty : frames ≠ [] := by
        intro nothing
        rw [nothing, Record.frames_nil] at framed
        exact Message.ne_nil_of_chained chained framed
      rw [Message.octets_of_ne_nil nonempty] at shorter same
      refine ⟨_, written frames framed, Nat.succ_le_succ shorter, ?_⟩
      simp [same, occupied]

/-- Encoding a decoded body, given what encoding makes of the message inside it. -/
theorem Frame.encode_of_record (opened : frame.record .builtIn = .ok record)
    (restated : ∀ message records, message.length < frame.payload.length →
      Message.decode .builtIn message = .ok records → Message.Restated message records) :
    ∃ payload, record.body.encode = .ok payload ∧ payload.length ≤ frame.payload.length ∧
      (payload = frame.payload ↔ Frame.Canonical frame) := by
  obtain ⟨decoded, tnf, type, _⟩ := Frame.record_builtIn.mp opened
  rw [← tnf, ← type] at decoded
  rw [Frame.canonical_iff]
  cases kind : BodyKind.ofType frame.tnf frame.type with
  | uri =>
    simp only [kind, BodyKind.decoder, Decoder.uri_eq_ok] at decoded
    obtain ⟨value, payload, body⟩ := decoded
    exact ⟨frame.payload, by rw [body, RecordBody.encode, payload], Nat.le_refl _, by simp⟩
  | error =>
    simp only [kind, BodyKind.decoder, Decoder.handoverError_eq_ok] at decoded
    obtain ⟨value, payload, body⟩ := decoded
    exact ⟨frame.payload, by rw [body, RecordBody.encode, payload], Nat.le_refl _, by simp⟩
  | external | brandProtection | generic =>
    rw [kind] at decoded
    have body := Except.ok.inj decoded
    exact ⟨frame.payload, by rw [← body]; rfl, Nat.le_refl _, by simp⟩
  | alternativeCarrier =>
    simp only [kind, BodyKind.decoder, Decoder.alternativeCarrier_eq_ok] at decoded
    obtain ⟨value, decoded, body⟩ := decoded
    simp only [body, RecordBody.encode, true_implies, reduceCtorEq, false_implies, and_true]
    exact AlternativeCarrier.encode_eq_ok_of_decode decoded
  | handoverSelect =>
    rw [kind] at decoded
    simp only [true_implies, reduceCtorEq, false_implies, true_and]
    exact RecordBody.encode_of_decode_handoverSelect decoded restated

/-- Encoding a decoded record, given what encoding makes of the message inside it. -/
theorem Frame.frame_of_record (fits : frame.Fits header) (opened : frame.record .builtIn = .ok record)
    (restated : ∀ message records, message.length < (frame.spelling header).length →
      Message.decode .builtIn message = .ok records → Message.Restated message records) :
    ∃ frame', record.frame = .ok frame' ∧
      (frame'.octets header.begins header.ends).length ≤ (frame.spelling header).length ∧
      (frame'.octets header.begins header.ends = frame.spelling header ↔
        (header.short = true ↔ frame.payload.length ≤ 255) ∧
          (header.identified = true ↔ frame.id ≠ []) ∧ Frame.Canonical frame) := by
  have payloadBound : frame.payload.length < (frame.spelling header).length := by
    rw [length_spelling]
    omega
  obtain ⟨payload, encoded, shorter, same⟩ := encode_of_record opened
    fun message records inside => restated message records (Nat.lt_trans inside payloadBound)
  obtain ⟨_, tnf, type, id⟩ := Frame.record_eq_ok.mp opened
  have framed : record.frame = .ok (frame.withPayload payload) :=
    Record.frame_eq_ok.mpr ⟨encoded, fits.sized_withPayload shorter, tnf, type, id⟩
  refine ⟨frame.withPayload payload, framed, length_octets_withPayload fits shorter, ?_⟩
  rw [octets_withPayload_eq_iff fits shorter, same]

theorem append_eq_append_iff_of_le {front front' back back' : Octets}
    (fronts : front'.length ≤ front.length) (backs : back'.length ≤ back.length) :
    front' ++ back' = front ++ back ↔ front' = front ∧ back' = back := by
  constructor
  · intro same
    have total := congrArg List.length same
    simp only [List.length_append] at total
    exact List.append_inj same (by omega)
  · intro same
    obtain ⟨rfl, rfl⟩ := same
    rfl

namespace Message

theorem canonical_empty : Message.Canonical empty := by
  rw [empty_eq_spelling, ← List.append_nil (Frame.spelling _ _), canonical_spelling (fits_void _ _)]
  refine ⟨⟨by decide, by decide, Frame.canonical_iff.mpr ⟨?_, ?_⟩⟩, .done⟩ <;> intro kind <;> cases kind

/-- Encoding the records of a run, given what encoding makes of the messages inside them. -/
theorem encode_of_chained (chained : Chained .builtIn begins octets records)
    (restated : ∀ message records, message.length < octets.length →
      decode .builtIn message = .ok records → Restated message records) :
    ∃ frames, Record.frames records = .ok frames ∧ frames ≠ [] ∧
      (chain begins frames).length ≤ octets.length ∧
      (chain begins frames = octets ↔ Message.Canonical octets) := by
  induction chained with
  | @last header frame record fits opened ends =>
    obtain ⟨frame', framed, shorter, same⟩ := Frame.frame_of_record fits opened restated
    rw [ends] at shorter same
    refine ⟨[frame'], Record.frames_eq_ok.mpr (.cons framed .nil), List.cons_ne_nil _ _, shorter, ?_⟩
    rw [← List.append_nil (frame.spelling header), canonical_spelling fits, List.append_nil]
    exact same.trans ⟨fun first => ⟨first, .done⟩, And.left⟩
  | @more header frame record rest records fits opened ends later ih =>
    simp only [List.length_append] at restated
    obtain ⟨frame', framed, shorter, same⟩ := Frame.frame_of_record fits opened
      fun message records inside => restated message records (by omega)
    obtain ⟨frames, each, nonempty, shorters, sames⟩ := ih
      fun message records inside => restated message records (by omega)
    rw [ends] at shorter same
    refine ⟨frame' :: frames, Record.frames_eq_ok.mpr (.cons framed (Record.frames_eq_ok.mp each)),
      List.cons_ne_nil _ _, ?_, ?_⟩
    · rw [chain_cons frame' nonempty, List.length_append, List.length_append]
      omega
    · rw [chain_cons frame' nonempty, append_eq_append_iff_of_le shorter shorters, same, sames,
        canonical_spelling fits]

theorem restated_of_decode (decoded : decode .builtIn octets = .ok records) :
    Restated octets records := by
  induction length : octets.length using Nat.strongRecOn generalizing octets records with
  | _ length ih =>
    rcases decode_eq_ok.mp decoded with ⟨rfl, rfl⟩ | ⟨differ, chained⟩
    · exact ⟨empty, rfl, Nat.le_refl _, by simp [canonical_empty]⟩
    · obtain ⟨frames, framed, nonempty, shorter, same⟩ := encode_of_chained chained
        fun message records shorter found => ih message.length (by omega) found rfl
      refine ⟨chain true frames, encode_eq_ok.mpr ⟨frames, framed, ?_⟩, shorter, same⟩
      rw [octets_of_ne_nil nonempty]

/-- Under the built-in registry whatever was decoded can be encoded again. The octets are no more
than before, they are the same exactly when those before were canonical, and they are decoded to the
same records, unless these are the void record alone. -/
theorem encode_of_decode (decoded : decode .builtIn octets = .ok records) :
    ∃ octets', encode records = .ok octets' ∧ octets'.length ≤ octets.length ∧
      (records ≠ [Record.void] → decode .builtIn octets' = .ok records) ∧
      (records = [Record.void] → octets' = empty ∧ decode .builtIn octets' = .ok [] ∧
        ¬ Message.Canonical octets) ∧
      (octets' = octets ↔ Message.Canonical octets) := by
  obtain ⟨octets', encoded, shorter, same⟩ := restated_of_decode decoded
  refine ⟨octets', encoded, shorter, ?_, ?_, same⟩
  · exact decode_of_encode encoded (consistent_of_decode decoded)
  · intro void
    subst void
    rw [encode_void] at encoded
    obtain rfl := Except.ok.inj encoded
    refine ⟨rfl, decode_empty _, ?_⟩
    intro canonical
    rw [← same.mpr canonical, decode_empty] at decoded
    cases decoded

def longVoid : Octets := [0xC0, 0x00, 0x00, 0x00, 0x00, 0x00]

/-- The sample with a long payload length in its second record. -/
def longHandover : Octets := handoverOctets.take 23 ++
  [0x49, 0x01, 0x00, 0x00, 0x00, 0x03, 0x01, 0x55, 0x69, 0x05, 0x2B, 0x31]

theorem decode_longVoid : decode .builtIn longVoid = .ok [Record.void] := by
  have fits : Frame.void.Fits ⟨true, true, false, false, false, .empty⟩ :=
    ⟨rfl, rfl, by decide, by decide, by decide⟩
  exact decode_eq_ok.mpr (.inr ⟨by decide, .last fits Frame.record_void rfl⟩)

theorem decode_longHandover : decode .builtIn longHandover = .ok handoverSample := by
  have fits : linkFrame.Fits ⟨false, true, false, false, true, .wellKnown⟩ :=
    ⟨rfl, rfl, by decide, by decide, by decide⟩
  have spelled : longHandover = selectFrame.spelling (selectFrame.header true false) ++
      linkFrame.spelling ⟨false, true, false, false, true, .wellKnown⟩ := by decide
  refine decode_eq_ok.mpr (.inr ⟨by decide, ?_⟩)
  rw [spelled]
  exact .more (fits_selectFrame true false) record_selectFrame rfl
    (.last fits record_linkFrame rfl)

/-- With a long payload length the void record is no message without records, but becomes one; the
sample comes back canonical, and three octets shorter than it went. -/
theorem encode_of_decode_samples :
    (decode .builtIn longVoid = .ok [Record.void] ∧ encode [Record.void] = .ok empty ∧
      decode .builtIn empty = .ok [] ∧ ¬ Message.Canonical longVoid) ∧
    (decode .builtIn handoverOctets = .ok handoverSample ∧
      encode handoverSample = .ok handoverOctets ∧ Message.Canonical handoverOctets) ∧
    decode .builtIn longHandover = .ok handoverSample ∧
      handoverOctets.length + 3 = longHandover.length ∧ ¬ Message.Canonical longHandover := by
  obtain ⟨_, encoded, _, _, void, _⟩ := encode_of_decode decode_longVoid
  obtain ⟨rfl, emptied, spelled⟩ := void rfl
  obtain ⟨octets, again, _, back, _, same⟩ := encode_of_decode decode_longHandover
  obtain rfl := Except.ok.inj (encode_handoverSample.symm.trans again)
  have decoded := back (by decide)
  obtain ⟨_, fixed, _, _, _, canonical⟩ := encode_of_decode decoded
  have unchanged := Except.ok.inj (fixed.symm.trans again)
  exact ⟨⟨decode_longVoid, encoded, emptied, spelled⟩,
    ⟨decoded, again, canonical.mp unchanged⟩,
    decode_longHandover, rfl, fun longer => absurd (same.mpr longer) (by decide)⟩

end Message
end BridgeTag.Ndef
