import BridgeTag.Proofs.Checked.Message

/-! Messages inside messages. A handover-select record holds a message behind its version, and the
frame around it takes the message four octets further at least; so messages run out of octets before
they can nest deeper than a quarter of these. -/
namespace BridgeTag.Ndef

open Checked

/-- Somewhere in the outer octets stands a record whose payload goes to the handover-select decoder,
and which has that decode the inner octets as a message. -/
inductive Message.Passes (kinds : Kinds) (outer inner : Octets) : Prop
  | intro {before rest : Octets} {header : Header} {frame : Frame} {version : UInt8}
      (fits : frame.Fits header) (spelled : outer = before ++ frame.spelling header ++ rest)
      (select : kinds.kind frame.tnf frame.type = .handoverSelect)
      (payload : frame.payload = version :: inner) (nonempty : inner ≠ [])

/-- Messages one inside the other, from the outer octets down to the inner. -/
inductive Message.Nests (kinds : Kinds) : Nat → Octets → Octets → Prop
  | outermost (octets : Octets) : Nests kinds 0 octets octets
  | inside {depth : Nat} {outer middle inner : Octets} (passes : Passes kinds outer middle)
      (deeper : Nests kinds depth middle inner) : Nests kinds (depth + 1) outer inner

variable {kinds : Kinds} {outer inner octets : Octets} {depth : Nat}

theorem Message.Passes.length_le (passes : Passes kinds outer inner) :
    inner.length + 4 ≤ outer.length := by
  obtain @⟨_, _, header, frame, _, _, rfl, _, payload, _⟩ := passes
  have longer := frame.payload_le_spelling header
  simp only [payload, List.length_cons] at longer
  simp only [List.length_append]
  omega

theorem Message.Nests.length_le (nests : Nests kinds depth outer inner) :
    4 * depth + inner.length ≤ outer.length := by
  induction nests with
  | outermost octets => omega
  | inside passes _ ih =>
    have shorter := passes.length_le
    omega

/-- The records inside a valid handover-select body hold carriers and errors only. -/
theorem HandoverSelect.kind_of_valid {select : HandoverSelect} (valid : select.valid = true) :
    ∀ part ∈ select.records, part.body.kind ≠ .handoverSelect := by
  intro part member select
  have kind := (valid_iff.mp valid).admits.kinds part member
  simp [select] at kind

/-- Whichever of the library's decoders a registry binds, and to whatever pairs. -/
theorem Frame.kind_of_record {frame : Frame} {record : Record} {select : HandoverSelect}
    (opened : frame.record (.ofKinds kinds) = .ok record)
    (same : record.body = .handoverSelect select) :
    ∀ part ∈ select.records, part.body.kind ≠ .handoverSelect := by
  obtain ⟨decoded, _⟩ := Frame.record_eq_ok.mp opened
  simp only [Registry.retrieve_ofKinds, same] at decoded
  have kind := BodyKind.kind_of_decode decoded
  simp only [← kind, RecordBody.kind, BodyKind.decoder, Decoder.handoverSelect_eq_ok] at decoded
  obtain ⟨version, message, records, _, _, valid, made⟩ := decoded
  cases made
  exact HandoverSelect.kind_of_valid valid

namespace Message

/-- Decoding ends for any octets, whatever pairs are bound to this library's decoders: within a third
of the octets in rounds and a quarter of them in depth, since every record takes three octets on and
every message inside a message is four octets shorter. What the built-in registry decodes does not
nest at all: no record inside a handover-select body has such a body. -/
theorem decode_nests (kinds : Kinds) (octets : Octets) :
    (∀ machine : Machine, machine.Holds octets.length →
      checkedDecode machine kinds (octets.length / 4) octets =
        of (decode (.ofKinds kinds) octets)) ∧
    (∀ part record taken, Record.decode (.ofKinds kinds) part = .ok (record, taken) →
      3 ≤ taken ∧ taken ≤ part.length) ∧
    (∀ inner, Passes kinds octets inner → inner.length + 4 ≤ octets.length) ∧
    (∀ depth inner, Nests kinds depth octets inner → depth ≤ octets.length / 4) ∧
    (∀ records, decode .builtIn octets = .ok records → ∀ record ∈ records,
      ∀ select, record.body = .handoverSelect select →
        ∀ part ∈ select.records, part.body.kind ≠ .handoverSelect) ∧
    ∀ record taken, Record.decode .builtIn octets = .ok (record, taken) →
      ∀ select, record.body = .handoverSelect select →
        ∀ part ∈ select.records, part.body.kind ≠ .handoverSelect := by
  refine ⟨?_, ?_, ?_, ?_, ?_, ?_⟩
  · intro machine holds
    exact checkedDecode_eq holds (by omega)
  · intro part record taken decoded
    exact Record.taken_of_decode decoded
  · intro inner passes
    exact passes.length_le
  · intro depth inner nests
    have shorter := nests.length_le
    omega
  · intro records decoded record member select same
    rcases decode_eq_ok.mp decoded with ⟨_, rfl⟩ | ⟨_, chained⟩
    · cases member
    · obtain ⟨header, frame, _, opened, _⟩ := frame_of_chained chained member
      simp only [← Registry.ofKinds_builtInKinds] at opened
      exact Frame.kind_of_record opened same
  · intro record taken decoded select same
    obtain ⟨header, frame, _, _, opened, _⟩ := Record.decode_eq_ok.mp decoded
    simp only [← Registry.ofKinds_builtInKinds] at opened
    exact Frame.kind_of_record opened same

def innerSelect : Frame := ⟨.wellKnown, HandoverSelect.type, [], [0x12]⟩

def outerSelect : Frame :=
  ⟨.wellKnown, HandoverSelect.type, [], 0x12 :: innerSelect.octets true true⟩

/-- Twelve octets with six inside: the second message is passed on, and decoding the first goes three
messages deep at most. -/
theorem nests_outerSelect :
    Passes Registry.builtInKinds (outerSelect.octets true true) (innerSelect.octets true true) ∧
    (innerSelect.octets true true).length + 4 ≤ (outerSelect.octets true true).length ∧
    Machine.word64.Holds (outerSelect.octets true true).length ∧
    checkedDecode .word64 Registry.builtInKinds 3 (outerSelect.octets true true) =
      of (decode .builtIn (outerSelect.octets true true)) := by
  have passes : Passes Registry.builtInKinds (outerSelect.octets true true)
      (innerSelect.octets true true) :=
    .intro (Frame.fits_header (by decide) (by decide) (by decide) true true)
      (show _ = [] ++ outerSelect.spelling (outerSelect.header true true) ++ [] by decide)
      rfl rfl (by decide)
  have holds : Machine.word64.Holds (outerSelect.octets true true).length :=
    Machine.holds_word64 (by decide)
  obtain ⟨ends, _, shorter, _⟩ :=
    decode_nests Registry.builtInKinds (outerSelect.octets true true)
  exact ⟨passes, shorter _ passes, holds, ends .word64 holds⟩

end Message
end BridgeTag.Ndef
