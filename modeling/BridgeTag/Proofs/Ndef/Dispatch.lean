import BridgeTag.Proofs.Ndef.Chaining
import BridgeTag.Proofs.Ndef.Payload
import Mathlib.Tactic.SplitIfs

/-! Which kind of body the built-in registry makes for a pair. A record is consistent when its body
is of that kind, and so are the records inside it; decoding makes no others. -/
namespace BridgeTag.Ndef

inductive BodyKind where
  | uri | handoverSelect | alternativeCarrier | error | external | brandProtection | generic
deriving Repr, DecidableEq

namespace BodyKind

def ofType (tnf : Tnf) (type : Octets) : BodyKind :=
  match tnf with
  | .wellKnown =>
    if type = Uri.type then uri
    else if type = HandoverSelect.type then handoverSelect
    else if type = AlternativeCarrier.type then alternativeCarrier
    else if type = HandoverError.type then error
    else generic
  | .external => if type = BrandProtection.type then brandProtection else external
  | _ => generic

theorem ofType_eq_handoverSelect {tnf : Tnf} {type : Octets} :
    ofType tnf type = handoverSelect ↔ tnf = .wellKnown ∧ type = HandoverSelect.type := by
  constructor
  · intro kind
    unfold ofType at kind
    split at kind
    next => split_ifs at kind with _ select; exact ⟨rfl, select⟩
    next => split_ifs at kind
    next => cases kind
  · intro pair
    obtain ⟨rfl, rfl⟩ := pair
    rfl

theorem ofType_eq_alternativeCarrier {tnf : Tnf} {type : Octets} :
    ofType tnf type = alternativeCarrier ↔ tnf = .wellKnown ∧ type = AlternativeCarrier.type := by
  constructor
  · intro kind
    unfold ofType at kind
    split at kind
    next => split_ifs at kind with _ _ carrier; exact ⟨rfl, carrier⟩
    next => split_ifs at kind
    next => cases kind
  · intro pair
    obtain ⟨rfl, rfl⟩ := pair
    rfl

def decoder : BodyKind → Decoder
  | uri => Decoder.uri
  | handoverSelect => Decoder.handoverSelect
  | alternativeCarrier => Decoder.alternativeCarrier
  | error => Decoder.handoverError
  | external => Decoder.external
  | brandProtection => Decoder.brandProtection
  | generic => Decoder.generic

end BodyKind

def RecordBody.kind : RecordBody → BodyKind
  | .uri _ => .uri
  | .handoverSelect _ => .handoverSelect
  | .alternativeCarrier _ => .alternativeCarrier
  | .error _ => .error
  | .external _ => .external
  | .brandProtection _ => .brandProtection
  | .generic _ => .generic

namespace Record

theorem isOk_alternativeCarrier (record : Record) :
    record.alternativeCarrier.isOk = decide (record.body.kind = .alternativeCarrier) := by
  obtain ⟨tnf, type, id, body⟩ := record
  cases body <;> rfl

theorem isOk_handoverError (record : Record) :
    record.handoverError.isOk = decide (record.body.kind = .error) := by
  obtain ⟨tnf, type, id, body⟩ := record
  cases body <;> rfl

theorem toOption_alternativeCarrier (record : Record) :
    record.alternativeCarrier.toOption.map .alternativeCarrier =
      if record.body.kind = .alternativeCarrier then some record.body else none := by
  obtain ⟨tnf, type, id, body⟩ := record
  cases body <;> rfl

theorem toOption_handoverError (record : Record) :
    record.handoverError.toOption.map .error =
      if record.body.kind = .error then some record.body else none := by
  obtain ⟨tnf, type, id, body⟩ := record
  cases body <;> rfl

end Record

namespace HandoverSelect

/-- Records that a handover select may hold: carriers and errors, of the errors one at most. -/
structure Admits (records : List Record) : Prop where
  kinds : ∀ part ∈ records, part.body.kind = .alternativeCarrier ∨ part.body.kind = .error
  single : (records.countP fun part => part.body.kind = .error) ≤ 1

structure Valid (select : HandoverSelect) : Prop where
  major : select.major ≤ 15
  minor : select.minor ≤ 15
  admits : Admits select.records

theorem valid_iff {select : HandoverSelect} : select.valid = true ↔ select.Valid := by
  simp only [valid, Record.isOk_alternativeCarrier, Record.isOk_handoverError, Bool.and_eq_true,
    Bool.or_eq_true, decide_eq_true_eq, List.all_eq_true, and_assoc]
  constructor
  · intro valid
    obtain ⟨major, minor, kinds, single⟩ := valid
    exact ⟨major, minor, kinds, single⟩
  · intro valid
    exact ⟨valid.major, valid.minor, valid.admits.kinds, valid.admits.single⟩

end HandoverSelect

/-- The body is of the kind that type name format and type ask for, here and in every record
inside a handover-select body. -/
inductive Record.Consistent : Record → Prop
  | intro {record : Record}
      (dispatched : record.body.kind = BodyKind.ofType record.tnf record.type)
      (inside : ∀ select, record.body = .handoverSelect select →
        ∀ part ∈ select.records, Consistent part) : Consistent record

/-- Only a handover-select body has records inside. -/
theorem Record.consistent_of_flat {record : Record}
    (dispatched : record.body.kind = BodyKind.ofType record.tnf record.type)
    (flat : record.body.kind ≠ .handoverSelect) : record.Consistent :=
  .intro dispatched fun select same => absurd (by rw [same]; rfl) flat

namespace Registry

theorem retrieve_builtIn (tnf : Tnf) (type : Octets) :
    builtIn.retrieve tnf type = (BodyKind.ofType tnf type).decoder := by
  simp only [retrieve, find?, builtIn, lookup_cons, List.lookup_nil, Prod.mk.injEq]
  cases tnf with
  | wellKnown =>
    simp only [true_and, reduceCtorEq, false_and, if_false, BodyKind.ofType]
    split_ifs <;> rfl
  | external =>
    simp only [true_and, reduceCtorEq, false_and, if_false, BodyKind.ofType]
    split_ifs <;> rfl
  | _ => rfl

end Registry

variable {registry : Registry} {record : Record} {records : List Record} {frame : Frame}
  {body : RecordBody} {payload octets : Octets}

def HandoverSelect.ofVersion (version : UInt8) (records : List Record) : HandoverSelect :=
  ⟨UInt8.ofNat (version.toNat / 16), UInt8.ofNat (version.toNat % 16), records⟩

namespace Decoder

variable {nested : (message : Octets) → message.length ≤ payload.length →
  Except Failure (List Record)}

theorem map_eq_ok {α : Type} {make : α → RecordBody} {result : Except Failure α} :
    result.map make = .ok body ↔ ∃ value, result = .ok value ∧ body = make value := by
  cases result <;> simp [Except.map, eq_comm]

theorem uri_eq_ok : uri payload nested = .ok body ↔
    ∃ value : Uri, payload = value.encode ∧ body = .uri value := by
  simp only [uri, map_eq_ok, Uri.decode_eq_ok]

theorem handoverError_eq_ok : handoverError payload nested = .ok body ↔
    ∃ value : HandoverError, payload = value.encode ∧ body = .error value := by
  simp only [handoverError, map_eq_ok, HandoverError.decode_eq_ok]

theorem alternativeCarrier_eq_ok : alternativeCarrier payload nested = .ok body ↔
    ∃ value, AlternativeCarrier.decode payload = .ok value ∧ body = .alternativeCarrier value :=
  map_eq_ok

theorem handoverSelect_eq_ok :
    handoverSelect payload (fun message _ => Message.decode registry message) = .ok body ↔
      ∃ version message records, payload = version :: message ∧
        (message = [] ∧ records = [] ∨
          message ≠ [] ∧ Message.decode registry message = .ok records) ∧
        (HandoverSelect.ofVersion version records).valid = true ∧
        body = .handoverSelect (.ofVersion version records) := by
  cases payload with
  | nil => simp [handoverSelect]
  | cons version message =>
    have judged (records : List Record) :
        (if (HandoverSelect.ofVersion version records).valid then
          .ok (.handoverSelect (.ofVersion version records))
        else .error ⟨.recordType, "decode", .illegalArgument⟩ : Except Failure RecordBody) =
          .ok body ↔ (HandoverSelect.ofVersion version records).valid = true ∧
            body = .handoverSelect (.ofVersion version records) := by
      split <;> simp [*, eq_comm]
    have opened : handoverSelect (version :: message)
        (fun message _ => Message.decode registry message) = .ok body ↔ ∃ records,
          (if message.isEmpty then .ok [] else Message.decode registry message) = .ok records ∧
            (HandoverSelect.ofVersion version records).valid = true ∧
              body = .handoverSelect (.ofVersion version records) := by
      cases message <;> simp only [handoverSelect, List.isEmpty_nil, List.isEmpty_cons, if_true,
        Bool.false_eq_true, if_false, Failure.bind_eq_ok, ← judged] <;> rfl
    rw [opened]
    constructor
    · intro decoded
      obtain ⟨records, found, valid, rfl⟩ := decoded
      refine ⟨version, message, records, rfl, ?_, valid, rfl⟩
      cases message with
      | nil =>
        cases found
        exact .inl ⟨rfl, rfl⟩
      | cons => exact .inr ⟨List.cons_ne_nil _ _, found⟩
    · intro decoded
      obtain ⟨_, _, records, same, found, valid, rfl⟩ := decoded
      cases same
      rcases found with ⟨rfl, rfl⟩ | ⟨further, found⟩
      · exact ⟨[], rfl, valid, rfl⟩
      · exact ⟨records, by simpa [further] using found, valid, rfl⟩

end Decoder

theorem BodyKind.kind_of_decode {kind : BodyKind}
    (decoded : kind.decoder payload (fun message _ => Message.decode registry message) = .ok body) :
    body.kind = kind := by
  cases kind with
  | uri =>
    simp only [decoder, Decoder.uri_eq_ok] at decoded
    obtain ⟨_, _, rfl⟩ := decoded
    rfl
  | handoverSelect =>
    simp only [decoder, Decoder.handoverSelect_eq_ok] at decoded
    obtain ⟨_, _, _, _, _, _, rfl⟩ := decoded
    rfl
  | alternativeCarrier =>
    simp only [decoder, Decoder.alternativeCarrier_eq_ok] at decoded
    obtain ⟨_, _, rfl⟩ := decoded
    rfl
  | error =>
    simp only [decoder, Decoder.handoverError_eq_ok] at decoded
    obtain ⟨_, _, rfl⟩ := decoded
    rfl
  | external | brandProtection | generic =>
    cases decoded
    rfl

theorem Frame.record_builtIn : frame.record .builtIn = .ok record ↔
    (BodyKind.ofType record.tnf record.type).decoder frame.payload
        (fun message _ => Message.decode .builtIn message) = .ok record.body ∧
      frame.tnf = record.tnf ∧ frame.type = record.type ∧ frame.id = record.id := by
  rw [Frame.record_eq_ok, Registry.retrieve_builtIn]
  constructor <;> rintro ⟨decoded, tnf, type, id⟩
  · rw [tnf, type] at decoded
    exact ⟨decoded, tnf, type, id⟩
  · rw [tnf, type]
    exact ⟨decoded, rfl, rfl, id⟩

/-- Decoding makes consistent records only, inside one another as well. -/
theorem Message.consistent_of_decode (decoded : decode .builtIn octets = .ok records) :
    ∀ record ∈ records, record.Consistent := by
  induction length : octets.length using Nat.strongRecOn generalizing octets records with
  | _ length ih =>
    intro record member
    rcases decode_eq_ok.mp decoded with ⟨rfl, rfl⟩ | ⟨_, chained⟩
    · cases member
    · obtain ⟨header, frame, fits, opened, shorter⟩ := frame_of_chained chained member
      have decoded := (Frame.record_builtIn.mp opened).1
      have kind := BodyKind.kind_of_decode decoded
      refine .intro kind ?_
      intro select same part inside
      rw [← kind, same] at decoded
      simp only [RecordBody.kind, BodyKind.decoder, Decoder.handoverSelect_eq_ok] at decoded
      obtain ⟨version, message, parts, payload, found, _, made⟩ := decoded
      cases made
      rcases found with ⟨rfl, rfl⟩ | ⟨_, found⟩
      · cases inside
      · refine ih message.length ?_ found rfl part inside
        rw [payload, List.length_cons] at shorter
        omega

end BridgeTag.Ndef
