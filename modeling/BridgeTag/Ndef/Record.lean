import BridgeTag.Ndef.AlternativeCarrier
import BridgeTag.Ndef.BrandProtection
import BridgeTag.Ndef.External
import BridgeTag.Ndef.Frame
import BridgeTag.Ndef.HandoverError
import BridgeTag.Ndef.Uri

/-! Records and the bodies they hold. A handover-select body holds records again, so the three
types grow together; so do their equality and their encoding. -/
namespace BridgeTag.Ndef

mutual

structure HandoverSelect where
  major : UInt8
  minor : UInt8
  records : List Record

inductive RecordBody where
  | uri (uri : Uri)
  | handoverSelect (select : HandoverSelect)
  | alternativeCarrier (carrier : AlternativeCarrier)
  | error (error : HandoverError)
  | external (external : External)
  | brandProtection (certificate : BrandProtection)
  /-- A payload of a type without a meaning here. -/
  | generic (payload : Octets)

/-- The type and the body stand apart: nothing but the constructors below keeps them in step. -/
structure Record where
  tnf : Tnf
  type : Octets
  /-- Empty when the record has none. -/
  id : Octets
  body : RecordBody

end

mutual

def Record.decEq : (a b : Record) → Decidable (a = b)
  | ⟨tnf, type, id, body⟩, ⟨tnf', type', id', body'⟩ =>
    if h : tnf = tnf' ∧ type = type' ∧ id = id' then
      match RecordBody.decEq body body' with
      | isTrue same => isTrue (by rw [h.1, h.2.1, h.2.2, same])
      | isFalse differ => isFalse (by intro same; cases same; exact differ rfl)
    else isFalse (by intro same; cases same; exact h ⟨rfl, rfl, rfl⟩)

def RecordBody.decEq : (a b : RecordBody) → Decidable (a = b)
  | .uri a, b => match b with
    | .uri b => decidable_of_iff (a = b) ⟨congrArg _, RecordBody.uri.inj⟩
    | .handoverSelect _ | .alternativeCarrier _ | .error _ | .external _ | .brandProtection _
    | .generic _ => isFalse nofun
  | .handoverSelect ⟨major, minor, records⟩, b => match b with
    | .handoverSelect ⟨major', minor', records'⟩ =>
      if h : major = major' ∧ minor = minor' then
        match Record.listDecEq records records' with
        | isTrue same => isTrue (by rw [h.1, h.2, same])
        | isFalse differ => isFalse (by intro same; cases same; exact differ rfl)
      else isFalse (by intro same; cases same; exact h ⟨rfl, rfl⟩)
    | .uri _ | .alternativeCarrier _ | .error _ | .external _ | .brandProtection _
    | .generic _ => isFalse nofun
  | .alternativeCarrier a, b => match b with
    | .alternativeCarrier b =>
      decidable_of_iff (a = b) ⟨congrArg _, RecordBody.alternativeCarrier.inj⟩
    | .uri _ | .handoverSelect _ | .error _ | .external _ | .brandProtection _
    | .generic _ => isFalse nofun
  | .error a, b => match b with
    | .error b => decidable_of_iff (a = b) ⟨congrArg _, RecordBody.error.inj⟩
    | .uri _ | .handoverSelect _ | .alternativeCarrier _ | .external _ | .brandProtection _
    | .generic _ => isFalse nofun
  | .external a, b => match b with
    | .external b => decidable_of_iff (a = b) ⟨congrArg _, RecordBody.external.inj⟩
    | .uri _ | .handoverSelect _ | .alternativeCarrier _ | .error _ | .brandProtection _
    | .generic _ => isFalse nofun
  | .brandProtection a, b => match b with
    | .brandProtection b =>
      decidable_of_iff (a = b) ⟨congrArg _, RecordBody.brandProtection.inj⟩
    | .uri _ | .handoverSelect _ | .alternativeCarrier _ | .error _ | .external _
    | .generic _ => isFalse nofun
  | .generic a, b => match b with
    | .generic b => decidable_of_iff (a = b) ⟨congrArg _, RecordBody.generic.inj⟩
    | .uri _ | .handoverSelect _ | .alternativeCarrier _ | .error _ | .external _
    | .brandProtection _ => isFalse nofun

def Record.listDecEq : (as bs : List Record) → Decidable (as = bs)
  | [], [] => isTrue rfl
  | [], _ :: _ => isFalse nofun
  | _ :: _, [] => isFalse nofun
  | a :: as, b :: bs =>
    match Record.decEq a b with
    | isFalse differ => isFalse (by intro same; cases same; exact differ rfl)
    | isTrue first =>
      match Record.listDecEq as bs with
      | isTrue rest => isTrue (by rw [first, rest])
      | isFalse differ => isFalse (by intro same; cases same; exact differ rfl)

end

instance : DecidableEq Record := Record.decEq

instance : DecidableEq RecordBody := RecordBody.decEq

end BridgeTag.Ndef
