import BridgeTag.Ndef.Record

/-! Making records, and getting at their bodies. Each kind of content has one way to look at it and
one to change it in place; on a record with content of another kind both fail and change nothing. -/
namespace BridgeTag.Ndef

namespace HandoverSelect

def type : Octets := [0x48, 0x73] -- Hs

end HandoverSelect

namespace Record

def ofUri (uri : Uri) : Record := ⟨.wellKnown, Uri.type, [], .uri uri⟩

def ofHandoverSelect (select : HandoverSelect) : Record :=
  ⟨.wellKnown, HandoverSelect.type, [], .handoverSelect select⟩

def ofAlternativeCarrier (carrier : AlternativeCarrier) : Record :=
  ⟨.wellKnown, AlternativeCarrier.type, [], .alternativeCarrier carrier⟩

def ofError (error : HandoverError) : Record :=
  ⟨.wellKnown, HandoverError.type, [], .error error⟩

def ofBrandProtection (certificate : BrandProtection) : Record :=
  ⟨.external, BrandProtection.type, [], .brandProtection certificate⟩

def ofExternal (type : Octets) (external : External) : Record :=
  ⟨.external, type, [], .external external⟩

def ofGeneric (tnf : Tnf) (type payload : Octets) : Record := ⟨tnf, type, [], .generic payload⟩

def withId (record : Record) (id : Octets) : Record := { record with id := id }

/-- One kind of content: the name it is asked for by, and the bodies that hold it. -/
structure Content (α : Type) where
  name : String
  ofBody? : RecordBody → Option α
  body : α → RecordBody

namespace Content

def uri : Content Uri where
  name := "uri"
  ofBody? | .uri uri => some uri | _ => none
  body := .uri

def handoverSelect : Content HandoverSelect where
  name := "handover_select"
  ofBody? | .handoverSelect select => some select | _ => none
  body := .handoverSelect

def alternativeCarrier : Content AlternativeCarrier where
  name := "alternative_carrier"
  ofBody? | .alternativeCarrier carrier => some carrier | _ => none
  body := .alternativeCarrier

def error : Content HandoverError where
  name := "error_record"
  ofBody? | .error error => some error | _ => none
  body := .error

def external : Content External where
  name := "external_record"
  ofBody? | .external external => some external | _ => none
  body := .external

def brandProtection : Content BrandProtection where
  name := "brand_protection"
  ofBody? | .brandProtection certificate => some certificate | _ => none
  body := .brandProtection

def generic : Content Octets where
  name := "generic_record"
  ofBody? | .generic payload => some payload | _ => none
  body := .generic

end Content

section

variable {α : Type} (record : Record) (content : Content α)

def get : Except Failure α :=
  match content.ofBody? record.body with
  | some value => .ok value
  | none => .error ⟨.record, content.name, .bodyMismatch⟩

/-- Changes the content in place; on failure the record stays. -/
def modify (change : α → α) : Except Failure Unit × Record :=
  match content.ofBody? record.body with
  | some value => (.ok (), { record with body := content.body (change value) })
  | none => (.error ⟨.record, content.name ++ "_mut", .bodyMismatch⟩, record)

def modified (change : α → α) : Except Failure Record :=
  let (result, after) := record.modify content change
  result.map fun () => after

end

def uri (record : Record) : Except Failure Uri := record.get .uri

def handoverSelect (record : Record) : Except Failure HandoverSelect := record.get .handoverSelect

def alternativeCarrier (record : Record) : Except Failure AlternativeCarrier :=
  record.get .alternativeCarrier

def handoverError (record : Record) : Except Failure HandoverError := record.get .error

def external (record : Record) : Except Failure External := record.get .external

def brandProtection (record : Record) : Except Failure BrandProtection :=
  record.get .brandProtection

def generic (record : Record) : Except Failure Octets := record.get .generic

def editUri (record : Record) (edit : Uri → Uri) : Except Failure Record :=
  record.modified .uri edit

def editHandoverSelect (record : Record) (edit : HandoverSelect → HandoverSelect) :
    Except Failure Record :=
  record.modified .handoverSelect edit

def editAlternativeCarrier (record : Record) (edit : AlternativeCarrier → AlternativeCarrier) :
    Except Failure Record :=
  record.modified .alternativeCarrier edit

def editHandoverError (record : Record) (edit : HandoverError → HandoverError) :
    Except Failure Record :=
  record.modified .error edit

def editExternal (record : Record) (edit : External → External) : Except Failure Record :=
  record.modified .external edit

def editBrandProtection (record : Record) (edit : BrandProtection → BrandProtection) :
    Except Failure Record :=
  record.modified .brandProtection edit

def editGeneric (record : Record) (edit : Octets → Octets) : Except Failure Record :=
  record.modified .generic edit

end Record

namespace HandoverSelect

def error? (select : HandoverSelect) : Option HandoverError :=
  select.records.findSome? fun record => record.handoverError.toOption

def carriers (select : HandoverSelect) : List AlternativeCarrier :=
  select.records.filterMap fun record => record.alternativeCarrier.toOption

/-- Versions of four bits each; carriers and at most one error. The count of errors has no bound
here; one of 31 bits says the same of fewer than `2 ^ 31` records (`checkedValid_eq`). -/
def valid (select : HandoverSelect) : Bool :=
  select.major ≤ 15 && select.minor ≤ 15 &&
    (select.records.all fun record =>
      record.alternativeCarrier.isOk || record.handoverError.isOk) &&
    (select.records.countP fun record => record.handoverError.isOk) ≤ 1

end HandoverSelect
end BridgeTag.Ndef
