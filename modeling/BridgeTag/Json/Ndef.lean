import BridgeTag.Json.Fields
import BridgeTag.Ndef.Record

/-! Records and their bodies as JSON. -/
namespace BridgeTag.Ndef

open Json

def Tnf.ofName? (name : String) : Option Tnf := all.find? fun tnf => tnf.name = name

def Tnf.toJson (tnf : Tnf) : Value := .ofString tnf.name

def Tnf.ofJson? (levels : Nat) (value : Value) : Option Tnf :=
  (value.plainChoice? levels).bind ofName?

def PowerState.ofName? (name : String) : Option PowerState :=
  all.find? fun state => state.name = name

def PowerState.toJson (state : PowerState) : Value := .ofString state.name

def PowerState.ofJson? (levels : Nat) (value : Value) : Option PowerState :=
  (value.plainChoice? levels).bind ofName?

def Uri.toJson (uri : Uri) : Value :=
  .ofFields [("identifier_code", .ofNat uri.code.toNat), ("uri", .ofString uri.rest)]

def Uri.ofJson? : Nat → Value → Option Uri
  | 0, _ => none
  | _ + 1, value => do
    match ← value.fields? ["identifier_code", "uri"] with
    | [some code, some rest] => return ⟨← code.u8?, ← rest.text?⟩
    | _ => none

def AlternativeCarrier.toJson (carrier : AlternativeCarrier) : Value :=
  .ofFields [("cps", carrier.powerState.toJson),
    ("carrier_data_reference", .ofOctets carrier.carrier),
    ("auxiliary_data_references", .array (carrier.auxiliary.map .ofOctets))]

def AlternativeCarrier.ofJson? : Nat → Value → Option AlternativeCarrier
  | 0, _ => none
  | levels + 1, value => do
    match ← value.fields? ["cps", "carrier_data_reference", "auxiliary_data_references"] with
    | [some state, some carrier, some auxiliary] =>
      return ⟨← PowerState.ofJson? levels state, ← carrier.octets? levels,
        ← auxiliary.items? Value.octets? levels⟩
    | _ => none

def HandoverError.toJson (error : HandoverError) : Value :=
  .ofFields [("reason", .ofNat error.reason.toNat), ("data", .ofOctets error.data)]

def HandoverError.ofJson? : Nat → Value → Option HandoverError
  | 0, _ => none
  | levels + 1, value => do
    match ← value.fields? ["reason", "data"] with
    | [some reason, some data] => return ⟨← reason.u8?, ← data.octets? levels⟩
    | _ => none

def payloadToJson (payload : Value) : Value := .ofFields [("payload", payload)]

def payloadOfJson? : Nat → Value → Option (Option Octets)
  | 0, _ => none
  | levels + 1, value => do
    match ← value.fields? ["payload"] with
    | [payload] => (payload.getD .null).option? Value.octets? levels
    | _ => none

def External.toJson (external : External) : Value :=
  payloadToJson (.ofOption .ofOctets external.payload?)

def External.ofJson? (levels : Nat) (value : Value) : Option External :=
  (payloadOfJson? levels value).map External.mk

def BrandProtection.toJson (certificate : BrandProtection) : Value :=
  payloadToJson (.ofOption .ofOctets certificate.payload?)

def BrandProtection.ofJson? (levels : Nat) (value : Value) : Option BrandProtection :=
  (payloadOfJson? levels value).map BrandProtection.mk

def genericToJson (payload : Octets) : Value := payloadToJson (.ofOctets payload)

def genericOfJson? : Nat → Value → Option Octets
  | 0, _ => none
  | levels + 1, value => do
    match ← value.fields? ["payload"] with
    | [some payload] => payload.octets? levels
    | _ => none

mutual

def HandoverSelect.toJson : HandoverSelect → Value
  | ⟨major, minor, records⟩ =>
    .ofFields [("major_version", .ofNat major.toNat), ("minor_version", .ofNat minor.toNat),
      ("local_records", .array (records.map Record.toJson))]

def RecordBody.toJson : RecordBody → Value
  | .uri uri => .ofFields [("Uri", uri.toJson)]
  | .handoverSelect select => .ofFields [("HandoverSelect", select.toJson)]
  | .alternativeCarrier carrier => .ofFields [("AlternativeCarrier", carrier.toJson)]
  | .error error => .ofFields [("Error", error.toJson)]
  | .external external => .ofFields [("External", external.toJson)]
  | .brandProtection certificate => .ofFields [("BrandProtection", certificate.toJson)]
  | .generic payload => .ofFields [("Generic", genericToJson payload)]

def Record.toJson : Record → Value
  | ⟨tnf, type, id, body⟩ =>
    .ofFields [("tnf", tnf.toJson), ("record_type", .ofOctets type), ("id", .ofOctets id),
      ("body", body.toJson)]

end

mutual

def HandoverSelect.ofJson? : Nat → Value → Option HandoverSelect
  | levels + 2, value => do
    match ← value.fields? ["major_version", "minor_version", "local_records"] with
    | [some major, some minor, some (.array records)] =>
      return ⟨← major.u8?, ← minor.u8?, ← records.mapM (Record.ofJson? levels)⟩
    | _ => none
  | _, _ => none

def RecordBody.ofJson? : Nat → Value → Option RecordBody
  | 0, _ => none
  | levels + 1, value =>
    match value.choice? with
    | some ("Uri", value) => (Uri.ofJson? levels value).map .uri
    | some ("HandoverSelect", value) =>
      (HandoverSelect.ofJson? levels value).map .handoverSelect
    | some ("AlternativeCarrier", value) =>
      (AlternativeCarrier.ofJson? levels value).map .alternativeCarrier
    | some ("Error", value) => (HandoverError.ofJson? levels value).map .error
    | some ("External", value) => (External.ofJson? levels value).map .external
    | some ("BrandProtection", value) =>
      (BrandProtection.ofJson? levels value).map .brandProtection
    | some ("Generic", value) => (genericOfJson? levels value).map .generic
    | _ => none

def Record.ofJson? : Nat → Value → Option Record
  | 0, _ => none
  | levels + 1, value => do
    match ← value.fields? ["tnf", "record_type", "id", "body"] with
    | [some tnf, some type, some id, some body] =>
      return ⟨← Tnf.ofJson? levels tnf, ← type.octets? levels, ← id.octets? levels,
        ← RecordBody.ofJson? levels body⟩
    | _ => none

end

end BridgeTag.Ndef
