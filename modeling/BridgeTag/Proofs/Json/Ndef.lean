import BridgeTag.Json.Ndef
import BridgeTag.Proofs.Json.Fields

/-! Records and their bodies made of the values that stand for them. Every handover-select body with
records inside takes four levels more, two for itself and two for the record around it. -/
namespace BridgeTag.Ndef

open Json Value

variable {levels : Nat}

theorem Tnf.ofJson?_toJson (tnf : Tnf) : Tnf.ofJson? levels tnf.toJson = some tnf := by
  have name : Tnf.ofName? tnf.name = some tnf := by cases tnf <;> decide
  simp [Tnf.ofJson?, Tnf.toJson, name]

theorem PowerState.ofJson?_toJson (state : PowerState) :
    PowerState.ofJson? levels state.toJson = some state := by
  have name : PowerState.ofName? state.name = some state := by cases state <;> decide
  simp [PowerState.ofJson?, PowerState.toJson, name]

theorem Uri.ofJson?_toJson (uri : Uri) : Uri.ofJson? (levels + 1) uri.toJson = some uri := by
  have fields : uri.toJson.fields? ["identifier_code", "uri"] = _ := fields?_ofFields rfl (by decide)
  simp [Uri.ofJson?, fields]

theorem AlternativeCarrier.ofJson?_toJson (carrier : AlternativeCarrier) :
    AlternativeCarrier.ofJson? (levels + 3) carrier.toJson = some carrier := by
  have auxiliary : items? octets? (levels + 2) (.array (carrier.auxiliary.map ofOctets)) =
      some carrier.auxiliary :=
    items?_array carrier.auxiliary fun reference _ => octets?_ofOctets levels reference
  have fields : carrier.toJson.fields?
      ["cps", "carrier_data_reference", "auxiliary_data_references"] = _ :=
    fields?_ofFields rfl (by decide)
  simp [AlternativeCarrier.ofJson?, fields, PowerState.ofJson?_toJson, auxiliary]

theorem HandoverError.ofJson?_toJson (error : HandoverError) :
    HandoverError.ofJson? (levels + 2) error.toJson = some error := by
  have fields : error.toJson.fields? ["reason", "data"] = _ := fields?_ofFields rfl (by decide)
  simp [HandoverError.ofJson?, fields]

theorem payloadOfJson?_payloadToJson (payload : Option Octets) :
    payloadOfJson? (levels + 2) (payloadToJson (ofOption ofOctets payload)) = some payload := by
  have inner : option? octets? (levels + 1) (ofOption ofOctets payload) = some payload :=
    option?_ofOption payload fun octets => ⟨nofun, octets?_ofOctets levels octets⟩
  have fields : (payloadToJson (ofOption ofOctets payload)).fields? ["payload"] = _ :=
    fields?_ofFields rfl (by decide)
  simp [payloadOfJson?, fields, inner]

theorem genericOfJson?_genericToJson (payload : Octets) :
    genericOfJson? (levels + 2) (genericToJson payload) = some payload := by
  have fields : (genericToJson payload).fields? ["payload"] = _ := fields?_ofFields rfl (by decide)
  simp [genericOfJson?, fields]

mutual

/-- How deep handover-select bodies stand inside one another, the outermost counted. -/
def RecordBody.depth : RecordBody → Nat
  | .handoverSelect ⟨_, _, records⟩ => Record.deepest records + 1
  | _ => 0

def Record.depth : Record → Nat
  | ⟨_, _, _, body⟩ => body.depth

def Record.deepest : List Record → Nat
  | [] => 0
  | record :: records => max record.depth (Record.deepest records)

end

mutual

theorem RecordBody.ofJson?_toJson (body : RecordBody) (levels : Nat)
    (enough : 4 * body.depth + 4 ≤ levels) : RecordBody.ofJson? levels body.toJson = some body := by
  obtain ⟨levels, rfl⟩ := Nat.exists_eq_add_of_le' (by omega : 4 ≤ levels)
  cases body with
  | handoverSelect select =>
    obtain ⟨major, minor, records⟩ := select
    simp only [RecordBody.depth] at enough
    -- One level for the body, two for its object and its array.
    have parts := Record.mapM_ofJson?_toJson records (levels + 1) (by omega)
    have fields : (HandoverSelect.toJson ⟨major, minor, records⟩).fields?
        ["major_version", "minor_version", "local_records"] =
          some [some (.ofNat major.toNat), some (.ofNat minor.toNat),
            some (.array (records.map Record.toJson))] := by
      simp only [HandoverSelect.toJson]
      exact fields?_ofFields rfl (by decide)
    simp [RecordBody.ofJson?, RecordBody.toJson, HandoverSelect.ofJson?, fields, parts]
  | uri value => simp [RecordBody.ofJson?, RecordBody.toJson, Uri.ofJson?_toJson]
  | alternativeCarrier value =>
    simp [RecordBody.ofJson?, RecordBody.toJson, AlternativeCarrier.ofJson?_toJson]
  | error value => simp [RecordBody.ofJson?, RecordBody.toJson, HandoverError.ofJson?_toJson]
  | external value =>
    simp [RecordBody.ofJson?, RecordBody.toJson, External.ofJson?, External.toJson,
      payloadOfJson?_payloadToJson]
  | brandProtection value =>
    simp [RecordBody.ofJson?, RecordBody.toJson, BrandProtection.ofJson?, BrandProtection.toJson,
      payloadOfJson?_payloadToJson]
  | generic value => simp [RecordBody.ofJson?, RecordBody.toJson, genericOfJson?_genericToJson]

theorem Record.ofJson?_toJson (record : Record) (levels : Nat)
    (enough : 4 * record.depth + 5 ≤ levels) : Record.ofJson? levels record.toJson = some record := by
  obtain ⟨levels, rfl⟩ := Nat.exists_eq_add_of_le' (by omega : 2 ≤ levels)
  obtain ⟨tnf, type, id, body⟩ := record
  simp only [Record.depth] at enough
  have inner := RecordBody.ofJson?_toJson body (levels + 1) (by omega)
  have fields : (Record.toJson ⟨tnf, type, id, body⟩).fields? ["tnf", "record_type", "id", "body"] =
      some [some tnf.toJson, some (.ofOctets type), some (.ofOctets id), some body.toJson] := by
    simp only [Record.toJson]
    exact fields?_ofFields rfl (by decide)
  simp [Record.ofJson?, fields, Tnf.ofJson?_toJson, inner]

theorem Record.mapM_ofJson?_toJson (records : List Record) (levels : Nat)
    (enough : 4 * Record.deepest records + 5 ≤ levels) :
    (records.map Record.toJson).mapM (Record.ofJson? levels) = some records := by
  cases records with
  | nil => rfl
  | cons record records =>
    simp only [Record.deepest] at enough
    have first := Record.ofJson?_toJson record levels (by omega)
    have later := Record.mapM_ofJson?_toJson records levels (by omega)
    simp [List.mapM_cons, first, later]

end

end BridgeTag.Ndef
