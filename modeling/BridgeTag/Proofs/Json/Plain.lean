import BridgeTag.Proofs.Json.Ndef
import BridgeTag.Json.Apdu

/-! Values that any writer of JSON can write: of numbers in 64 bits and of texts, no name twice in an
object, and no more than so many levels deep. Data stand for such values only. -/
namespace BridgeTag

open Json

namespace Json.Value

/-- Arrays and objects stand in it at most so many levels deep. -/
inductive Plain : Nat → Value → Prop
  | null {levels : Nat} : Plain levels null
  | bool {levels : Nat} (value : Bool) : Plain levels (bool value)
  | number {levels value : Nat} (fits : value ≤ 18446744073709551615) : Plain levels (ofNat value)
  | string {levels : Nat} (text : String) : Plain levels (ofString text)
  | array {levels : Nat} {items : List Value} (inside : ∀ item ∈ items, Plain levels item) :
      Plain (levels + 1) (array items)
  | fields {levels : Nat} {fields : List (String × Value)} (distinct : (fields.map Prod.fst).Nodup)
      (inside : ∀ field ∈ fields, Plain levels field.2) : Plain (levels + 1) (ofFields fields)

variable {α : Type} {levels more : Nat} {value : Value}

theorem Plain.mono (plain : Plain levels value) (le : levels ≤ more) : Plain more value := by
  induction plain generalizing more with
  | null => exact .null
  | bool value => exact .bool value
  | number fits => exact .number fits
  | string text => exact .string text
  | array inside ih =>
    obtain ⟨more, rfl⟩ := Nat.exists_eq_add_of_le' (Nat.le_trans (Nat.le_add_left 1 _) le)
    exact .array fun item member => ih item member (Nat.le_of_succ_le_succ le)
  | fields distinct inside ih =>
    obtain ⟨more, rfl⟩ := Nat.exists_eq_add_of_le' (Nat.le_trans (Nat.le_add_left 1 _) le)
    exact .fields distinct fun field member => ih field member (Nat.le_of_succ_le_succ le)

@[simp] theorem plain_u8 (value : UInt8) : Plain levels (ofNat value.toNat) := by
  have small := value.toNat_lt
  exact .number (by omega)

@[simp] theorem plain_u16 (value : UInt16) : Plain levels (ofNat value.toNat) := by
  have small := value.toNat_lt
  exact .number (by omega)

@[simp] theorem plain_ofString (text : String) : Plain levels (ofString text) := .string text

@[simp] theorem plain_ofOctets (octets : Octets) : Plain (levels + 1) (ofOctets octets) := by
  apply Plain.array
  simp only [List.forall_mem_map]
  exact fun octet _ => plain_u8 octet

theorem plain_ofOption {toJson : α → Value} (each : ∀ value, Plain levels (toJson value))
    (value : Option α) : Plain levels (ofOption toJson value) := by
  cases value with
  | none => exact .null
  | some value => exact each value

end Json.Value

open Value

variable {levels : Nat}

namespace Apdu

theorem Le.plain_toJson (le : Le) : Plain (levels + 1) le.toJson := by
  cases le with
  | any => exact .string "Any"
  | exact count => exact .fields (by simp) (by simp)

theorem Command.plain_toJson (command : Command) : Plain 2 command.toJson := by
  have le : Plain 1 (ofOption Le.toJson command.le) := plain_ofOption Le.plain_toJson command.le
  exact .fields (by simp) (by simp [le])

theorem Response.plain_toJson (response : Response) : Plain 2 response.toJson :=
  .fields (by simp) (by simp)

end Apdu

theorem Dgi.plain_toJson (dgi : Dgi) : Plain 2 dgi.toJson := .fields (by simp) (by simp)

namespace Ndef

theorem Uri.plain_toJson (uri : Uri) : Plain (levels + 1) uri.toJson :=
  .fields (by simp) (by simp)

theorem AlternativeCarrier.plain_toJson (carrier : AlternativeCarrier) :
    Plain (levels + 3) carrier.toJson := by
  have auxiliary : Plain (levels + 2) (.array (carrier.auxiliary.map ofOctets)) := by
    apply Plain.array
    simp
  exact .fields (by simp) (by simp [PowerState.toJson, auxiliary])

theorem HandoverError.plain_toJson (error : HandoverError) : Plain (levels + 2) error.toJson :=
  .fields (by simp) (by simp)

theorem plain_payloadToJson {payload : Value} (plain : Plain levels payload) :
    Plain (levels + 1) (payloadToJson payload) :=
  .fields (by simp) (by simpa using plain)

theorem plain_optionalPayload (payload : Option Octets) :
    Plain (levels + 2) (payloadToJson (ofOption ofOctets payload)) :=
  plain_payloadToJson (plain_ofOption plain_ofOctets payload)

/-- A body is named for its kind. -/
theorem plain_body {name : String} {content : Value} (plain : Plain levels content) :
    Plain (levels + 1) (ofFields [(name, content)]) :=
  .fields (by simp) (by simpa using plain)

mutual

theorem RecordBody.plain_toJson (body : RecordBody) : Plain (4 * body.depth + 4) body.toJson := by
  cases body with
  | handoverSelect select =>
    obtain ⟨major, minor, records⟩ := select
    have parts := Record.plain_map_toJson records
    simp only [RecordBody.depth, RecordBody.toJson, HandoverSelect.toJson]
    exact plain_body (.fields (by simp) (by simpa using .array parts))
  | uri value | alternativeCarrier value | error value =>
    rw [RecordBody.toJson]
    exact plain_body value.plain_toJson
  | external value | brandProtection value =>
    rw [RecordBody.toJson]
    exact plain_body (plain_optionalPayload value.payload?)
  | generic value =>
    rw [RecordBody.toJson]
    exact plain_body (plain_payloadToJson (plain_ofOctets value))

theorem Record.plain_toJson (record : Record) : Plain (4 * record.depth + 5) record.toJson := by
  obtain ⟨tnf, type, id, body⟩ := record
  have inner := RecordBody.plain_toJson body
  simp only [Record.depth, Record.toJson]
  exact .fields (by simp) (by simp [Tnf.toJson, inner])

theorem Record.plain_map_toJson (records : List Record) :
    ∀ value ∈ records.map Record.toJson, Plain (4 * Record.deepest records + 5) value := by
  cases records with
  | nil => nofun
  | cons record records =>
    have first := Record.plain_toJson record
    have later := Record.plain_map_toJson records
    simp only [List.map_cons, List.forall_mem_cons, Record.deepest]
    constructor
    · exact first.mono (by omega)
    · exact fun value member => (later value member).mono (by omega)

end

end Ndef
end BridgeTag
