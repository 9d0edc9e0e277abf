import BridgeTag.Ndef.Record.Access
import BridgeTag.Proofs.Json.Apdu
import BridgeTag.Proofs.Json.Plain
import BridgeTag.Proofs.Json.Reading

/-! Data in texts and back, under any writer and reader that agree on the values between them: a
text names one value, and that value is made into the data that wrote it, so that no two data are
written alike. The writer and the reader of this library agree. -/
namespace BridgeTag

open Json Apdu Ndef

namespace Json

/-- What is relied on of a writer and a reader of texts: what is written with so many levels as the
reader goes into is read back, and at any depth a text is that of one value only. -/
structure Agree (write : Value → String) (read? : String → Option Value) : Prop where
  reads_back : ∀ value, value.Plain levels → read? (write value) = some value
  tells_apart : ∀ depth value value', value.Plain depth → value'.Plain depth →
    write value = write value' → value = value'

theorem agree_compact : Agree Value.compact Value.parse? where
  reads_back value _ := Value.parse?_compact value
  tells_apart _ _ _ _ _ same := Value.compact_injective same

section

variable {α : Type} {write : Value → String} {read? : String → Option Value} {toJson : α → Value}
  {ofJson? : Nat → Value → Option α}

def fromText? (read? : String → Option Value) (ofJson? : Nat → Value → Option α) (text : String) :
    Option α :=
  (read? text).bind (ofJson? levels)

theorem Agree.fromText?_toJson (agree : Agree write read?) {data : α}
    (plain : (toJson data).Plain levels) (made : ofJson? levels (toJson data) = some data) :
    fromText? read? ofJson? (write (toJson data)) = some data := by
  simp only [fromText?, agree.reads_back _ plain, Option.bind_some, made]

/-- Data are told apart by their texts where enough levels make each out of its own. -/
theorem Agree.injective_toJson (agree : Agree write read?)
    (made : ∀ data : α, ∃ least, (toJson data).Plain least ∧
      ∀ more, ofJson? (more + least) (toJson data) = some data) :
    Function.Injective fun data => write (toJson data) := by
  intro data data' same
  obtain ⟨least, plain, one⟩ := made data
  obtain ⟨least', plain', other⟩ := made data'
  have value : toJson data = toJson data' :=
    agree.tells_apart (least' + least) _ _ (plain.mono (Nat.le_add_left least least'))
      (plain'.mono (Nat.le_add_right least' least)) same
  have first := one least'
  have second := other least
  simp only [value, Nat.add_comm least' least, second, Option.some.injEq] at first
  exact first.symm

end

/-- Commands, responses and data groups come back from their texts, and so do records and bodies as
long as handover-select bodies stand at most thirty deep inside one another; different data always
have different texts. -/
structure ReadsBack (write : Value → String) (read? : String → Option Value) : Prop where
  command : ∀ command : Command,
    fromText? read? Command.ofJson? (write command.toJson) = some command
  response : ∀ response : Response,
    fromText? read? Response.ofJson? (write response.toJson) = some response
  dgi : ∀ dgi : Dgi, fromText? read? Dgi.ofJson? (write dgi.toJson) = some dgi
  record : ∀ record : Record, record.depth ≤ 30 →
    fromText? read? Record.ofJson? (write record.toJson) = some record
  body : ∀ body : RecordBody, body.depth ≤ 30 →
    fromText? read? RecordBody.ofJson? (write body.toJson) = some body
  command_apart : Function.Injective fun command : Command => write command.toJson
  response_apart : Function.Injective fun response : Response => write response.toJson
  dgi_apart : Function.Injective fun dgi : Dgi => write dgi.toJson
  record_apart : Function.Injective fun record : Record => write record.toJson
  body_apart : Function.Injective fun body : RecordBody => write body.toJson

end Json

/-- Any writer and reader that agree read data back from their texts, and those of this library
agree. Converters of certificates stand beside a record and have no part in it. -/
theorem Json.data_read_back : Agree Value.compact Value.parse? ∧
    ∀ write read?, Agree write read? → ReadsBack write read? := by
  refine ⟨agree_compact, fun write read? agree => ?_⟩
  constructor
  case command =>
    intro command
    have plain := command.plain_toJson.mono (show 2 ≤ levels by decide)
    exact agree.fromText?_toJson plain (Command.ofJson?_toJson command)
  case response =>
    intro response
    have plain := response.plain_toJson.mono (show 2 ≤ levels by decide)
    exact agree.fromText?_toJson plain (Response.ofJson?_toJson response)
  case dgi =>
    intro dgi
    have plain := dgi.plain_toJson.mono (show 2 ≤ levels by decide)
    exact agree.fromText?_toJson plain (Dgi.ofJson?_toJson dgi)
  case record =>
    intro record nests
    have enough : 4 * record.depth + 5 ≤ levels := by unfold levels; omega
    exact agree.fromText?_toJson (record.plain_toJson.mono enough)
      (Record.ofJson?_toJson record levels enough)
  case body =>
    intro body nests
    have enough : 4 * body.depth + 4 ≤ levels := by unfold levels; omega
    exact agree.fromText?_toJson (body.plain_toJson.mono enough)
      (RecordBody.ofJson?_toJson body levels enough)
  case command_apart =>
    exact agree.injective_toJson fun command =>
      ⟨2, command.plain_toJson, fun _ => Command.ofJson?_toJson command⟩
  case response_apart =>
    exact agree.injective_toJson fun response =>
      ⟨2, response.plain_toJson, fun _ => Response.ofJson?_toJson response⟩
  case dgi_apart =>
    exact agree.injective_toJson fun dgi =>
      ⟨2, dgi.plain_toJson, fun _ => Dgi.ofJson?_toJson dgi⟩
  case record_apart =>
    exact agree.injective_toJson fun record =>
      ⟨4 * record.depth + 5, record.plain_toJson, fun more =>
        Record.ofJson?_toJson record _ (Nat.le_add_left _ more)⟩
  case body_apart =>
    exact agree.injective_toJson fun body =>
      ⟨4 * body.depth + 4, body.plain_toJson, fun more =>
        RecordBody.ofJson?_toJson body _ (Nat.le_add_left _ more)⟩

namespace Json

/-- A select record of no possible version, with another inside and one record of every other kind. -/
def selectSample : Record :=
  .ofHandoverSelect ⟨16, 255, [
    .ofHandoverSelect ⟨1, 2, []⟩,
    .ofAlternativeCarrier ⟨.unknown, [0x30], [[], [0x61, 0x31]]⟩,
    .ofError ⟨1, [0xFF]⟩,
    .ofUri ⟨0, "\"\\ \x00\n é €"⟩,
    .ofExternal [] ⟨none⟩,
    .ofBrandProtection ⟨some []⟩,
    .ofGeneric .media [] []]⟩

theorem selectSample_read_back : selectSample.depth ≤ 30 ∧
    fromText? Value.parse? Record.ofJson? selectSample.toJson.compact = some selectSample := by
  have nests : selectSample.depth ≤ 30 := by decide
  obtain ⟨agree, readsBack⟩ := data_read_back
  exact ⟨nests, (readsBack _ _ agree).record selectSample nests⟩

end Json
end BridgeTag
