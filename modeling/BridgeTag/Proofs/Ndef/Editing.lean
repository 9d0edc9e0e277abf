import BridgeTag.Proofs.Ndef.RoundTrip

/-! Records that are made from their content and changed through calls. Type and body of a record
stand apart, but making it puts them in step and no call parts them again; so the accessors of one
kind serve for as long as the record lasts, and what it is encoded to is decoded to it. -/
namespace BridgeTag.Ndef

def BodyKind.accessor : BodyKind → String
  | uri => "uri"
  | handoverSelect => "handover_select"
  | alternativeCarrier => "alternative_carrier"
  | error => "error_record"
  | external => "external_record"
  | brandProtection => "brand_protection"
  | generic => "generic_record"

def RecordBody.parts : RecordBody → List Record
  | .handoverSelect select => select.records
  | _ => []

namespace Record

inductive Source where
  | uri (uri : Uri)
  | handoverSelect (select : HandoverSelect)
  | alternativeCarrier (carrier : AlternativeCarrier)
  | error (error : HandoverError)
  | brandProtection (certificate : BrandProtection)

def Source.record : Source → Record
  | uri value => .ofUri value
  | handoverSelect value => .ofHandoverSelect value
  | alternativeCarrier value => .ofAlternativeCarrier value
  | error value => .ofError value
  | brandProtection value => .ofBrandProtection value

/-- New content for the bodies of one kind, told from the old. -/
inductive Change where
  | uri (change : Uri → Uri)
  | handoverSelect (change : HandoverSelect → HandoverSelect)
  | alternativeCarrier (change : AlternativeCarrier → AlternativeCarrier)
  | error (change : HandoverError → HandoverError)
  | external (change : External → External)
  | brandProtection (change : BrandProtection → BrandProtection)
  | generic (change : Octets → Octets)

namespace Change

def kind : Change → BodyKind
  | uri _ => .uri
  | handoverSelect _ => .handoverSelect
  | alternativeCarrier _ => .alternativeCarrier
  | error _ => .error
  | external _ => .external
  | brandProtection _ => .brandProtection
  | generic _ => .generic

/-- The changed body; a body of another kind stays as it is. -/
def on : Change → RecordBody → RecordBody
  | uri change, .uri value => .uri (change value)
  | handoverSelect change, .handoverSelect value => .handoverSelect (change value)
  | alternativeCarrier change, .alternativeCarrier value => .alternativeCarrier (change value)
  | error change, .error value => .error (change value)
  | external change, .external value => .external (change value)
  | brandProtection change, .brandProtection value => .brandProtection (change value)
  | generic change, .generic value => .generic (change value)
  | _, body => body

def addRecord (part : Record) : Change :=
  handoverSelect fun select => { select with records := select.records ++ [part] }

def addReference (reference : Octets) : Change :=
  alternativeCarrier fun carrier =>
    { carrier with auxiliary := carrier.auxiliary ++ [reference] }

end Change

def look (record : Record) : BodyKind → Except Failure RecordBody
  | .uri => record.uri.map .uri
  | .handoverSelect => record.handoverSelect.map .handoverSelect
  | .alternativeCarrier => record.alternativeCarrier.map .alternativeCarrier
  | .error => record.handoverError.map .error
  | .external => record.external.map .external
  | .brandProtection => record.brandProtection.map .brandProtection
  | .generic => record.generic.map .generic

/-- A change in place of the bodies of its kind, and the record afterwards. -/
def edit (record : Record) : Change → Except Failure Unit × Record
  | .uri change => record.modify .uri change
  | .handoverSelect change => record.modify .handoverSelect change
  | .alternativeCarrier change => record.modify .alternativeCarrier change
  | .error change => record.modify .error change
  | .external change => record.modify .external change
  | .brandProtection change => record.modify .brandProtection change
  | .generic change => record.modify .generic change

/-- The changed record by itself, where the change is made. -/
def edited (record : Record) : Change → Except Failure Record
  | .uri change => record.editUri change
  | .handoverSelect change => record.editHandoverSelect change
  | .alternativeCarrier change => record.editAlternativeCarrier change
  | .error change => record.editHandoverError change
  | .external change => record.editExternal change
  | .brandProtection change => record.editBrandProtection change
  | .generic change => record.editGeneric change

inductive Call where
  | withId (id : Octets)
  | edit (change : Change)

namespace Call

/-- The record after a call, whether the call fails or not. -/
def after (record : Record) : Call → Record
  | withId id => record.withId id
  | edit change => (record.edit change).2

def id? : Call → Option Octets
  | withId id => some id
  | edit _ => none

end Call

/-- Records made from content, changed by calls or not, with no others inside them. -/
inductive Made : Record → Prop
  | source (source : Source) (inside : ∀ part ∈ source.record.body.parts, Made part) :
      Made source.record
  | call {record : Record} (made : Made record) (call : Call)
      (inside : ∀ part ∈ (call.after record).body.parts, Made part) : Made (call.after record)

/-- The record that was made from some content and went through some calls, each of which left no
records inside it but made ones. -/
inductive Run (source : Source) : List Call → Record → Prop
  | start (inside : ∀ part ∈ source.record.body.parts, Made part) : Run source [] source.record
  | call {calls : List Call} {record : Record} (run : Run source calls record) (call : Call)
      (inside : ∀ part ∈ (call.after record).body.parts, Made part) :
      Run source (calls ++ [call]) (call.after record)

variable {record part : Record} {source : Source} {calls : List Call} {octets : Octets}

@[simp] theorem Change.kind_on (change : Change) (body : RecordBody) :
    (change.on body).kind = body.kind := by
  cases change <;> cases body <;> rfl

/-- Only changes of a handover select touch the records inside. -/
theorem Change.parts_on {change : Change} (flat : change.kind ≠ .handoverSelect)
    (body : RecordBody) : (change.on body).parts = body.parts := by
  cases change <;> cases body <;> first | rfl | exact absurd rfl flat

/-- Each accessor is for the bodies of its kind, and names itself where it fails. -/
theorem look_eq (record : Record) (kind : BodyKind) : record.look kind =
    if kind = record.body.kind then .ok record.body
    else .error ⟨.record, kind.accessor, .bodyMismatch⟩ := by
  obtain ⟨tnf, type, id, body⟩ := record
  cases kind <;> cases body <;> rfl

/-- A change is made where the body is of its kind; where it fails the record is as it was. -/
theorem edit_eq (record : Record) (change : Change) : record.edit change =
    if change.kind = record.body.kind then (.ok (), { record with body := change.on record.body })
    else (.error ⟨.record, change.kind.accessor ++ "_mut", .bodyMismatch⟩, record) := by
  obtain ⟨tnf, type, id, body⟩ := record
  cases change <;> cases body <;> rfl

theorem edited_eq (record : Record) (change : Change) : record.edited change =
    if change.kind = record.body.kind then .ok { record with body := change.on record.body }
    else .error ⟨.record, change.kind.accessor ++ "_mut", .bodyMismatch⟩ := by
  obtain ⟨tnf, type, id, body⟩ := record
  cases change <;> cases body <;> rfl

namespace Call

theorem after_edit (record : Record) (change : Change) : (edit change).after record =
    if change.kind = record.body.kind then { record with body := change.on record.body }
    else record := by
  rw [after, Record.edit_eq]
  by_cases same : change.kind = record.body.kind
  · rw [if_pos same, if_pos same]
  · rw [if_neg same, if_neg same]

/-- All that a call does: it gives another identifier, or a body of the kind there was. -/
theorem after_eq (call : Call) (record : Record) : ∃ body : RecordBody,
    body.kind = record.body.kind ∧
      call.after record = ⟨record.tnf, record.type, call.id?.getD record.id, body⟩ := by
  cases call with
  | withId id => exact ⟨record.body, rfl, rfl⟩
  | edit change =>
    rw [after_edit]
    split
    next => exact ⟨change.on record.body, change.kind_on record.body, rfl⟩
    next => exact ⟨record.body, rfl, by cases record; rfl⟩

end Call

theorem consistent_of_parts (dispatched : record.body.kind = BodyKind.ofType record.tnf record.type)
    (inside : ∀ part ∈ record.body.parts, part.Consistent) : record.Consistent := by
  refine .intro dispatched ?_
  intro select same part member
  rw [same] at inside
  exact inside part member

/-- The invariant of making and changing: the body is of the kind that the type asks for. -/
theorem Made.consistent (made : record.Made) : record.Consistent := by
  induction made with
  | source source inside ih =>
    refine consistent_of_parts ?_ ih
    cases source <;> rfl
  | @call record made call inside before ih =>
    obtain ⟨dispatched, _⟩ := before
    obtain ⟨body, kind, same⟩ := call.after_eq record
    rw [same] at ih ⊢
    exact consistent_of_parts (kind.trans dispatched) ih

namespace Run

theorem made (run : Run source calls record) : record.Made := by
  induction run with
  | start inside => exact .source source inside
  | call run call inside ih => exact .call ih call inside

theorem inside (run : Run source calls record) : ∀ part ∈ record.body.parts, part.Made := by
  cases run with
  | start inside => exact inside
  | call _ _ inside => exact inside

theorem label (run : Run source calls record) : record.tnf = source.record.tnf ∧
    record.type = source.record.type ∧ record.body.kind = source.record.body.kind := by
  induction run with
  | start => exact ⟨rfl, rfl, rfl⟩
  | call run call inside ih =>
    obtain ⟨tnf, type, kind⟩ := ih
    obtain ⟨body, kept, same⟩ := call.after_eq _
    rw [same]
    exact ⟨tnf, type, kept.trans kind⟩

theorem id (run : Run source calls record) :
    record.id = (calls.filterMap Call.id?).getLast?.getD [] := by
  induction run with
  | start => cases source <;> rfl
  | call run call inside ih =>
    obtain ⟨body, _, same⟩ := call.after_eq _
    rw [same, List.filterMap_append, List.getLast?_append]
    cases call with
    | withId id => rfl
    | edit change => exact ih

/-! Ways to go on: another identifier, any other content without records inside, one more record. -/

theorem withId (run : Run source calls record) (id : Octets) :
    Run source (calls ++ [.withId id]) (record.withId id) :=
  .call run (.withId id) run.inside

theorem edit_flat (run : Run source calls record) {change : Change}
    (flat : change.kind ≠ .handoverSelect) :
    Run source (calls ++ [.edit change]) ((Call.edit change).after record) := by
  refine .call run (.edit change) ?_
  rw [Call.after_edit]
  split
  next => exact (change.parts_on flat record.body) ▸ run.inside
  next => exact run.inside

theorem edit_addRecord (run : Run source calls record) (made : part.Made) :
    Run source (calls ++ [.edit (.addRecord part)])
      ((Call.edit (.addRecord part)).after record) := by
  refine .call run (.edit (.addRecord part)) ?_
  rw [Call.after_edit]
  split
  next same =>
    obtain ⟨tnf, type, id, body⟩ := record
    cases body with
    | handoverSelect select =>
      intro other member
      rcases List.mem_append.mp member with before | added
      · exact run.inside other before
      · rw [List.mem_singleton.mp added]
        exact made
    | _ => cases same
  next => exact run.inside

end Run

/-- However many calls a record has been through, it has the type it was made with and a body of the
kind it was made with, and the identifier of the last call that gave one. The accessors for this kind
serve, and all others fail and change nothing. Where the record can be encoded, its frame is decoded
under the built-in registry to this record, and to the last octet. -/
theorem Run.keeps_type_and_body (run : Run source calls record) :
    (record.tnf = source.record.tnf ∧ record.type = source.record.type ∧
      record.body.kind = source.record.body.kind) ∧
    record.id = (calls.filterMap Call.id?).getLast?.getD [] ∧
    (∀ kind, record.look kind = if kind = source.record.body.kind then .ok record.body
      else .error ⟨.record, kind.accessor, .bodyMismatch⟩) ∧
    (∀ change : Change,
      (change.kind = source.record.body.kind →
        record.edit change = (.ok (), { record with body := change.on record.body }) ∧
          record.edited change = .ok { record with body := change.on record.body } ∧
          (Call.edit change).after record = { record with body := change.on record.body }) ∧
      (change.kind ≠ source.record.body.kind →
        record.edit change =
            (.error ⟨.record, change.kind.accessor ++ "_mut", .bodyMismatch⟩, record) ∧
          record.edited change =
            .error ⟨.record, change.kind.accessor ++ "_mut", .bodyMismatch⟩ ∧
          (Call.edit change).after record = record)) ∧
    ∀ octets, record.encode = .ok octets →
      decode .builtIn octets = .ok (record, octets.length) := by
  have label := run.label
  refine ⟨label, run.id, ?_, ?_, fun _ => decode_of_encode run.made.consistent⟩
  · intro kind
    rw [look_eq, label.2.2]
  · intro change
    rw [Call.after_edit, edit_eq, edited_eq, label.2.2]
    constructor
    · intro same
      simp only [if_pos same, and_self]
    · intro differ
      simp only [if_neg differ, and_self]

def editedCarrier : Record :=
  (Call.edit (.addReference [0x31])).after (.ofAlternativeCarrier ⟨.active, [0x30], []⟩)

/-- One call that fails, one for the identifier, one for the records inside. -/
def editedCalls : List Call :=
  [.edit (.uri fun _ => ⟨0, ""⟩), .withId [0x69], .edit (.addRecord editedCarrier)]

def editedSelect : Record :=
  (ofHandoverSelect ⟨1, 2, [editedCarrier]⟩).withId [0x69]

def editedOctets : Octets := [
  0x19, 0x02, 0x0C, 0x01, 0x48, 0x73, 0x69, 0x12,
  0xD1, 0x02, 0x06, 0x61, 0x63, 0x01, 0x01, 0x30, 0x01, 0x01, 0x31]

theorem run_editedCalls : Run (.handoverSelect ⟨1, 2, []⟩) editedCalls editedSelect := by
  have carrier : editedCarrier.Made := .call (.source (.alternativeCarrier _) nofun) _ nofun
  have start : Run (.handoverSelect ⟨1, 2, []⟩) [] _ := .start nofun
  have refused : Run _ [.edit (.uri fun _ => ⟨0, ""⟩)] _ := start.edit_flat nofun
  exact (refused.withId [0x69]).edit_addRecord carrier

theorem keeps_editedSelect : Run (.handoverSelect ⟨1, 2, []⟩) editedCalls editedSelect ∧
    editedSelect.encode = .ok editedOctets ∧ editedSelect.id = [0x69] ∧
    editedSelect.look .uri = .error ⟨.record, "uri", .bodyMismatch⟩ ∧
    editedSelect.look .handoverSelect = .ok editedSelect.body ∧
    editedSelect.edit (.uri fun _ => ⟨0, ""⟩) =
      (.error ⟨.record, "uri_mut", .bodyMismatch⟩, editedSelect) ∧
    decode .builtIn editedOctets = .ok (editedSelect, 19) := by
  have encoded : editedSelect.encode = .ok editedOctets := rfl
  obtain ⟨_, id, look, edits, back⟩ := run_editedCalls.keeps_type_and_body
  have refused := (edits (.uri fun _ => ⟨0, ""⟩)).2 (by decide)
  exact ⟨run_editedCalls, encoded, id, look .uri, look .handoverSelect, refused.1, back _ encoded⟩

end Record
end BridgeTag.Ndef
