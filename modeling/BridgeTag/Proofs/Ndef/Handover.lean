import BridgeTag.Proofs.Ndef.Dispatch
import BridgeTag.Proofs.Ndef.Encoding

/-! Handover selects. One condition on the local records decides what is decoded and what is encoded,
and under it carriers and error are all the records there are. -/
namespace BridgeTag.Ndef.HandoverSelect

/-- The local records are the carriers, in their order, and the error where there is one. -/
structure Sorted (select : HandoverSelect) : Prop where
  carriers : (select.records.map Record.body).filter (·.kind = .alternativeCarrier) =
    select.carriers.map .alternativeCarrier
  error : (select.records.map Record.body).filter (·.kind = .error) =
    select.error?.toList.map .error
  counted : select.carriers.length + (if select.error?.isSome then 1 else 0) =
    select.records.length

variable {registry : Registry} {select : HandoverSelect} {records : List Record}
  {payload : Octets} {body : RecordBody}

/-! What the two accessors find among the local records, whatever these are. -/

section Access

variable {α : Type} {kind : BodyKind} {access : Record → Except Failure α} {wrap : α → RecordBody}
  (opens : ∀ record : Record, (access record).toOption.map wrap =
    if record.body.kind = kind then some record.body else none)
include opens

/-- An accessor for the bodies of one kind finds all of them, in their order. -/
theorem filter_kind (records : List Record) :
    (records.map Record.body).filter (·.kind = kind) =
      (records.filterMap fun record => (access record).toOption).map wrap := by
  rw [List.map_filterMap, ← List.filterMap_eq_filter, List.filterMap_map]
  apply List.filterMap_congr
  intro record _
  rw [opens record]
  simp [Option.guard]

theorem countP_kind (records : List Record) :
    (records.countP fun part => part.body.kind = kind) =
      (records.filterMap fun record => (access record).toOption).length := by
  have lengths := congrArg List.length (filter_kind opens records)
  rwa [List.filter_map, List.length_map, List.length_map, ← List.countP_eq_length_filter] at lengths

end Access

/-- Where there is one error at most, the accessor gives all there are. -/
theorem toList_error? (single : (select.records.countP fun part => part.body.kind = .error) ≤ 1) :
    select.error?.toList = select.records.filterMap fun record => record.handoverError.toOption := by
  rw [countP_kind Record.toOption_handoverError] at single
  have first : select.error? =
      (select.records.filterMap fun record => record.handoverError.toOption).head? := by
    rw [List.head?_filterMap]
    rfl
  rw [first]
  generalize select.records.filterMap (fun record => record.handoverError.toOption) = found
    at single
  match found, single with
  | [], _ => rfl
  | [_], _ => rfl

theorem sorted_of_admits (admits : Admits select.records) : Sorted select := by
  have error := toList_error? admits.single
  refine ⟨filter_kind Record.toOption_alternativeCarrier _, ?_, ?_⟩
  · rw [error]
    exact filter_kind Record.toOption_handoverError _
  · have carriers := countP_kind Record.toOption_alternativeCarrier select.records
    have single := countP_kind Record.toOption_handoverError select.records
    have others : (select.records.countP fun part => part.body.kind = .error) =
        select.records.countP fun part => ¬ part.body.kind = .alternativeCarrier := by
      apply List.countP_congr
      intro part member
      rcases admits.kinds part member with kind | kind <;> simp [kind]
    have all := List.length_eq_countP_add_countP
      (fun part : Record => decide (part.body.kind = .alternativeCarrier)) (l := select.records)
    have present : select.error?.toList.length = if select.error?.isSome then 1 else 0 := by
      cases select.error? <;> rfl
    simp only [decide_eq_true_eq] at all
    rw [← present, error, ← single, others, all, carriers]
    rfl

theorem ofVersion_eq (version : UInt8) (records : List Record) :
    ofVersion version records = ⟨version >>> 4, version &&& 0x0F, records⟩ := by
  have high : UInt8.ofNat (version.toNat / 16) = version >>> 4 := by
    apply UInt8.toNat_inj.mp
    have small := version.toNat_lt
    rw [UInt8.toNat_ofNat', UInt8.toNat_shiftRight, Nat.shiftRight_eq_div_pow]
    show version.toNat / 16 % 256 = version.toNat / 16
    omega
  have low : UInt8.ofNat (version.toNat % 16) = version &&& 0x0F := by
    apply UInt8.toNat_inj.mp
    have masked : (version &&& 0x0F).toNat = version.toNat % 2 ^ 4 :=
      Nat.and_two_pow_sub_one_eq_mod version.toNat 4
    rw [masked, UInt8.toNat_ofNat']
    omega
  rw [ofVersion, high, low]

theorem admits_nil : Admits [] := ⟨by simp, by simp⟩

/-- A version octet holds four bits for each of its numbers. -/
theorem valid_ofVersion (version : UInt8) (records : List Record) :
    (ofVersion version records).valid = true ↔ Admits records := by
  have octet := version.toNat_lt
  have small (number : Nat) (bound : number ≤ 15) : UInt8.ofNat number ≤ 15 := by
    rw [UInt8.le_iff_toNat_le, UInt8.toNat_ofNat']
    show number % 256 ≤ 15
    omega
  have major : (ofVersion version records).major ≤ 15 := small _ (by omega)
  have minor : (ofVersion version records).minor ≤ 15 := small _ (by omega)
  rw [valid_iff]
  constructor
  · exact Valid.admits
  · exact fun admits => ⟨major, minor, admits⟩

theorem decode_eq_ok :
    Decoder.handoverSelect payload (fun message _ => Message.decode registry message) = .ok body ↔
      ∃ version message records, payload = version :: message ∧
        (message = [] ∧ records = [] ∨ Message.decode registry message = .ok records) ∧
        Admits records ∧ body = .handoverSelect (.ofVersion version records) := by
  rw [Decoder.handoverSelect_eq_ok]
  simp only [valid_ofVersion]
  constructor
  · intro decoded
    obtain ⟨version, message, records, spelled, found, admits, made⟩ := decoded
    exact ⟨version, message, records, spelled, found.imp_right And.right, admits, made⟩
  · intro decoded
    obtain ⟨version, message, records, spelled, found, admits, made⟩ := decoded
    refine ⟨version, message, records, spelled, ?_, admits, made⟩
    by_cases nothing : message = []
    · subst nothing
      rcases found with empty | found
      · exact .inl empty
      · rw [Message.decode_nil] at found
        cases found
    · rcases found with ⟨none, _⟩ | found
      · exact absurd none nothing
      · exact .inr ⟨nothing, found⟩

theorem encodes_iff : (∃ payload, (RecordBody.handoverSelect select).encode = .ok payload) ↔
    select.major ≤ 15 ∧ select.minor ≤ 15 ∧ Admits select.records ∧
      ∀ part ∈ select.records, ∃ octets, part.encode = .ok octets := by
  simp only [RecordBody.encode_handoverSelect, Record.exists_encode, ← Record.exists_frames,
    valid_iff]
  constructor
  · intro encoded
    obtain ⟨_, ⟨major, minor, admits⟩, frames, framed, _⟩ := encoded
    exact ⟨major, minor, admits, frames, framed⟩
  · intro fit
    obtain ⟨major, minor, admits, frames, framed⟩ := fit
    exact ⟨_, ⟨major, minor, admits⟩, frames, framed, rfl⟩

/-- One condition on the local records decides both ways, whatever the registry. A payload is decoded
exactly where a version is followed by nothing or by a message of such records, and what it gives has
the halves of the version octet for its numbers, the records of the message, and no records but its
carriers and its error. A handover select is encoded exactly where its records are such and are all
encoded, and its numbers have four bits. -/
theorem accepts_iff_admits (registry : Registry) :
    (∀ payload, (∃ body, Decoder.handoverSelect payload
        (fun message _ => Message.decode registry message) = .ok body) ↔
      ∃ version message, payload = version :: message ∧
        (message = [] ∨ ∃ records, Message.decode registry message = .ok records ∧
          Admits records)) ∧
    (∀ payload body, Decoder.handoverSelect payload
        (fun message _ => Message.decode registry message) = .ok body →
      ∃ version message select, payload = version :: message ∧ body = .handoverSelect select ∧
        (message = [] ∧ select.records = [] ∨
          Message.decode registry message = .ok select.records) ∧
        (select.major ≤ 15 ∧ select.minor ≤ 15) ∧
        (select.major = version >>> 4 ∧ select.minor = version &&& 0x0F) ∧ Sorted select) ∧
    ∀ select, (∃ payload, (RecordBody.handoverSelect select).encode = .ok payload) ↔
      select.major ≤ 15 ∧ select.minor ≤ 15 ∧ Admits select.records ∧
        ∀ part ∈ select.records, ∃ octets, part.encode = .ok octets := by
  refine ⟨?_, ?_, fun select => encodes_iff⟩
  · intro payload
    simp only [decode_eq_ok]
    constructor
    · intro decoded
      obtain ⟨_, version, message, records, spelled, found, admits, _⟩ := decoded
      rcases found with ⟨nothing, _⟩ | found
      · exact ⟨version, message, spelled, .inl nothing⟩
      · exact ⟨version, message, spelled, .inr ⟨records, found, admits⟩⟩
    · intro accepted
      obtain ⟨version, message, spelled, nothing | ⟨records, found, admits⟩⟩ := accepted
      · exact ⟨_, version, message, [], spelled, .inl ⟨nothing, rfl⟩, admits_nil, rfl⟩
      · exact ⟨_, version, message, records, spelled, .inr found, admits, rfl⟩
  · intro payload body decoded
    obtain ⟨version, message, records, spelled, found, admits, rfl⟩ := decode_eq_ok.mp decoded
    obtain ⟨major, minor, _⟩ := valid_iff.mp ((valid_ofVersion version records).mpr admits)
    have halves := ofVersion_eq version records
    refine ⟨version, message, _, spelled, rfl, found, ⟨major, minor⟩, ?_, ?_⟩
    · rw [halves]
      exact ⟨rfl, rfl⟩
    · exact sorted_of_admits admits

end BridgeTag.Ndef.HandoverSelect
