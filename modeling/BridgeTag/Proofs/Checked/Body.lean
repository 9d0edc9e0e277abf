import BridgeTag.Proofs.Checked.Cursor
import BridgeTag.Proofs.Ndef.Dispatch

/-! Payloads read with every access checked, each by the decoder of its kind. Registries bind pairs
to the decoders of this library; which pairs makes no difference. -/
namespace BridgeTag.Ndef

open Cursor Checked

/-- Pairs bound to kinds of bodies, no pair bound twice. -/
structure Kinds where
  bindings : List (Registry.Key × BodyKind)
  distinct : (bindings.map Prod.fst).Nodup := by decide

def Kinds.kind (kinds : Kinds) (tnf : Tnf) (type : Octets) : BodyKind :=
  (kinds.bindings.lookup (tnf, type)).getD (if tnf = .external then .external else .generic)

namespace Registry

def decoders (bindings : List (Key × BodyKind)) : List (Key × Decoder) :=
  bindings.map fun (key, kind) => (key, kind.decoder)

@[simp] theorem map_fst_decoders (bindings : List (Key × BodyKind)) :
    (decoders bindings).map Prod.fst = bindings.map Prod.fst := by
  simp [decoders, Function.comp_def]

theorem lookup_decoders (bindings : List (Key × BodyKind)) (key : Key) :
    (decoders bindings).lookup key = (bindings.lookup key).map BodyKind.decoder := by
  induction bindings with
  | nil => rfl
  | cons binding bindings ih =>
    obtain ⟨other, kind⟩ := binding
    simp only [decoders, List.map_cons, List.lookup_cons] at ih ⊢
    by_cases same : key = other
    · simp [same]
    · simp [beq_eq_false_iff_ne.mpr same, ih]

theorem exists_decoders {bindings : List (Key × Decoder)}
    (own : ∀ binding ∈ bindings, ∃ kind : BodyKind, binding.2 = kind.decoder) :
    ∃ kinds, bindings = decoders kinds := by
  induction bindings with
  | nil => exact ⟨[], rfl⟩
  | cons binding bindings ih =>
    obtain ⟨kind, same⟩ := own binding List.mem_cons_self
    obtain ⟨kinds, rfl⟩ := ih fun other member => own other (List.mem_cons_of_mem binding member)
    refine ⟨(binding.1, kind) :: kinds, ?_⟩
    simp [decoders, ← same]

def ofKinds (kinds : Kinds) : Registry where
  bindings := decoders kinds.bindings
  distinct := by
    rw [map_fst_decoders]
    exact kinds.distinct

def builtInKinds : Kinds where
  bindings := [
    ((.wellKnown, Uri.type), .uri),
    ((.wellKnown, HandoverSelect.type), .handoverSelect),
    ((.wellKnown, AlternativeCarrier.type), .alternativeCarrier),
    ((.wellKnown, HandoverError.type), .error),
    ((.external, BrandProtection.type), .brandProtection)]

theorem ofKinds_builtInKinds : ofKinds builtInKinds = builtIn := rfl

theorem retrieve_ofKinds (kinds : Kinds) (tnf : Tnf) (type : Octets) :
    (ofKinds kinds).retrieve tnf type = (kinds.kind tnf type).decoder := by
  simp only [retrieve, find?, ofKinds, lookup_decoders, Kinds.kind]
  cases kinds.bindings.lookup (tnf, type) with
  | some kind => rfl
  | none => cases tnf <;> rfl

/-- Registries that know this library's decoders only are all of this form. -/
theorem exists_ofKinds {registry : Registry}
    (own : ∀ binding ∈ registry.bindings, ∃ kind : BodyKind, binding.2 = kind.decoder) :
    ∃ kinds, registry = ofKinds kinds := by
  obtain ⟨bindings, distinct⟩ := registry
  obtain ⟨kinds, rfl⟩ := exists_decoders own
  rw [map_fst_decoders] at distinct
  exact ⟨⟨kinds, distinct⟩, rfl⟩

end Registry

def spoiledPayload : Halt := .failed ⟨.recordType, "decode", .invalidMessage⟩

namespace AlternativeCarrier

def checkedRead (machine : Machine) : Step AlternativeCarrier := do
  let powerState ← octet machine
  let carrier ← prefixed machine
  let count ← octet machine
  let auxiliary ← times (prefixed machine) count.toNat
  return ⟨PowerState.ofOctet powerState, carrier, auxiliary⟩

def checkedDecode (machine : Machine) (payload : Octets) : Checked AlternativeCarrier := do
  let (carrier, cursor) ← (ofOctets payload).need (checkedRead machine) spoiledPayload
  let left ← cursor.remaining
  if left = 0 then return carrier else .error spoiledPayload

variable {machine : Machine} {payload : Octets}

theorem inStep_checkedRead (holds : machine.Holds payload.length) :
    InStep payload (checkedRead machine) read := by
  apply inStep_bind (inStep_octet holds)
  intro powerState _ _ _
  apply inStep_bind (inStep_prefixed holds)
  intro carrier _ _ _
  apply inStep_bind (inStep_octet holds)
  intro count _ _ _
  apply inStep_bind (inStep_times (inStep_prefixed holds) _)
  intro auxiliary _ _ _
  exact inStep_pure _

theorem checkedDecode_eq (holds : machine.Holds payload.length) :
    checkedDecode machine payload = of (decode payload) := by
  have inStep := inStep_checkedRead holds
  have start := stands_ofOctets payload
  cases found : read (Reader.ofOctets payload) with
  | mk value after =>
    cases value with
    | none =>
      have short := need_of_none inStep start (congrArg Prod.fst found) spoiledPayload
      simp only [checkedDecode, short, decode, Reader.whole?, found]
      rfl
    | some carrier =>
      obtain ⟨cursor, needed, stands⟩ := need_of_some inStep start found spoiledPayload
      have left := remaining_eq stands
      obtain ⟨position, rest⟩ := after
      simp only [checkedDecode, needed, ok_bind, left, decode, Reader.whole?, found]
      cases rest with
      | nil => rfl
      | cons => rfl

end AlternativeCarrier

namespace HandoverSelect

def refused : Halt := .failed ⟨.recordType, "decode", .illegalArgument⟩

/-- Counts the errors among the records in a signed number of 32 bits. -/
def checkedErrors (count : Nat) : List Record → Checked Nat
  | [] => .ok count
  | record :: records =>
    match record.body with
    | .alternativeCarrier _ => checkedErrors count records
    | .error _ => if count + 1 < 2147483648 then checkedErrors (count + 1) records else .error .sum
    | _ => .error refused

def checkedValid (select : HandoverSelect) : Checked Unit :=
  if select.major ≤ 15 ∧ select.minor ≤ 15 then do
    let errors ← checkedErrors 0 select.records
    if errors ≤ 1 then return () else .error refused
  else .error refused

variable {records : List Record} {count : Nat}

theorem checkedErrors_eq (few : count + records.length < 2147483648) :
    checkedErrors count records =
      if records.all fun record => record.alternativeCarrier.isOk || record.handoverError.isOk then
        .ok (count + records.countP fun record => record.handoverError.isOk)
      else .error refused := by
  simp only [Record.isOk_alternativeCarrier, Record.isOk_handoverError]
  induction records generalizing count with
  | nil => rfl
  | cons record records ih =>
    obtain ⟨tnf, type, id, body⟩ := record
    simp only [List.length_cons] at few
    cases body with
    | alternativeCarrier carrier =>
      have rest := ih (show count + records.length < 2147483648 by omega)
      simpa [checkedErrors, RecordBody.kind] using rest
    | error error =>
      have rest := ih (show count + 1 + records.length < 2147483648 by omega)
      have fits : count + 1 < 2147483648 := by omega
      simpa [checkedErrors, RecordBody.kind, fits, Nat.add_assoc, Nat.add_comm 1] using rest
    | _ => simp [checkedErrors, RecordBody.kind]

theorem checkedValid_eq {select : HandoverSelect} (few : select.records.length < 2147483648) :
    select.checkedValid = if select.valid then .ok () else .error refused := by
  have errors := checkedErrors_eq (show 0 + select.records.length < 2147483648 by omega)
  simp only [checkedValid, errors, valid, Nat.zero_add, Bool.and_eq_true, decide_eq_true_eq]
  by_cases versions : select.major ≤ 15 ∧ select.minor ≤ 15
  · by_cases kinds : (select.records.all fun record =>
        record.alternativeCarrier.isOk || record.handoverError.isOk) = true
    · simp only [versions, kinds, and_self, if_true, true_and, ok_bind]
      rfl
    · simp only [versions, kinds, and_self, if_true]
      rfl
  · simp only [versions, if_false, false_and]

end HandoverSelect

/-- A body of its kind; messages inside are left to `nested`. -/
def BodyKind.checkedDecode (machine : Machine) (nested : Octets → Checked (List Record))
    (payload : Octets) : BodyKind → Checked RecordBody
  | .uri => of ((Uri.decode payload).map .uri)
  | .handoverSelect =>
    match payload with
    | [] => .error spoiledPayload
    | version :: message => do
      let records ← if message.isEmpty then .ok [] else nested message
      let select := HandoverSelect.ofVersion version records
      select.checkedValid
      return .handoverSelect select
  | .alternativeCarrier => do
    return .alternativeCarrier (← AlternativeCarrier.checkedDecode machine payload)
  | .error => of ((HandoverError.decode payload).map .error)
  | .external => .ok (.external ⟨some payload⟩)
  | .brandProtection => .ok (.brandProtection ⟨some payload⟩)
  | .generic => .ok (.generic payload)

variable {machine : Machine} {nested : Octets → Checked (List Record)} {registry : Registry}
  {payload octets : Octets} {records : List Record}

theorem Message.length_records_of_chained {begins : Bool}
    (chained : Chained registry begins octets records) : 3 * records.length ≤ octets.length := by
  induction chained with
  | @last header frame =>
    have longer := frame.payload_le_spelling header
    simp only [List.length_singleton]
    omega
  | @more header frame =>
    have longer := frame.payload_le_spelling header
    simp only [List.length_cons, List.length_append]
    omega

theorem Message.length_of_decode (decoded : decode registry octets = .ok records) :
    3 * records.length ≤ octets.length := by
  rcases decode_eq_ok.mp decoded with ⟨rfl, rfl⟩ | ⟨_, chained⟩
  · exact Nat.zero_le _
  · exact length_records_of_chained chained

theorem BodyKind.checkedDecode_eq (holds : machine.Holds payload.length)
    (size : payload.length ≤ 4294967295)
    (inner : ∀ message, message.length < payload.length →
      nested message = of (Message.decode registry message)) (kind : BodyKind) :
    kind.checkedDecode machine nested payload =
      of (kind.decoder payload fun message _ => Message.decode registry message) := by
  cases kind with
  | uri | error | external | brandProtection | generic => rfl
  | alternativeCarrier =>
    simp only [checkedDecode, AlternativeCarrier.checkedDecode_eq holds]
    simp only [decoder, Decoder.alternativeCarrier]
    cases AlternativeCarrier.decode payload <;> rfl
  | handoverSelect =>
    cases payload with
    | nil => rfl
    | cons version message =>
      have judged (records : List Record) (few : records.length < 2147483648) :
          ((HandoverSelect.ofVersion version records).checkedValid >>= fun _ =>
            pure (.handoverSelect (.ofVersion version records)) : Checked RecordBody) =
          of (if (HandoverSelect.ofVersion version records).valid then
            .ok (.handoverSelect (.ofVersion version records))
          else .error ⟨.recordType, "decode", .illegalArgument⟩) := by
        have valid : (HandoverSelect.ofVersion version records).checkedValid = _ :=
          HandoverSelect.checkedValid_eq few
        simp only [valid]
        split <;> rfl
      cases message with
      | nil => exact judged [] (by decide)
      | cons first rest =>
        have inside := inner (first :: rest) (Nat.lt_succ_self _)
        simp only [checkedDecode, inside, decoder, Decoder.handoverSelect, List.isEmpty_cons,
          Bool.false_eq_true, if_false]
        cases decoded : Message.decode registry (first :: rest) with
        | error failure => rfl
        | ok records =>
          have few := Message.length_of_decode decoded
          simp only [List.length_cons] at few size
          exact judged records (by omega)

end BridgeTag.Ndef
