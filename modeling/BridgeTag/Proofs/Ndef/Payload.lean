import BridgeTag.Ndef.AlternativeCarrier
import BridgeTag.Ndef.HandoverError
import BridgeTag.Ndef.Uri
import BridgeTag.Proofs.Ndef.Framing

/-! Payloads and what they mean. Each lemma says which payloads a kind of record accepts, in terms of
the payload it writes. -/
namespace BridgeTag

namespace Reader

variable {reader after : Reader} {octets : Octets}

theorem prefixed_eq_some : prefixed reader = (some octets, after) ↔
    octets.length ≤ 255 ∧ reader.rest = UInt8.ofNat octets.length :: octets ++ after.rest ∧
      after.position = reader.position + 1 + octets.length := by
  simp only [prefixed, bind_eq_some, octet_eq_some, take_eq_some]
  constructor
  · intro found
    obtain ⟨length, _, ⟨first, position⟩, whole, rest, position'⟩ := found
    have := length.toNat_lt
    exact ⟨by omega, by simp [first, rest, whole], by omega⟩
  · intro found
    obtain ⟨small, rest, position⟩ := found
    have length := Ndef.Frame.octet_of_length small
    exact ⟨UInt8.ofNat octets.length, ⟨reader.position + 1, octets ++ after.rest⟩, ⟨rest, rfl⟩,
      length.symm, rfl, by simp only [length, position]⟩

theorem whole?_eq_some {α : Type} {read : Read α} {value : α} :
    whole? read octets = some value ↔
      ∃ position, read (ofOctets octets) = (some value, ⟨position, []⟩) := by
  unfold whole?
  rcases read (ofOctets octets) with ⟨_ | found, position, _ | ⟨first, rest⟩⟩ <;> simp

end Reader

namespace Ndef

namespace PowerState

theorem ofOctet_code (state : PowerState) : ofOctet state.code = state := by
  cases state <;> rfl

/-- The state is written without the bits that are reserved. -/
theorem toNat_code_ofOctet (octet : UInt8) : (ofOctet octet).code.toNat = octet.toNat % 4 := by
  have cases : octet.toNat % 4 = 0 ∨ octet.toNat % 4 = 1 ∨ octet.toNat % 4 = 2 ∨
      octet.toNat % 4 = 3 := by omega
  rcases cases with h | h | h | h <;> simp [ofOctet, code, h]

theorem code_ofOctet_eq_iff (octet : UInt8) : (ofOctet octet).code = octet ↔ octet < 4 := by
  rw [← UInt8.toNat_inj, toNat_code_ofOctet, UInt8.lt_iff_toNat_lt]
  show _ ↔ octet.toNat < 4
  omega

end PowerState

namespace AlternativeCarrier

variable {reader after : Reader}

theorem times_prefixed_eq_some {count : Nat} {references : List Octets} :
    Reader.times Reader.prefixed count reader = (some references, after) ↔
      references.length = count ∧ (∀ octets ∈ references, octets.length ≤ 255) ∧
        reader.rest = references.flatMap reference ++ after.rest ∧
        after.position = reader.position + (references.flatMap reference).length := by
  induction count generalizing references reader after with
  | zero =>
    rw [Reader.times, Reader.pure_eq_some, Reader.eq_iff_rest_eq]
    constructor
    · intro found
      obtain ⟨rfl, rest, position⟩ := found
      simpa using ⟨rest, position⟩
    · intro found
      obtain ⟨none, _, rest, position⟩ := found
      obtain rfl := List.eq_nil_of_length_eq_zero none
      exact ⟨rfl, rest, position⟩
  | succ count ih =>
    simp only [Reader.times, Reader.bind_eq_some, Reader.pure_eq_some, Reader.prefixed_eq_some, ih]
    constructor
    · intro found
      obtain ⟨first, _, ⟨small, rest, position⟩, others, _, ⟨rfl, fit, rest', position'⟩, rfl, rfl⟩ :=
        found
      refine ⟨rfl, by simpa using ⟨small, fit⟩, ?_, ?_⟩
      · simp [reference, rest, rest']
      · simp only [List.flatMap_cons, List.length_append, reference, List.length_cons]
        omega
    · intro found
      obtain ⟨length, fit, rest, position⟩ := found
      cases references with
      | nil => cases length
      | cons first others =>
        simp only [List.mem_cons, forall_eq_or_imp] at fit
        simp only [List.flatMap_cons, List.length_append, reference, List.length_cons] at position
        refine ⟨first, ⟨reader.position + 1 + first.length, others.flatMap reference ++ after.rest⟩,
          ⟨fit.1, ?_, rfl⟩, others, after, ⟨by simpa using length, fit.2, rfl, ?_⟩, rfl, rfl⟩
        · simpa [reference] using rest
        · show after.position = reader.position + 1 + first.length + _
          omega

def Oversized (carrier : AlternativeCarrier) : Prop :=
  255 < carrier.auxiliary.length ∨
    ∃ reference ∈ carrier.carrier :: carrier.auxiliary, 255 < reference.length

theorem encodable_eq_false {carrier : AlternativeCarrier} :
    carrier.encodable = false ↔ carrier.Oversized := by
  simp only [encodable, Oversized, Bool.and_eq_false_iff, decide_eq_false_iff_not, Nat.not_le,
    List.all_eq_false, decide_eq_true_eq]

theorem encode_eq_error {carrier : AlternativeCarrier} {failure : Failure} :
    carrier.encode = .error failure ↔
      carrier.Oversized ∧ failure = ⟨.recordType, "encode", .illegalArgument⟩ := by
  rw [← encodable_eq_false, encode]
  split
  next fits => simp [fits]
  next oversized => simp [oversized, eq_comm]

/-- Reading succeeds exactly where a written payload comes next, up to the reserved bits of its
first octet. -/
theorem read_eq_some {carrier : AlternativeCarrier} : read reader = (some carrier, after) ↔
    ∃ first rest, reader.rest = first :: rest ++ after.rest ∧
      after.position = reader.position + 1 + rest.length ∧
      PowerState.ofOctet first = carrier.powerState ∧
      carrier.encode = .ok (carrier.powerState.code :: rest) := by
  simp only [read, Reader.bind_eq_some, Reader.pure_eq_some, Reader.octet_eq_some,
    Reader.prefixed_eq_some, times_prefixed_eq_some]
  rcases carrier with ⟨state, carrier, auxiliary⟩
  constructor
  · intro found
    obtain ⟨first, _, ⟨r₁, p₁⟩, _, _, ⟨small, r₂, p₂⟩, count, _, ⟨r₃, p₃⟩, _, _,
      ⟨length, fit, r₄, p₄⟩, same, rfl⟩ := found
    cases same
    have := count.toNat_lt
    have encodable : encodable ⟨PowerState.ofOctet first, carrier, auxiliary⟩ = true := by
      simp only [encodable, List.all_cons, Bool.and_eq_true, decide_eq_true_eq, List.all_eq_true]
      exact ⟨by omega, small, fit⟩
    refine ⟨first, reference carrier ++ count :: auxiliary.flatMap reference, ?_, ?_, rfl, ?_⟩
    · simp [reference, r₁, r₂, r₃, r₄]
    · simp only [reference, List.length_append, List.length_cons]
      omega
    · rw [encode, if_pos encodable]
      simp [length]
  · intro found
    obtain ⟨first, rest, r, p, rfl, encoded⟩ := found
    unfold encode at encoded
    split at encoded
    next fits =>
      simp only [encodable, List.all_cons, Bool.and_eq_true, decide_eq_true_eq,
        List.all_eq_true] at fits
      simp only [Except.ok.injEq, List.cons_append, List.cons.injEq, true_and] at encoded
      subst encoded
      have count := Frame.octet_of_length fits.1
      simp only [List.append_assoc, List.cons_append] at r
      simp only [List.length_append, List.length_cons, reference] at p
      refine ⟨first, ⟨_, _⟩, ⟨r, rfl⟩, carrier, ⟨_, _⟩, ⟨fits.2.1, rfl, rfl⟩, ?_⟩
      refine ⟨UInt8.ofNat auxiliary.length, ⟨_, _⟩, ⟨rfl, rfl⟩, auxiliary, after, ?_, rfl, rfl⟩
      refine ⟨count.symm, fits.2.2, rfl, ?_⟩
      simp only
      omega
    next => cases encoded

theorem decode_eq_ok_iff_read {payload : Octets} {carrier : AlternativeCarrier} :
    decode payload = .ok carrier ↔
      ∃ position, read (Reader.ofOctets payload) = (some carrier, ⟨position, []⟩) := by
  rw [← Reader.whole?_eq_some, decode]
  cases Reader.whole? read payload <;> simp

/-- A payload is accepted up to the reserved bits of its first octet. -/
theorem decode_eq_ok {payload : Octets} {carrier : AlternativeCarrier} :
    decode payload = .ok carrier ↔ ∃ first rest, payload = first :: rest ∧
      PowerState.ofOctet first = carrier.powerState ∧
      carrier.encode = .ok (carrier.powerState.code :: rest) := by
  simp only [decode_eq_ok_iff_read, read_eq_some, Reader.ofOctets_rest, List.append_nil]
  constructor
  · rintro ⟨_, first, rest, whole, _, accepted⟩
    exact ⟨first, rest, whole, accepted⟩
  · rintro ⟨first, rest, whole, accepted⟩
    exact ⟨_, first, rest, whole, rfl, accepted⟩

theorem exists_encode {carrier : AlternativeCarrier} (fits : ¬carrier.Oversized) :
    ∃ payload, carrier.encode = .ok payload := by
  rw [← encodable_eq_false, Bool.not_eq_false] at fits
  exact ⟨_, if_pos fits⟩

theorem exists_of_encode {payload : Octets} {carrier : AlternativeCarrier}
    (encoded : carrier.encode = .ok payload) :
    ∃ rest, payload = carrier.powerState.code :: rest := by
  unfold encode at encoded
  split at encoded
  next => exact ⟨_, (Except.ok.inj encoded).symm⟩
  next => cases encoded

theorem decode_encode {payload : Octets} {carrier : AlternativeCarrier}
    (encoded : carrier.encode = .ok payload) : decode payload = .ok carrier := by
  obtain ⟨rest, rfl⟩ := exists_of_encode encoded
  exact decode_eq_ok.mpr ⟨_, rest, rfl, PowerState.ofOctet_code _, encoded⟩

end AlternativeCarrier

namespace HandoverError

theorem decode_eq_ok {payload : Octets} {error : HandoverError} :
    decode payload = .ok error ↔ payload = error.encode := by
  rcases error with ⟨reason, data⟩
  cases payload <;> simp [decode, encode]

end HandoverError

namespace Uri

theorem decode_eq_ok {payload : Octets} {uri : Uri} :
    decode payload = .ok uri ↔ payload = uri.encode := by
  rcases uri with ⟨code, text⟩
  cases payload with
  | nil => simp [decode, encode]
  | cons first rest =>
    simp only [decode, String.fromUTF8?, encode, List.cons.injEq]
    constructor
    · intro found
      split at found
      next text' valid =>
        split at valid
        next utf8 =>
          cases found
          cases valid
          exact ⟨rfl, rfl⟩
        next => cases valid
      next => cases found
    · rintro ⟨rfl, rfl⟩
      have same : (⟨text.toUTF8.data.toList.toArray⟩ : ByteArray) = text.toByteArray := by simp
      rw [same, dif_pos text.isValidUTF8]
      rfl

end Uri
end Ndef
end BridgeTag
