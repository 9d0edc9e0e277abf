import BridgeTag.Proofs.Ndef.Payload

/-! Payloads of alternative-carrier records. What is written is read back, and what is read is
written as it stood but for the reserved bits of its first octet. A payload says itself where it
ends, so that none is a beginning of another one. -/
namespace BridgeTag.Ndef

namespace PowerState

theorem code_injective : Function.Injective code :=
  Function.LeftInverse.injective ofOctet_code

theorem code_ofOctet (octet : UInt8) : (ofOctet octet).code = octet &&& 0x03 := by
  rw [← UInt8.toNat_inj, toNat_code_ofOctet, UInt8.toNat_and]
  exact (Nat.and_two_pow_sub_one_eq_mod octet.toNat 2).symm

end PowerState

namespace AlternativeCarrier

variable {carrier other : AlternativeCarrier} {payload suffix : Octets} {first : UInt8}

/-- A carrier is read from what is written for it, whatever the reserved bits. -/
theorem decode_cons (rest : Octets) : decode (first :: rest) = .ok carrier ↔
    carrier.encode = .ok ((first &&& 0x03) :: rest) := by
  rw [decode_eq_ok, ← PowerState.code_ofOctet]
  constructor
  · intro accepted
    obtain ⟨_, _, same, state, encoded⟩ := accepted
    cases same
    rw [state, encoded]
  · intro encoded
    obtain ⟨_, same⟩ := exists_of_encode encoded
    have state := PowerState.code_injective (List.cons.inj same).1
    rw [state] at encoded
    exact ⟨first, rest, rfl, state, encoded⟩

theorem decode_eq_ok_iff_encode : decode payload = .ok carrier ↔
    ∃ first rest, payload = first :: rest ∧ carrier.encode = .ok ((first &&& 0x03) :: rest) := by
  constructor
  · intro accepted
    obtain ⟨first, rest, rfl, _⟩ := decode_eq_ok.mp accepted
    exact ⟨first, rest, rfl, (decode_cons rest).mp accepted⟩
  · intro written
    obtain ⟨first, rest, rfl, encoded⟩ := written
    exact (decode_cons rest).mpr encoded

theorem decode_eq_error (refused : ∀ carrier, decode payload ≠ .ok carrier) :
    decode payload = .error ⟨.recordType, "decode", .invalidMessage⟩ := by
  cases found : Reader.whole? read payload with
  | none => rw [decode, found]
  | some carrier => exact absurd (by rw [decode, found]) (refused carrier)

/-- Reading a payload with octets behind it stops where the payload ends, and there alone. -/
theorem eq_nil_of_decode_append (accepted : decode payload = .ok carrier)
    (accepted' : decode (payload ++ suffix) = .ok other) : suffix = [] := by
  obtain ⟨first, rest, rfl, state, encoded⟩ := decode_eq_ok.mp accepted
  have stops : read (Reader.ofOctets (first :: rest ++ suffix)) =
      (some carrier, ⟨0 + 1 + rest.length, suffix⟩) :=
    read_eq_some.mpr ⟨first, rest, rfl, rfl, state, encoded⟩
  obtain ⟨position, whole⟩ := decode_eq_ok_iff_read.mp accepted'
  rw [stops] at whole
  simp only [Prod.mk.injEq, Reader.mk.injEq] at whole
  exact whole.2.2

/-- Encoding fails only for a count or a length that one octet cannot say, and then says so;
otherwise decoding gives the carrier back. Decoding accepts what is written for a carrier with any
reserved bits, and of such a payload neither a strict beginning nor a continuation. -/
theorem decode_encode_delimited (carrier : AlternativeCarrier) :
    (∀ failure, carrier.encode = .error failure ↔
      carrier.Oversized ∧ failure = ⟨.recordType, "encode", .illegalArgument⟩) ∧
    (¬carrier.Oversized →
      ∃ payload, carrier.encode = .ok payload ∧ decode payload = .ok carrier) ∧
    ∀ payload, (decode payload = .ok carrier ↔ ∃ first rest, payload = first :: rest ∧
        carrier.encode = .ok ((first &&& 0x03) :: rest)) ∧
      (decode payload = .ok carrier →
        (∀ part, part <+: payload → part ≠ payload →
          decode part = .error ⟨.recordType, "decode", .invalidMessage⟩) ∧
        ∀ suffix, suffix ≠ [] →
          decode (payload ++ suffix) = .error ⟨.recordType, "decode", .invalidMessage⟩) := by
  refine ⟨fun _ => encode_eq_error, ?_, fun payload => ⟨decode_eq_ok_iff_encode, ?_⟩⟩
  · intro fits
    obtain ⟨payload, encoded⟩ := exists_encode fits
    exact ⟨payload, encoded, decode_encode encoded⟩
  · intro accepted
    constructor
    · intro part starts strict
      obtain ⟨missing, rfl⟩ := starts
      refine decode_eq_error fun other accepted' => strict ?_
      rw [eq_nil_of_decode_append accepted' accepted, List.append_nil]
    · intro suffix nonempty
      exact decode_eq_error fun other accepted' =>
        nonempty (eq_nil_of_decode_append accepted accepted')

/-- A payload with a reserved bit set and an empty reference at its end. -/
theorem decode_sampleCarrier_delimited :
    decode [0x41, 0x01, 0x30, 0x02, 0x02, 0x61, 0x31, 0x00] =
      .ok ⟨.active, [0x30], [[0x61, 0x31], []]⟩ ∧
    encode ⟨.active, [0x30], [[0x61, 0x31], []]⟩ =
      .ok [0x01, 0x01, 0x30, 0x02, 0x02, 0x61, 0x31, 0x00] ∧
    decode [0x41, 0x01, 0x30, 0x02, 0x02, 0x61, 0x31] =
      .error ⟨.recordType, "decode", .invalidMessage⟩ ∧
    decode [0x41, 0x01, 0x30, 0x02, 0x02, 0x61, 0x31, 0x00, 0x00] =
      .error ⟨.recordType, "decode", .invalidMessage⟩ := by
  have encoded : encode ⟨.active, [0x30], [[0x61, 0x31], []]⟩ =
      .ok [0x01, 0x01, 0x30, 0x02, 0x02, 0x61, 0x31, 0x00] := rfl
  obtain ⟨_, _, codec⟩ := decode_encode_delimited ⟨.active, [0x30], [[0x61, 0x31], []]⟩
  obtain ⟨read, delimited⟩ := codec [0x41, 0x01, 0x30, 0x02, 0x02, 0x61, 0x31, 0x00]
  have accepted := read.mpr ⟨_, _, rfl, encoded⟩
  obtain ⟨cut, continued⟩ := delimited accepted
  exact ⟨accepted, encoded, cut _ ⟨[0x00], rfl⟩ (by decide), continued [0x00] (by decide)⟩

end AlternativeCarrier
end BridgeTag.Ndef
