import BridgeTag.Hex

/-! Octets come back from the digits that spell them. -/
namespace BridgeTag.Hex

def digitOctet (value : Nat) : UInt8 := UInt8.ofNat (upperDigit value).toNat

def spelled (octet : UInt8) : Octets :=
  [digitOctet (octet.toNat / 16), digitOctet (octet.toNat % 16)]

theorem utf8EncodeChar_upperDigit : ∀ value < 16,
    String.utf8EncodeChar (upperDigit value) = [digitOctet value] := by decide

theorem value?_digitOctet : ∀ value < 16, value? (digitOctet value).toNat = some value := by decide

theorem utf8EncodeChar_digits (octet : UInt8) :
    [upperDigit (octet.toNat / 16), upperDigit (octet.toNat % 16)].flatMap String.utf8EncodeChar =
      spelled octet := by
  have := octet.toNat_lt
  have high := utf8EncodeChar_upperDigit (octet.toNat / 16) (by omega)
  have low := utf8EncodeChar_upperDigit (octet.toNat % 16) (by omega)
  simp [high, low, spelled]

theorem octets_encodeUpper (octets : Octets) :
    (encodeUpper octets).toUTF8.data.toList = octets.flatMap spelled := by
  have each : spelled = fun octet : UInt8 => [upperDigit (octet.toNat / 16),
      upperDigit (octet.toNat % 16)].flatMap String.utf8EncodeChar :=
    funext fun octet => (utf8EncodeChar_digits octet).symm
  simp only [each, ← List.flatMap_assoc]
  simp [encodeUpper, List.utf8Encode]

theorem pairs_spelled (index : Nat) (done octets : Octets) :
    pairs index done (octets.flatMap spelled) = .ok (done.reverse ++ octets) := by
  induction octets generalizing index done with
  | nil => simp [pairs]
  | cons octet octets ih =>
    have := octet.toNat_lt
    have high := value?_digitOctet (octet.toNat / 16) (by omega)
    have low := value?_digitOctet (octet.toNat % 16) (by omega)
    have both : UInt8.ofNat (16 * (octet.toNat / 16) + octet.toNat % 16) = octet := by
      rw [Nat.div_add_mod]
      simp
    simp [spelled, pairs, high, low, both, ih]

theorem decode_encodeUpper (octets : Octets) : decode (encodeUpper octets) = .ok octets := by
  have even : (octets.flatMap spelled).length % 2 = 0 := by
    induction octets with
    | nil => rfl
    | cons octet octets ih =>
      simp only [List.flatMap_cons, List.length_append, spelled, List.length_cons, List.length_nil]
      omega
  unfold decode
  simp only [octets_encodeUpper, even]
  exact pairs_spelled 0 [] octets

end BridgeTag.Hex
