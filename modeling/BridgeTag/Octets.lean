/-! Octet strings, their big-endian fields and their hexadecimal spelling. -/
namespace BridgeTag

abbrev Octets := List UInt8

namespace Octets

/-- The two octets of a 16-bit field, high octet first. -/
def ofU16 (value : UInt16) : Octets :=
  [UInt8.ofNat (value.toNat / 256), UInt8.ofNat value.toNat]

def ofU32 (value : UInt32) : Octets :=
  [UInt8.ofNat (value.toNat / 16777216), UInt8.ofNat (value.toNat / 65536),
    UInt8.ofNat (value.toNat / 256), UInt8.ofNat value.toNat]

def toU16 (high low : UInt8) : UInt16 :=
  UInt16.ofNat (256 * high.toNat + low.toNat)

def toU32 (a b c d : UInt8) : UInt32 :=
  UInt32.ofNat (16777216 * a.toNat + 65536 * b.toNat + 256 * c.toNat + d.toNat)

/-- Cuts off exactly `n` octets; absent when there are fewer. -/
def cut? (n : Nat) (octets : Octets) : Option (Octets × Octets) :=
  let (front, back) := octets.splitAt n
  if front.length = n then some (front, back) else none

theorem cut?_eq (n : Nat) (octets : Octets) :
    cut? n octets = if n ≤ octets.length then some (octets.take n, octets.drop n) else none := by
  simp only [cut?, List.splitAt_eq, List.length_take]
  by_cases h : n ≤ octets.length
  · rw [if_pos (Nat.min_eq_left h), if_pos h]
  · have : min n octets.length ≠ n := by omega
    simp [h, this]

theorem length_of_cut? {n : Nat} {octets front back : Octets}
    (h : cut? n octets = some (front, back)) :
    front.length = n ∧ front.length + back.length = octets.length := by
  rw [cut?_eq] at h
  split at h
  next le =>
    cases h
    simp only [List.length_take, List.length_drop]
    omega
  next => cases h

theorem cut?_append {n : Nat} {front : Octets} (h : front.length = n) (back : Octets) :
    cut? n (front ++ back) = some (front, back) := by
  subst h
  simp [cut?_eq]

theorem cut?_eq_some {n : Nat} {octets front back : Octets} :
    cut? n octets = some (front, back) ↔ front.length = n ∧ octets = front ++ back := by
  constructor
  · intro found
    have length := (length_of_cut? found).1
    rw [cut?_eq] at found
    split at found
    next => cases found; exact ⟨length, (List.take_append_drop n octets).symm⟩
    next => cases found
  · intro parts
    obtain ⟨length, rfl⟩ := parts
    exact cut?_append length back

theorem toU16_ofU16 (value : UInt16) :
    toU16 (UInt8.ofNat (value.toNat / 256)) (UInt8.ofNat value.toNat) = value := by
  apply UInt16.toNat_inj.mp
  have := value.toNat_lt
  simp only [toU16, UInt16.toNat_ofNat', UInt8.toNat_ofNat']
  omega

theorem ofU16_toU16 (high low : UInt8) : ofU16 (toU16 high low) = [high, low] := by
  have hh := high.toNat_lt
  have hl := low.toNat_lt
  simp only [ofU16, toU16, UInt16.toNat_ofNat', List.cons.injEq, and_true]
  constructor <;> apply UInt8.toNat_inj.mp <;> simp only [UInt8.toNat_ofNat'] <;> omega

theorem ofU16_injective : Function.Injective ofU16 := by
  intro value value' same
  rw [← toU16_ofU16 value, ← toU16_ofU16 value', (List.cons.inj same).1,
    (List.cons.inj (List.cons.inj same).2).1]

theorem toU32_ofU32 (value : UInt32) :
    toU32 (UInt8.ofNat (value.toNat / 16777216)) (UInt8.ofNat (value.toNat / 65536))
      (UInt8.ofNat (value.toNat / 256)) (UInt8.ofNat value.toNat) = value := by
  apply UInt32.toNat_inj.mp
  have := value.toNat_lt
  simp only [toU32, UInt32.toNat_ofNat', UInt8.toNat_ofNat']
  omega

theorem ofU32_toU32 (a b c d : UInt8) : ofU32 (toU32 a b c d) = [a, b, c, d] := by
  have ha := a.toNat_lt
  have hb := b.toNat_lt
  have hc := c.toNat_lt
  have hd := d.toNat_lt
  simp only [ofU32, toU32, UInt32.toNat_ofNat', List.cons.injEq, and_true]
  refine ⟨?_, ?_, ?_, ?_⟩ <;> apply UInt8.toNat_inj.mp <;> simp only [UInt8.toNat_ofNat'] <;> omega

@[simp] theorem length_ofU16 (value : UInt16) : (ofU16 value).length = 2 := rfl

@[simp] theorem ofU16_ne_nil (value : UInt16) : ofU16 value ≠ [] := List.cons_ne_nil _ _

@[simp] theorem length_ofU32 (value : UInt32) : (ofU32 value).length = 4 := rfl

end Octets
end BridgeTag
