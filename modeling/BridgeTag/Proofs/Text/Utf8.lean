import BridgeTag.Octets
import Mathlib.Data.List.Basic
import Mathlib.Tactic.SplitIfs

/-! Well-formed UTF-8, said by the bit patterns of its code points: of the patterns that hold a
number only the shortest is in use, and surrogates and numbers above 10FFFF have none. The octets
of texts are the well-formed ones, and they spell the characters. -/
namespace BridgeTag.Text.Utf8

/-- Octets in the pattern of one code point, with the number that the free bits hold. The bits in
front of the first octet tell how many octets there are, and those that follow begin with 10. -/
inductive Pattern : Octets → Nat → Prop where
  | one {a : UInt8} : a.toNat / 128 = 0b0 → Pattern [a] (a.toNat % 128)
  | two {a b : UInt8} : a.toNat / 32 = 0b110 → b.toNat / 64 = 0b10 →
      Pattern [a, b] (64 * (a.toNat % 32) + b.toNat % 64)
  | three {a b c : UInt8} : a.toNat / 16 = 0b1110 → b.toNat / 64 = 0b10 → c.toNat / 64 = 0b10 →
      Pattern [a, b, c] (4096 * (a.toNat % 16) + 64 * (b.toNat % 64) + c.toNat % 64)
  | four {a b c d : UInt8} : a.toNat / 8 = 0b11110 → b.toNat / 64 = 0b10 → c.toNat / 64 = 0b10 →
      d.toNat / 64 = 0b10 → Pattern [a, b, c, d]
        (262144 * (a.toNat % 8) + 4096 * (b.toNat % 64) + 64 * (c.toNat % 64) + d.toNat % 64)

structure Scalar (octets : Octets) (point : Nat) : Prop where
  pattern : Pattern octets point
  /-- No overlong form. -/
  shortest : ∀ other, Pattern other point → octets.length ≤ other.length
  noSurrogate : ¬(0xD800 ≤ point ∧ point ≤ 0xDFFF)
  inRange : point ≤ 0x10FFFF

inductive Spells : Octets → List Nat → Prop where
  | nil : Spells [] []
  | cons {front back : Octets} {point : Nat} {points : List Nat} :
      Scalar front point → Spells back points → Spells (front ++ back) (point :: points)

def WellFormed (octets : Octets) : Prop := ∃ points, Spells octets points

variable {octets other : Octets} {point : Nat} {points : List Nat} {char : Char}

namespace Pattern

/-- A pattern of one length leaves no choice of the octets for a number. -/
theorem eq_of_length (pattern : Pattern octets point) (pattern' : Pattern other point)
    (same : octets.length = other.length) : octets = other := by
  generalize number : point = point' at pattern'
  cases pattern <;> cases pattern'
  -- Four of the sixteen pairs are of one length.
  all_goals try cases same
  all_goals
    simp only [List.cons.injEq, and_true, ← UInt8.toNat_inj]
    omega

theorem number_lt (pattern : Pattern octets point) :
    octets.length = 1 ∧ point < 0x80 ∨ octets.length = 2 ∧ point < 0x800 ∨
      octets.length = 3 ∧ point < 0x10000 ∨ octets.length = 4 := by
  cases pattern with
  | one => exact .inl ⟨rfl, by omega⟩
  | two => exact .inr (.inl ⟨rfl, by omega⟩)
  | three => exact .inr (.inr (.inl ⟨rfl, by omega⟩))
  | four => exact .inr (.inr (.inr rfl))

theorem of_eq {number : Nat} (pattern : Pattern octets number) (same : number = point) :
    Pattern octets point := same ▸ pattern

end Pattern

theorem toNat_valid (char : Char) :
    char.toNat < 0xD800 ∨ 0xDFFF < char.toNat ∧ char.toNat < 0x110000 := char.valid

theorem pattern_utf8EncodeChar (char : Char) :
    Pattern (String.utf8EncodeChar char) char.toNat := by
  have valid := toNat_valid char
  simp only [String.utf8EncodeChar, Char.toNat_val]
  -- Each length sets the bits in front and shares out the number among the free ones.
  split
  next => refine Pattern.one ?_ |>.of_eq ?_ <;> simp only [UInt8.toNat_ofNat'] <;> omega
  next =>
    split
    next => refine Pattern.two ?_ ?_ |>.of_eq ?_ <;> simp only [UInt8.toNat_ofNat'] <;> omega
    next =>
      split
      next => refine Pattern.three ?_ ?_ ?_ |>.of_eq ?_ <;> simp only [UInt8.toNat_ofNat'] <;> omega
      next => refine Pattern.four ?_ ?_ ?_ ?_ |>.of_eq ?_ <;> simp only [UInt8.toNat_ofNat'] <;> omega

theorem length_utf8EncodeChar_le (pattern : Pattern other char.toNat) :
    (String.utf8EncodeChar char).length ≤ other.length := by
  have fits := pattern.number_lt
  simp only [String.utf8EncodeChar, Char.toNat_val, apply_ite List.length, List.length_cons,
    List.length_nil]
  split_ifs <;> omega

theorem scalar_utf8EncodeChar (char : Char) : Scalar (String.utf8EncodeChar char) char.toNat where
  pattern := pattern_utf8EncodeChar char
  shortest := fun _ => length_utf8EncodeChar_le
  noSurrogate := by
    have valid := toNat_valid char
    omega
  inRange := by
    have valid := toNat_valid char
    omega

theorem exists_char (scalar : Scalar octets point) : ∃ char : Char, char.toNat = point := by
  have noSurrogate := scalar.noSurrogate
  have inRange := scalar.inRange
  have valid : point.isValidChar := by
    unfold Nat.isValidChar
    omega
  exact ⟨Char.ofNatAux point valid, rfl⟩

/-- The octets of a code point are those that its character is written in. -/
theorem scalar_iff : Scalar octets point ↔
    ∃ char : Char, String.utf8EncodeChar char = octets ∧ char.toNat = point := by
  constructor
  · intro scalar
    obtain ⟨char, rfl⟩ := exists_char scalar
    have written := scalar_utf8EncodeChar char
    have same : (String.utf8EncodeChar char).length = octets.length :=
      Nat.le_antisymm (written.shortest octets scalar.pattern) (scalar.shortest _ written.pattern)
    exact ⟨char, written.pattern.eq_of_length scalar.pattern same, rfl⟩
  · intro written
    obtain ⟨char, rfl, rfl⟩ := written
    exact scalar_utf8EncodeChar char

theorem spells_iff : Spells octets points ↔
    ∃ chars : List Char, chars.flatMap String.utf8EncodeChar = octets ∧
      chars.map Char.toNat = points := by
  constructor
  · intro spells
    induction spells with
    | nil => exact ⟨[], rfl, rfl⟩
    | cons scalar _ ih =>
      obtain ⟨char, rfl, rfl⟩ := scalar_iff.mp scalar
      obtain ⟨chars, rfl, rfl⟩ := ih
      exact ⟨char :: chars, List.flatMap_cons, List.map_cons⟩
  · intro written
    obtain ⟨chars, rfl, rfl⟩ := written
    induction chars with
    | nil => exact .nil
    | cons char chars ih =>
      rw [List.flatMap_cons]
      exact .cons (scalar_utf8EncodeChar char) ih

theorem octets_eq_flatMap (text : String) :
    text.toUTF8.data.toList = text.toList.flatMap String.utf8EncodeChar := by
  rw [String.toUTF8_eq_toByteArray, ← String.utf8Encode_toList]
  exact List.toList_data_toByteArray

/-- The octets of a text spell its characters, and no other octets do. -/
theorem spells_toList_iff (text : String) :
    Spells octets (text.toList.map Char.toNat) ↔ text.toUTF8.data.toList = octets := by
  rw [spells_iff, octets_eq_flatMap]
  constructor
  · intro written
    obtain ⟨chars, rfl, same⟩ := written
    rw [List.map_injective_iff.mpr (fun _ _ => Char.toNat_inj.mp) same]
  · intro written
    exact ⟨text.toList, written, rfl⟩

theorem wellFormed_iff :
    WellFormed octets ↔ ∃ text : String, text.toUTF8.data.toList = octets := by
  constructor
  · intro wellFormed
    obtain ⟨_, spells⟩ := wellFormed
    obtain ⟨chars, rfl, _⟩ := spells_iff.mp spells
    exact ⟨String.ofList chars, by rw [octets_eq_flatMap, String.toList_ofList]⟩
  · intro written
    obtain ⟨text, same⟩ := written
    exact ⟨_, (spells_toList_iff text).mpr same⟩

end BridgeTag.Text.Utf8
