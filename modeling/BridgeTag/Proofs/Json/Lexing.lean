import BridgeTag.Json.Printer
import BridgeTag.Json.Token

/-! Tokens as they are written. A number ends where nothing that prolongs it follows; a string is
escaped character by character, and each escape is one piece of it again. -/
namespace BridgeTag.Json

def prolongs (char : Char) : Bool := char.isDigit || char = '.' || char = 'e' || char = 'E'

/-- The characters do not prolong a number in front of them. -/
def Apart (chars : List Char) : Prop := ∀ char ∈ chars.head?, prolongs char = false

namespace Token

variable {chars digits rest : List Char} {char : Char}

theorem digits?_append (each : ∀ char ∈ digits, char.isDigit = true) (some' : digits ≠ [])
    (apart : Apart rest) : digits? (digits ++ rest) = some (digits, rest) := by
  have stop : rest.takeWhile Char.isDigit = [] ∧ rest.dropWhile Char.isDigit = rest := by
    cases rest with
    | nil => exact ⟨rfl, rfl⟩
    | cons char rest =>
      have other : char.isDigit = false := by
        have still := apart char rfl
        simp only [prolongs, Bool.or_eq_false_iff] at still
        exact still.1.1.1
      simp [other]
  simp [digits?, List.takeWhile_append_of_pos each, List.dropWhile_append_of_pos each, stop, some']

/-- Only zero is written with a zero in front. -/
theorem head?_toDigits {n : Nat} (positive : 0 < n) : (Nat.toDigits 10 n).head? ≠ some '0' := by
  induction n using Nat.strongRecOn with
  | _ n ih =>
    -- A longer number begins as the number without its last digit does.
    by_cases small : n < 10
    · have each : ∀ m < 10, 0 < m → (Nat.toDigits 10 m).head? ≠ some '0' := by decide
      exact each n small positive
    · have shorter := ih (n / 10) (by omega) (by omega)
      have length : 0 < (Nat.toDigits 10 (n / 10)).length := Nat.length_toDigits_pos
      simp only [Nat.toDigits_of_base_le (by decide : 1 < 10) (by omega : 10 ≤ n), List.head?_append]
      cases head : (Nat.toDigits 10 (n / 10)).head? with
      | none => simp [List.head?_eq_none_iff.mp head] at length
      | some digit => simpa [head] using shorter

theorem whole?_toDigits (n : Nat) (apart : Apart rest) :
    whole? (Nat.toDigits 10 n ++ rest) = some (Nat.toDigits 10 n, rest) := by
  have each : ∀ char ∈ Nat.toDigits 10 n, char.isDigit = true := fun char member =>
    Nat.isDigit_of_mem_toDigits (by decide) (by decide) member
  have found := digits?_append each Nat.toDigits_ne_nil apart
  have needless : ((Nat.toDigits 10 n).length > 1 && (Nat.toDigits 10 n).head? = some '0') = false := by
    rcases Nat.eq_zero_or_pos n with rfl | positive
    · decide
    · simp [head?_toDigits positive]
  simp only [whole?, found, needless]
  rfl

theorem fraction?_apart (apart : Apart rest) : fraction? rest = some (false, rest) := by
  unfold fraction?
  split
  next => exact absurd (apart _ rfl) (by decide)
  next => rfl

theorem exponent?_apart (apart : Apart rest) : exponent? rest = some (false, rest) := by
  unfold exponent?
  split
  next => exact absurd (apart _ rfl) (by decide)
  next => exact absurd (apart _ rfl) (by decide)
  next => rfl

theorem unsigned?_toDigits (n : Nat) (apart : Apart rest) :
    unsigned? (Nat.toDigits 10 n ++ rest) = some (some n, rest) := by
  have value : natural (Nat.toDigits 10 n) = n := Nat.ofDigitChars_ten_toDigits
  simp [unsigned?, whole?_toDigits n apart, fraction?_apart apart, exponent?_apart apart, value]

/-- A character that no token but a number begins with. -/
theorem next?_number {value : Option Nat} (begins : char.isDigit = true ∨ char = '-')
    (number : number? (char :: chars) = some (value, rest)) :
    next? (char :: chars) = some (scalar (.number value), rest) := by
  unfold next?
  split
  case h_11 => simp [number]
  all_goals
    next same =>
    cases same
    exact absurd begins (by decide)

theorem next?_numberText (value : Option Nat) (apart : Apart rest) :
    next? ((numberText value).toList ++ rest) = some (scalar (.number value), rest) := by
  cases value with
  | none =>
    have zero : unsigned? ('0' :: rest) = some (some 0, rest) := unsigned?_toDigits 0 apart
    have minus : number? ('-' :: '0' :: rest) = some (none, rest) := by simp [number?, zero]
    exact next?_number (.inr rfl) minus
  | some n =>
    have spelled : (numberText (some n)).toList = Nat.toDigits 10 n := by
      simp [numberText]
    have value := unsigned?_toDigits n apart
    rw [spelled]
    cases digits : Nat.toDigits 10 n with
    | nil => exact absurd digits Nat.toDigits_ne_nil
    | cons first digits' =>
      have digit : first.isDigit = true := by
        apply Nat.isDigit_of_mem_toDigits (b := 10) (n := n) (by decide) (by decide)
        simp [digits]
      rw [digits] at value
      have number : number? (first :: (digits' ++ rest)) = some (some n, rest) := by
        unfold number?
        split
        next same =>
          cases same
          exact absurd digit (by decide)
        next => exact value
      exact next?_number (.inl digit) number

/-! Strings. -/

/-- The piece that a character is written as: a control character without a letter of its own by
its code, every other as it stands. -/
def pieceOf (char : Char) : Piece :=
  if char.toNat < 0x20 ∧ char ∉ ['\x08', '\x0c', '\n', '\r', '\t'] then .unit char.toNat
  else .plain char

theorem value?_digit : ∀ value < 16, Hex.value? (Hex.digit value).toNat = some value := by decide

theorem pieces?_escaped (char : Char) (done : List Piece) (rest : List Char) :
    pieces? done (escaped char ++ rest) = pieces? (pieceOf char :: done) rest := by
  unfold escaped
  split
  iterate 7 · rfl
  next quote backslash b f n r t =>
    split
    next control =>
      have high := value?_digit (char.toNat / 16) (by omega)
      have low := value?_digit (char.toNat % 16) (by omega)
      have zero : Hex.value? '0'.toNat = some 0 := rfl
      have code : unit? '0' '0' (Hex.digit (char.toNat / 16)) (Hex.digit (char.toNat % 16)) =
          some char.toNat := by
        simp only [unit?, zero, high, low, Option.some.injEq]
        omega
      have piece : pieceOf char = .unit char.toNat :=
        if_pos ⟨control, by simpa using ⟨b, f, n, r, t⟩⟩
      simp only [List.cons_append, List.nil_append, pieces?, code, piece]
    next visible =>
      have piece : pieceOf char = .plain char := if_neg fun found => visible found.1
      have kept : ¬(char = '\\' ∨ char.toNat < 0x20) := by
        rintro (same | control)
        · exact backslash same
        · exact visible control
      simp only [List.cons_append, List.nil_append, piece]
      rw [pieces?]
      · simp only [kept, decide_eq_true_eq, Bool.or_eq_true, if_false]
      · exact quote
      · intro _ _ _ _ _ same
        exact absurd same backslash
      · intro _ _ same
        exact absurd same backslash

theorem pieces?_escaped_all (chars : List Char) (done : List Piece) (rest : List Char) :
    pieces? done (chars.flatMap escaped ++ '"' :: rest) =
      some (done.reverse ++ chars.map pieceOf, rest) := by
  induction chars generalizing done with
  | nil => simp [pieces?]
  | cons char chars ih =>
    simp only [List.flatMap_cons, List.append_assoc, pieces?_escaped, ih]
    simp

/-- A unit that is no half of a pair is a character, whatever comes next. -/
theorem text?_unit {code : Nat} (low : code < 0xD800) (done : List Char) (pieces : List Piece) :
    Piece.text? done (.unit code :: pieces) = Piece.text? (Char.ofNat code :: done) pieces := by
  have notHigh : Piece.isHigh code = false := by
    simp [Piece.isHigh]
    omega
  have notLow : Piece.isLow code = false := by
    simp [Piece.isLow]
    omega
  rcases pieces with _ | ⟨char | next, pieces⟩ <;> simp [Piece.text?, notHigh, notLow]

theorem text?_pieceOf_all (chars done : List Char) :
    Piece.text? done (chars.map pieceOf) = some (String.ofList (done.reverse ++ chars)) := by
  induction chars generalizing done with
  | nil => simp [Piece.text?]
  | cons char chars ih =>
    have piece : Piece.text? done (pieceOf char :: chars.map pieceOf) =
        Piece.text? (char :: done) (chars.map pieceOf) := by
      by_cases control : char.toNat < 0x20 ∧ char ∉ ['\x08', '\x0c', '\n', '\r', '\t']
      · have unit : pieceOf char = .unit char.toNat := if_pos control
        have low : char.toNat < 0xD800 := by omega
        simp only [unit, text?_unit low, Char.ofNat_toNat]
      · have plain : pieceOf char = .plain char := if_neg control
        simp only [plain, Piece.text?]
    simp only [List.map_cons, piece, ih]
    simp

theorem next?_stringText (text : Option String) (rest : List Char) :
    next? ((stringText text).toList ++ rest) = some (scalar (.string text), rest) := by
  cases text with
  | none =>
    have half : Piece.text? [] [.unit 0xD800] = none := by
      simp [Piece.text?, Piece.isHigh]
    have unit : unit? 'd' '8' '0' '0' = some 0xD800 := rfl
    simp [stringText, next?, pieces?, unit, half]
  | some text =>
    have pieces := pieces?_escaped_all text.toList [] rest
    have same := text?_pieceOf_all text.toList []
    simp [stringText, quoted, next?, pieces, same]

end Token
end BridgeTag.Json
