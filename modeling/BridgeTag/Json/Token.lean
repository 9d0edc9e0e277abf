import BridgeTag.Hex
import BridgeTag.Json.Value

/-! The tokens of a JSON text. Blank characters separate tokens and carry nothing. -/
namespace BridgeTag.Json

inductive Token where
  | openArray | closeArray
  | openObject | closeObject
  | colon | comma
  /-- A value that is one token. -/
  | scalar (value : Value)

namespace Token

/-- A character as it stands, or a 16-bit unit written as four digits. -/
inductive Piece where
  | plain (char : Char)
  | unit (code : Nat)
deriving Repr, DecidableEq

namespace Piece

def isHigh (code : Nat) : Bool := 0xD800 ≤ code && code ≤ 0xDBFF

def isLow (code : Nat) : Bool := 0xDC00 ≤ code && code ≤ 0xDFFF

/-- The character that two halves of a surrogate pair make up. -/
def joined (high low : Nat) : Char :=
  Char.ofNat (0x10000 + 0x400 * (high - 0xD800) + (low - 0xDC00))

/-- The text of the pieces, each half of a pair next to the other; `done` is the text so far,
last character first. -/
def text? (done : List Char) : List Piece → Option String
  | [] => some (String.ofList done.reverse)
  | plain char :: rest => text? (char :: done) rest
  | unit high :: unit low :: rest =>
    if isHigh high then
      if isLow low then text? (joined high low :: done) rest else none
    else if isLow high then none
    else text? (Char.ofNat high :: done) (unit low :: rest)
  | unit code :: rest =>
    if isHigh code || isLow code then none else text? (Char.ofNat code :: done) rest
termination_by pieces => pieces.length

end Piece

def escape? : Char → Option Char
  | '"' => some '"'
  | '\\' => some '\\'
  | '/' => some '/'
  | 'b' => some '\x08'
  | 'f' => some '\x0c'
  | 'n' => some '\n'
  | 'r' => some '\r'
  | 't' => some '\t'
  | _ => none

def unit? (a b c d : Char) : Option Nat :=
  match Hex.value? a.toNat, Hex.value? b.toNat, Hex.value? c.toNat, Hex.value? d.toNat with
  | some a, some b, some c, some d => some (4096 * a + 256 * b + 16 * c + d)
  | _, _, _, _ => none

/-- The pieces up to the closing quote, and all that follows it; `done` holds the pieces so far,
last first. Control characters have to be escaped. -/
def pieces? (done : List Piece) : List Char → Option (List Piece × List Char)
  | [] => none
  | '"' :: rest => some (done.reverse, rest)
  | '\\' :: 'u' :: a :: b :: c :: d :: rest =>
    match unit? a b c d with
    | some code => pieces? (.unit code :: done) rest
    | none => none
  | '\\' :: letter :: rest =>
    match escape? letter with
    | some char => pieces? (.plain char :: done) rest
    | none => none
  | char :: rest =>
    if char = '\\' || char.toNat < 0x20 then none else pieces? (.plain char :: done) rest

def digits? (chars : List Char) : Option (List Char × List Char) :=
  let digits := chars.takeWhile Char.isDigit
  if digits.isEmpty then none else some (digits, chars.dropWhile Char.isDigit)

/-- Digits that do not begin with a needless zero. -/
def whole? (chars : List Char) : Option (List Char × List Char) :=
  match digits? chars with
  | some (digits, rest) => if digits.length > 1 && digits.head? = some '0' then none
      else some (digits, rest)
  | none => none

/-- Passes over a fraction; says whether there is one. -/
def fraction? : List Char → Option (Bool × List Char)
  | '.' :: rest => (digits? rest).map fun (_, rest) => (true, rest)
  | chars => some (false, chars)

def exponent? : List Char → Option (Bool × List Char)
  | 'e' :: rest | 'E' :: rest =>
    let unsigned := match rest with
      | '+' :: rest | '-' :: rest => rest
      | _ => rest
    (digits? unsigned).map fun (_, rest) => (true, rest)
  | chars => some (false, chars)

def natural (digits : List Char) : Nat :=
  digits.foldl (fun value digit => 10 * value + (digit.toNat - '0'.toNat)) 0

def unsigned? (chars : List Char) : Option (Option Nat × List Char) := do
  let (digits, rest) ← whole? chars
  let (fraction, rest) ← fraction? rest
  let (exponent, rest) ← exponent? rest
  return (if fraction || exponent then none else some (natural digits), rest)

def number? : List Char → Option (Option Nat × List Char)
  | '-' :: rest => (unsigned? rest).map fun (_, rest) => (none, rest)
  | chars => unsigned? chars

def isBlank (char : Char) : Bool :=
  char = ' ' || char = '\n' || char = '\t' || char = '\r'

def next? : List Char → Option (Token × List Char)
  | '[' :: rest => some (openArray, rest)
  | ']' :: rest => some (closeArray, rest)
  | '{' :: rest => some (openObject, rest)
  | '}' :: rest => some (closeObject, rest)
  | ':' :: rest => some (colon, rest)
  | ',' :: rest => some (comma, rest)
  | 'n' :: 'u' :: 'l' :: 'l' :: rest => some (scalar .null, rest)
  | 't' :: 'r' :: 'u' :: 'e' :: rest => some (scalar (.bool true), rest)
  | 'f' :: 'a' :: 'l' :: 's' :: 'e' :: rest => some (scalar (.bool false), rest)
  | '"' :: rest => (pieces? [] rest).map fun (pieces, rest) =>
      (scalar (.string (Piece.text? [] pieces)), rest)
  | chars => (number? chars).map fun (value, rest) => (scalar (.number value), rest)

theorem length_of_digits? {chars digits rest : List Char}
    (found : digits? chars = some (digits, rest)) : rest.length < chars.length := by
  simp only [digits?] at found
  split at found
  next => cases found
  next some =>
    cases found
    have := congrArg List.length (List.takeWhile_append_dropWhile (p := Char.isDigit) (l := chars))
    simp only [List.length_append] at this
    have : (chars.takeWhile Char.isDigit).length ≠ 0 := by simpa using some
    omega

theorem length_of_unsigned? {chars rest : List Char} {value : Option Nat}
    (found : unsigned? chars = some (value, rest)) : rest.length < chars.length := by
  simp only [unsigned?, Option.bind_eq_bind, Option.bind_eq_some_iff, Option.pure_def,
    Option.some.injEq, Prod.mk.injEq, Prod.exists] at found
  obtain ⟨digits, first, whole, _, second, fraction, _, third, exponent, _, rfl⟩ := found
  have : first.length < chars.length := by
    unfold whole? at whole
    split at whole
    next digits rest found =>
      have := length_of_digits? found
      split at whole
      next => cases whole
      next => cases whole; exact this
    next => cases whole
  have : second.length ≤ first.length := by
    unfold fraction? at fraction
    split at fraction
    next rest =>
      obtain ⟨⟨_, _⟩, found, same⟩ := Option.map_eq_some_iff.mp fraction
      cases same
      have := length_of_digits? found
      simp only [List.length_cons]
      omega
    next => cases fraction; exact Nat.le_refl _
  have : third.length ≤ second.length := by
    unfold exponent? at exponent
    split at exponent
    case h_3 => cases exponent; exact Nat.le_refl _
    all_goals
      obtain ⟨⟨_, _⟩, found, same⟩ := Option.map_eq_some_iff.mp exponent
      cases same
      have := length_of_digits? found
      split at this <;> simp only [List.length_cons] <;> omega
  omega

theorem length_of_pieces? {done pieces : List Piece} {chars rest : List Char}
    (found : pieces? done chars = some (pieces, rest)) : rest.length < chars.length := by
  fun_induction pieces? done chars <;> simp_all <;> omega

/-- A token takes one character at least. -/
theorem length_of_next? {chars rest : List Char} {token : Token}
    (found : next? chars = some (token, rest)) : rest.length < chars.length := by
  unfold next? at found
  split at found
  case h_10 rest =>
    obtain ⟨⟨_, _⟩, found, same⟩ := Option.map_eq_some_iff.mp found
    cases same
    have := length_of_pieces? found
    simp only [List.length_cons]
    omega
  case h_11 =>
    obtain ⟨⟨_, _⟩, found, same⟩ := Option.map_eq_some_iff.mp found
    cases same
    unfold number? at found
    split at found
    next =>
      obtain ⟨⟨_, _⟩, found, same⟩ := Option.map_eq_some_iff.mp found
      cases same
      have := length_of_unsigned? found
      simp only [List.length_cons]
      omega
    next => exact length_of_unsigned? found
  all_goals
    cases found
    simp only [List.length_cons]
    omega

end Token
end BridgeTag.Json
