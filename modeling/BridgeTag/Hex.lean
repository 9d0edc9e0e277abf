import BridgeTag.Octets

/-! Octets written as pairs of hexadecimal digits, high half first. -/
namespace BridgeTag.Hex

def digit (value : Nat) : Char :=
  if value < 10 then Char.ofNat ('0'.toNat + value) else Char.ofNat ('a'.toNat + (value - 10))

def upperDigit (value : Nat) : Char :=
  if value < 10 then Char.ofNat ('0'.toNat + value) else Char.ofNat ('A'.toNat + (value - 10))

/-- The value of a digit of either case, by its character code. -/
def value? (code : Nat) : Option Nat :=
  if '0'.toNat ≤ code ∧ code ≤ '9'.toNat then some (code - '0'.toNat)
  else if 'a'.toNat ≤ code ∧ code ≤ 'f'.toNat then some (code - 'a'.toNat + 10)
  else if 'A'.toNat ≤ code ∧ code ≤ 'F'.toNat then some (code - 'A'.toNat + 10)
  else none

def encode (octets : Octets) : String :=
  String.ofList (octets.flatMap fun o => [digit (o.toNat / 16), digit (o.toNat % 16)])

def encodeUpper (octets : Octets) : String :=
  String.ofList (octets.flatMap fun o => [upperDigit (o.toNat / 16), upperDigit (o.toNat % 16)])

inductive Fault where
  | oddLength
  /-- The first octet of the text that is no digit, and where it stands. -/
  | notADigit (octet : UInt8) (index : Nat)
deriving Repr, DecidableEq

/-- Pairs up the digits; `done` holds the octets so far, last first. -/
def pairs (index : Nat) (done : Octets) : Octets → Except Fault Octets
  | [] => .ok done.reverse
  | [_] => .error .oddLength
  | high :: low :: rest =>
    match value? high.toNat, value? low.toNat with
    | none, _ => .error (.notADigit high index)
    | some _, none => .error (.notADigit low (index + 1))
    | some h, some l => pairs (index + 2) (UInt8.ofNat (16 * h + l) :: done) rest

/-- Counts and judges the text octet by octet; an odd count is refused before any digit. -/
def decode (text : String) : Except Fault Octets :=
  let octets := text.toUTF8.data.toList
  if octets.length % 2 = 1 then .error .oddLength else pairs 0 [] octets

end BridgeTag.Hex
