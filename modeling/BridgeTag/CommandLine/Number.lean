import BridgeTag.Hex

/-! Numbers as they are given on a command line. -/
namespace BridgeTag.CommandLine.Number

/-- Digits only, one at least. -/
def digits? (base : Nat) (digit : Char → Option Nat) (chars : List Char) : Option Nat :=
  if chars.isEmpty then none
  else chars.foldlM (fun value char => (digit char).map (base * value + ·)) 0

def unsignedDecimal? (chars : List Char) : Option Nat :=
  digits? 10 (fun char => if char.isDigit then Hex.value? char.toNat else none) chars

def plus (chars : List Char) : List Char :=
  match chars with
  | '+' :: rest => rest
  | _ => chars

/-- Decimal, perhaps behind a plus sign, up to a bound. -/
def decimal? (bound : Nat) (text : String) : Option Nat :=
  (unsignedDecimal? (plus text.toList)).filter (· ≤ bound)

/-- As `decimal?`; zero may stand behind a minus sign too. -/
def signedDecimal? (bound : Nat) (text : String) : Option Nat :=
  match text.toList with
  | '-' :: rest => (unsignedDecimal? rest).filter (· = 0)
  | _ => decimal? bound text

def withoutMarks : List Char → List Char
  | '0' :: 'x' :: rest => withoutMarks rest
  | chars => chars

/-- Hexadecimal behind any number of marks and perhaps a plus sign, up to a bound. -/
def hex? (bound : Nat) (text : String) : Option Nat :=
  (digits? 16 (fun char => Hex.value? char.toNat) (plus (withoutMarks text.toList))).filter
    (· ≤ bound)

def decimal8? (text : String) : Option UInt8 := (signedDecimal? 255 text).map UInt8.ofNat

def decimal16? (text : String) : Option UInt16 := (signedDecimal? 65535 text).map UInt16.ofNat

def decimal64? (text : String) : Option Nat := decimal? 18446744073709551615 text

def hex8? (text : String) : Option UInt8 := (hex? 255 text).map UInt8.ofNat

def hex16? (text : String) : Option UInt16 := (hex? 65535 text).map UInt16.ofNat

end BridgeTag.CommandLine.Number
