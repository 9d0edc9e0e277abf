import BridgeTag.Hex
import BridgeTag.Text.Hidden

/-! Texts and single characters between quotes. A quote of the kind that encloses them and a
backslash stand behind a backslash, the common controls have letters, and a hidden character is
spelled by its number. -/
namespace BridgeTag.Text

def number (char : Char) : List Char := Nat.toDigits 16 char.toNat

def spelled (quote char : Char) : List Char :=
  if char = quote || char = '\\' then ['\\', char]
  else match char with
    | '\x00' => ['\\', '0']
    | '\t' => ['\\', 't']
    | '\n' => ['\\', 'n']
    | '\r' => ['\\', 'r']
    | _ =>
      if isHidden char then ['\\', 'u', '\x7b'] ++ number char ++ ['\x7d'] else [char]

def quoted (text : String) : String :=
  String.ofList ('"' :: (text.toList.flatMap (spelled '"') ++ ['"']))

def quotedChar (char : Char) : String := String.ofList ('\'' :: (spelled '\'' char ++ ['\'']))

end BridgeTag.Text
