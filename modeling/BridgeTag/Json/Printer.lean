import BridgeTag.Hex
import BridgeTag.Json.Value

/-! Writing JSON, on one line or with one item a line. Only quotes, backslashes and control
characters are escaped. A number without a value is written as `-0` and a string without a text
as half a surrogate pair, so that each reads back as what it was. -/
namespace BridgeTag.Json

def escaped (char : Char) : List Char :=
  match char with
  | '"' => ['\\', '"']
  | '\\' => ['\\', '\\']
  | '\x08' => ['\\', 'b']
  | '\x0c' => ['\\', 'f']
  | '\n' => ['\\', 'n']
  | '\r' => ['\\', 'r']
  | '\t' => ['\\', 't']
  | _ =>
    if char.toNat < 0x20 then
      ['\\', 'u', '0', '0', Hex.digit (char.toNat / 16), Hex.digit (char.toNat % 16)]
    else [char]

def quoted (text : String) : String :=
  String.ofList ('"' :: (text.toList.flatMap escaped ++ ['"']))

def stringText : Option String → String
  | some text => quoted text
  | none => "\"\\ud800\""

def numberText : Option Nat → String
  | some value => toString value
  | none => "-0"

mutual

def Value.compact : Value → String
  | .null => "null"
  | .bool value => if value then "true" else "false"
  | .number value => numberText value
  | .string text => stringText text
  | .array items => "[" ++ ",".intercalate (items.map Value.compact) ++ "]"
  | .object members => "\x7b" ++ ",".intercalate (members.map Member.compact) ++ "\x7d"

def Member.compact : Member → String
  | ⟨name, value⟩ => stringText name ++ ":" ++ value.compact

end

def margin (depth : Nat) : String := String.ofList (List.replicate (2 * depth) ' ')

/-- One part a line between two brackets; without parts the brackets stay together. -/
def block (first last : String) (depth : Nat) (parts : List String) : String :=
  if parts.isEmpty then first ++ last
  else
    let lines := parts.map fun part => margin (depth + 1) ++ part
    first ++ "\n" ++ ",\n".intercalate lines ++ "\n" ++ margin depth ++ last

mutual

def Value.pretty (depth : Nat) : Value → String
  | .null => "null"
  | .bool value => if value then "true" else "false"
  | .number value => numberText value
  | .string text => stringText text
  | .array items => block "[" "]" depth (items.map (Value.pretty (depth + 1)))
  | .object members => block "\x7b" "\x7d" depth (members.map (Member.pretty (depth + 1)))

def Member.pretty (depth : Nat) : Member → String
  | ⟨name, value⟩ => stringText name ++ ": " ++ value.pretty depth

end

end BridgeTag.Json
