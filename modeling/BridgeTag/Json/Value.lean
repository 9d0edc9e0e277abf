/-! JSON texts as trees. Numbers other than the natural ones carry no value here, and neither do
strings that escape one half of a surrogate pair: both may stand in a text, but nothing can be
made of them. -/
namespace BridgeTag.Json

mutual

inductive Value where
  | null
  | bool (value : Bool)
  /-- Without a value unless it is written as a natural number. -/
  | number (value : Option Nat)
  /-- Without a text when half of a surrogate pair is missing. -/
  | string (text : Option String)
  | array (items : List Value)
  /-- Members in the order of the text; a name may come twice. -/
  | object (members : List Member)

structure Member where
  name : Option String
  value : Value

end

namespace Value

def ofNat (value : Nat) : Value := number (some value)

def ofString (text : String) : Value := string (some text)

def ofFields (fields : List (String × Value)) : Value :=
  object (fields.map fun (name, value) => ⟨some name, value⟩)

end Value
end BridgeTag.Json
