import BridgeTag.Json.Value
import BridgeTag.Octets

/-! Values made into data. Every array and object that is looked into uses up one level, and
there are `levels` of them; what is passed over may nest as it likes. An object may have members
that are not asked for, but each that is asked for once at most; an array may stand for an
object when it has exactly the fields asked for, in their order. -/
namespace BridgeTag.Json

/-- How deep arrays and objects may nest. -/
def levels : Nat := 127

namespace Value

def natural? (bound : Nat) : Value → Option Nat
  | number (some value) => if value ≤ bound then some value else none
  | _ => none

def u8? (value : Value) : Option UInt8 := (natural? 255 value).map UInt8.ofNat

def u16? (value : Value) : Option UInt16 := (natural? 65535 value).map UInt16.ofNat

def text? : Value → Option String
  | string text => text
  | _ => none

/-- The items of an array, each made into data with one level less. -/
def items? {α : Type} (item : Nat → Value → Option α) : Nat → Value → Option (List α)
  | levels + 1, array items => items.mapM (item levels)
  | _, _ => none

def octets? : Nat → Value → Option Octets := items? fun _ => u8?

def option? {α : Type} (item : Nat → Value → Option α) : Nat → Value → Option (Option α)
  | _, null => some none
  | levels, value => (item levels value).map some

def named (members : List Member) (name : String) : List Value :=
  members.filterMap fun member => if member.name = some name then some member.value else none

/-- The value of each name; a name that comes twice spoils them all. -/
def select? (members : List Member) : List String → Option (List (Option Value))
  | [] => some []
  | name :: names =>
    match named members name with
    | [] => (select? members names).map (none :: ·)
    | [value] => (select? members names).map (some value :: ·)
    | _ => none

/-- The fields of an object by their names, each present or not. -/
def fields? (names : List String) : Value → Option (List (Option Value))
  | object members => if members.all fun member => member.name.isSome then select? members names
      else none
  | array items => if items.length = names.length then some (items.map some) else none
  | _ => none

/-- The name and the value of a choice that is written as an object. -/
def choice? : Value → Option (String × Value)
  | object [⟨some name, value⟩] => some (name, value)
  | _ => none

/-- The name of a choice without a value: a string, or an object with null for its value. -/
def plainChoice? : Nat → Value → Option String
  | _, string text => text
  | _ + 1, object [⟨some name, null⟩] => some name
  | _, _ => none

def ofOctets (octets : Octets) : Value := array (octets.map fun octet => ofNat octet.toNat)

def ofOption {α : Type} (item : α → Value) : Option α → Value
  | none => null
  | some value => item value

end Value
end BridgeTag.Json
