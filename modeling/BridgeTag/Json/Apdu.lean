import BridgeTag.Apdu.Command
import BridgeTag.Apdu.Response
import BridgeTag.Dgi
import BridgeTag.Json.Fields

/-! Commands, responses and data groups as JSON. -/
namespace BridgeTag

open Json

namespace Apdu

def Le.toJson : Le → Value
  | .any => .ofString "Any"
  | .exact count => .ofFields [("Exact", .ofNat count.toNat)]

def Le.ofJson? (levels : Nat) (value : Value) : Option Le :=
  match levels, value.choice? with
  | _ + 1, some ("Exact", count) => count.u16?.map .exact
  | _, _ => if value.plainChoice? levels = some "Any" then some .any else none

def Command.toJson (command : Command) : Value :=
  .ofFields [("cla", .ofNat command.cla.toNat), ("ins", .ofNat command.ins.toNat),
    ("p1", .ofNat command.p1.toNat), ("p2", .ofNat command.p2.toNat),
    ("data", .ofOctets command.data), ("le", .ofOption Le.toJson command.le)]

def Command.ofJson? : Nat → Value → Option Command
  | 0, _ => none
  | levels + 1, value => do
    match ← value.fields? ["cla", "ins", "p1", "p2", "data", "le"] with
    | [some cla, some ins, some p1, some p2, some data, le] =>
      return ⟨← cla.u8?, ← ins.u8?, ← p1.u8?, ← p2.u8?, ← data.octets? levels,
        ← (le.getD .null).option? Le.ofJson? levels⟩
    | _ => none

def Response.toJson (response : Response) : Value :=
  .ofFields [("data", .ofOctets response.data), ("sw", .ofNat response.sw.toNat)]

def Response.ofJson? : Nat → Value → Option Response
  | 0, _ => none
  | levels + 1, value => do
    match ← value.fields? ["data", "sw"] with
    | [some data, some sw] => return ⟨← data.octets? levels, ← sw.u16?⟩
    | _ => none

end Apdu

def Dgi.toJson (dgi : Dgi) : Value :=
  .ofFields [("tag", .ofNat dgi.tag.toNat), ("value", .ofOctets dgi.value)]

def Dgi.ofJson? : Nat → Value → Option Dgi
  | 0, _ => none
  | levels + 1, value => do
    match ← value.fields? ["tag", "value"] with
    | [some tag, some value] => return ⟨← tag.u16?, ← value.octets? levels⟩
    | _ => none

end BridgeTag
