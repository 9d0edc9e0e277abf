import BridgeTag.Json.Apdu
import BridgeTag.Proofs.Json.Fields

/-! Commands, responses and data groups made of the values that stand for them. -/
namespace BridgeTag

open Json Value

variable {levels : Nat}

namespace Apdu

theorem Le.ofJson?_toJson (le : Le) : Le.ofJson? (levels + 1) le.toJson = some le := by
  cases le with
  | any => rfl
  | exact count => simp [Le.ofJson?, Le.toJson]

theorem Command.ofJson?_toJson (command : Command) :
    Command.ofJson? (levels + 2) command.toJson = some command := by
  have le : option? Le.ofJson? (levels + 1) (ofOption Le.toJson command.le) = some command.le := by
    apply option?_ofOption
    intro le
    refine ⟨?_, Le.ofJson?_toJson le⟩
    cases le <;> nofun
  have fields : command.toJson.fields? ["cla", "ins", "p1", "p2", "data", "le"] = _ :=
    fields?_ofFields rfl (by decide)
  simp [Command.ofJson?, fields, le]

theorem Response.ofJson?_toJson (response : Response) :
    Response.ofJson? (levels + 2) response.toJson = some response := by
  have fields : response.toJson.fields? ["data", "sw"] = _ := fields?_ofFields rfl (by decide)
  simp [Response.ofJson?, fields]

end Apdu

theorem Dgi.ofJson?_toJson (dgi : Dgi) : Dgi.ofJson? (levels + 2) dgi.toJson = some dgi := by
  have fields : dgi.toJson.fields? ["tag", "value"] = _ := fields?_ofFields rfl (by decide)
  simp [Dgi.ofJson?, fields]

end BridgeTag
