import BridgeTag.Failure
import BridgeTag.Octets

/-! External records: a payload that this library does not look into, and may not be set yet. -/
namespace BridgeTag.Ndef

structure External where
  payload? : Option Octets
deriving Repr, DecidableEq

namespace External

def payload (record : External) : Except Failure Octets :=
  match record.payload? with
  | some payload => .ok payload
  | none => .error ⟨.recordType, "payload", .invalidState⟩

def encode (record : External) : Except Failure Octets :=
  match record.payload? with
  | some payload => .ok payload
  | none => .error ⟨.recordType, "encode", .invalidState⟩

end External
end BridgeTag.Ndef
