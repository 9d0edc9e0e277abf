import BridgeTag.Failure
import BridgeTag.Octets

/-! Error records of a handover: why the selector cannot serve the request. -/
namespace BridgeTag.Ndef

structure HandoverError where
  reason : UInt8
  data : Octets
deriving Repr, DecidableEq

namespace HandoverError

def type : Octets := [0x65, 0x72, 0x72] -- err

-- The data tells how much it could take, how much it takes at most, or how long to wait.
def temporaryMemory : UInt8 := 0x01
def permanentMemory : UInt8 := 0x02
def carrierSpecific : UInt8 := 0x03

def encode (record : HandoverError) : Octets := record.reason :: record.data

def decode : Octets → Except Failure HandoverError
  | [] => .error ⟨.recordType, "decode", .invalidMessage⟩
  | reason :: data => .ok ⟨reason, data⟩

end HandoverError
end BridgeTag.Ndef
