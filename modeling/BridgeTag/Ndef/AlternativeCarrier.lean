import BridgeTag.Failure
import BridgeTag.Reader

/-! Alternative-carrier records: the power state of a carrier and references to the records that
describe it. Each reference stands behind its length, the auxiliary ones behind their count. -/
namespace BridgeTag.Ndef

inductive PowerState where
  | inactive | active | activating | unknown
deriving Repr, DecidableEq

namespace PowerState

def all : List PowerState := [inactive, active, activating, unknown]

def code : PowerState → UInt8
  | inactive => 0
  | active => 1
  | activating => 2
  | unknown => 3

/-- The state in the low two bits; the others are reserved. -/
def ofOctet (octet : UInt8) : PowerState :=
  match octet.toNat % 4 with
  | 0 => inactive
  | 1 => active
  | 2 => activating
  | _ => unknown

def name : PowerState → String
  | inactive => "Inactive"
  | active => "Active"
  | activating => "Activating"
  | unknown => "Unknown"

end PowerState

structure AlternativeCarrier where
  powerState : PowerState
  /-- Names the record of the carrier itself. -/
  carrier : Octets
  auxiliary : List Octets
deriving Repr, DecidableEq

namespace AlternativeCarrier

def type : Octets := [0x61, 0x63] -- ac

def reference (octets : Octets) : Octets := UInt8.ofNat octets.length :: octets

/-- Counts and lengths fit one octet each. -/
def encodable (record : AlternativeCarrier) : Bool :=
  record.auxiliary.length ≤ 255 &&
    (record.carrier :: record.auxiliary).all fun octets => octets.length ≤ 255

def encode (record : AlternativeCarrier) : Except Failure Octets :=
  if record.encodable then
    .ok (record.powerState.code :: reference record.carrier ++
      UInt8.ofNat record.auxiliary.length :: record.auxiliary.flatMap reference)
  else .error ⟨.recordType, "encode", .illegalArgument⟩

def read : Read AlternativeCarrier := do
  let powerState ← Reader.octet
  let carrier ← Reader.prefixed
  let count ← Reader.octet
  let auxiliary ← Reader.times Reader.prefixed count.toNat
  return ⟨PowerState.ofOctet powerState, carrier, auxiliary⟩

/-- Leaves no octet over. -/
def decode (payload : Octets) : Except Failure AlternativeCarrier :=
  match Reader.whole? read payload with
  | some record => .ok record
  | none => .error ⟨.recordType, "decode", .invalidMessage⟩

end AlternativeCarrier
end BridgeTag.Ndef
