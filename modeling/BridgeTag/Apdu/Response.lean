import BridgeTag.Failure
import BridgeTag.Octets

/-! Response APDUs: data, then a two-octet status word. -/
namespace BridgeTag.Apdu

structure Response where
  data : Octets
  sw : UInt16
deriving Repr, DecidableEq

namespace Response

def success : UInt16 := 0x9000

def sw1 (response : Response) : UInt8 := UInt8.ofNat (response.sw.toNat / 256)

def sw2 (response : Response) : UInt8 := UInt8.ofNat response.sw.toNat

def ok (response : Response) : Bool := response.sw = success

def encode (response : Response) : Octets := response.data ++ Octets.ofU16 response.sw

/-- Reads from the end: the last two octets, then all before them. -/
def decode (octets : Octets) : Except Failure Response :=
  match octets.reverse with
  | low :: high :: data => .ok ⟨data.reverse, Octets.toU16 high low⟩
  | _ => .error ⟨.apdu, "parse", .invalidResponse⟩

/-- Splits by length: all but two octets, then the status word. -/
def split (octets : Octets) : Except Failure Response :=
  match octets.splitAt (octets.length - 2) with
  | (data, [high, low]) => .ok ⟨data, Octets.toU16 high low⟩
  | _ => .error ⟨.apdu, "parse", .invalidResponse⟩

end Response
end BridgeTag.Apdu
