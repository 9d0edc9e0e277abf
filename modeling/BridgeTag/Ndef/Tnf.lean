import BridgeTag.Octets

/-! Type name formats: how the type field of a record is to be read. -/
namespace BridgeTag.Ndef

inductive Tnf where
  | empty | wellKnown | media | absoluteUri | external | unknown | unchanged | reserved
deriving Repr, DecidableEq

namespace Tnf

def all : List Tnf :=
  [empty, wellKnown, media, absoluteUri, external, unknown, unchanged, reserved]

def code : Tnf → Nat
  | empty => 0
  | wellKnown => 1
  | media => 2
  | absoluteUri => 3
  | external => 4
  | unknown => 5
  | unchanged => 6
  | reserved => 7

def ofOctet (octet : UInt8) : Tnf :=
  match octet.toNat % 8 with
  | 0 => empty
  | 1 => wellKnown
  | 2 => media
  | 3 => absoluteUri
  | 4 => external
  | 5 => unknown
  | 6 => unchanged
  | _ => reserved

def name : Tnf → String
  | empty => "Empty"
  | wellKnown => "WellKnown"
  | media => "Media"
  | absoluteUri => "AbsoluteUri"
  | external => "External"
  | unknown => "Unknown"
  | unchanged => "Unchanged"
  | reserved => "Reserved"

end Tnf
end BridgeTag.Ndef
