import BridgeTag.Failure
import BridgeTag.Octets

/-! Command APDUs in their short and extended forms. A length octet of zero in front of more
octets announces the extended form; alone it is an expected length. -/
namespace BridgeTag.Apdu

/-- Expected length of the response data. -/
inductive Le where
  /-- As many octets as there are. -/
  | any
  | exact (count : UInt16)
deriving Repr, DecidableEq

namespace Le

/-- Zero on the wire stands for any length. -/
def ofWire (value : UInt16) : Le := if value = 0 then any else exact value

def toWire : Le → UInt16
  | any => 0
  | exact count => count

/-- Needs two octets on the wire; 256 does not, a short zero octet stands for it. -/
def long : Le → Bool
  | any => false
  | exact count => count > 256

end Le

structure Command where
  cla : UInt8
  ins : UInt8
  p1 : UInt8
  p2 : UInt8
  data : Octets := []
  le : Option Le := none
deriving Repr, DecidableEq

namespace Command

def lc (command : Command) : Nat := command.data.length

def p1p2 (command : Command) : UInt16 := Octets.toU16 command.p1 command.p2

def header (command : Command) : Octets := [command.cla, command.ins, command.p1, command.p2]

/-- Data or expected length is more than one octet can count. -/
def extended (command : Command) : Bool := command.lc > 255 || command.le.any Le.long

/-- Some form can hold the command: 65535 octets of data at most, and not zero octets back. -/
def encodable (command : Command) : Bool :=
  command.lc ≤ 65535 && command.le != some (.exact 0)

def shortBody (command : Command) : Octets :=
  (if command.data.isEmpty then [] else UInt8.ofNat command.lc :: command.data) ++
    match command.le with
    | none => []
    | some le => [le.toWire.toUInt8]

def extendedBody (command : Command) : Octets :=
  0 :: (if command.data.isEmpty then [] else Octets.ofU16 (UInt16.ofNat command.lc) ++ command.data) ++
    match command.le with
    | none => []
    | some le => Octets.ofU16 le.toWire

/-- The octets to transmit, extended only where the short form cannot hold the command. -/
def encode (command : Command) : Except Failure Octets :=
  if command.encodable then
    .ok (command.header ++ if command.extended then command.extendedBody else command.shortBody)
  else .error ⟨.apdu, "to_bytes", .illegalArgument⟩

def shortFields? (length : UInt8) (rest : Octets) : Option (Octets × Option Le) :=
  match Octets.cut? length.toNat rest with
  | some (data, []) => some (data, none)
  | some (data, [le]) => some (data, some (Le.ofWire le.toUInt16))
  | _ => none

def extendedFields? : Octets → Option (Octets × Option Le)
  | [high, low] => some ([], some (Le.ofWire (Octets.toU16 high low)))
  | high :: low :: rest =>
    let length := (Octets.toU16 high low).toNat
    if length = 0 then none
    else match Octets.cut? length rest with
      | some (data, []) => some (data, none)
      | some (data, [a, b]) => some (data, some (Le.ofWire (Octets.toU16 a b)))
      | _ => none
  | _ => none

/-- Data and expected length of all that follows the header. -/
def fields? : Octets → Option (Octets × Option Le)
  | [] => some ([], none)
  | [le] => some ([], some (Le.ofWire le.toUInt16))
  | length :: rest => if length = 0 then extendedFields? rest else shortFields? length rest

def decode? : Octets → Option Command
  | cla :: ins :: p1 :: p2 :: body =>
    (fields? body).map fun (data, le) => ⟨cla, ins, p1, p2, data, le⟩
  | _ => none

/-- Reads a command in either form; every octet has to have its place. -/
def decode (octets : Octets) : Except Failure Command :=
  match decode? octets with
  | some command => .ok command
  | none => .error ⟨.apdu, "parse", .illegalArgument⟩

end Command
end BridgeTag.Apdu
