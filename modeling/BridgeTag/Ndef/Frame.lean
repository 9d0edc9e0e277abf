import BridgeTag.Ndef.Tnf
import BridgeTag.Reader

/-! The framing of one record. The first octet holds five flags above the type name format; then
come the lengths of type, payload and, where there is one, identifier; then these themselves. -/
namespace BridgeTag.Ndef

structure Header where
  /-- First record of its message. -/
  begins : Bool
  /-- Last record of its message. -/
  ends : Bool
  /-- Part of a record cut into chunks. -/
  chunked : Bool
  /-- The payload length takes one octet instead of four. -/
  short : Bool
  /-- An identifier length is present. -/
  identified : Bool
  tnf : Tnf
deriving Repr, DecidableEq

namespace Header

def ofOctet (octet : UInt8) : Header where
  begins := octet.toNat.testBit 7
  ends := octet.toNat.testBit 6
  chunked := octet.toNat.testBit 5
  short := octet.toNat.testBit 4
  identified := octet.toNat.testBit 3
  tnf := Tnf.ofOctet octet

def octet (header : Header) : UInt8 :=
  UInt8.ofNat (128 * header.begins.toNat + 64 * header.ends.toNat + 32 * header.chunked.toNat +
    16 * header.short.toNat + 8 * header.identified.toNat + header.tnf.code)

theorem ofOctet_octet (header : Header) : ofOctet header.octet = header := by
  rcases header with ⟨begins, ends, chunked, short, identified, tnf⟩
  cases begins <;> cases ends <;> cases chunked <;> cases short <;> cases identified <;>
    cases tnf <;> rfl

theorem octet_ofOctet (octet : UInt8) : (ofOctet octet).octet = octet := by
  have every : ∀ n < 256, (ofOctet (UInt8.ofNat n)).octet = UInt8.ofNat n := by decide +kernel
  simpa using every octet.toNat octet.toNat_lt

end Header

/-- A record whose payload has not been looked into. -/
structure Frame where
  tnf : Tnf
  type : Octets
  id : Octets
  payload : Octets
deriving Repr, DecidableEq

namespace Frame

/-- The shortest header: one length octet where that will do, no empty identifier. -/
def header (frame : Frame) (begins ends : Bool) : Header where
  begins := begins
  ends := ends
  chunked := false
  short := frame.payload.length ≤ 255
  identified := !frame.id.isEmpty
  tnf := frame.tnf

def octets (frame : Frame) (begins ends : Bool) : Octets :=
  (frame.header begins ends).octet :: UInt8.ofNat frame.type.length ::
    (if frame.payload.length ≤ 255 then [UInt8.ofNat frame.payload.length]
      else Octets.ofU32 (UInt32.ofNat frame.payload.length)) ++
    (if frame.id.isEmpty then [] else [UInt8.ofNat frame.id.length]) ++
    frame.type ++ frame.id ++ frame.payload

def readPayloadLength (short : Bool) : Read Nat := do
  if short then return (← Reader.octet).toNat else return (← Reader.u32).toNat

def readIdLength (identified : Bool) : Read Nat := do
  if identified then return (← Reader.octet).toNat else return 0

/-- Reads a frame, wherever in a message it stands; a chunked one is refused. -/
def read : Read Frame := do
  let header := Header.ofOctet (← Reader.octet)
  Reader.require (!header.chunked)
  let typeLength ← Reader.octet
  let payloadLength ← readPayloadLength header.short
  let idLength ← readIdLength header.identified
  let type ← Reader.take typeLength.toNat
  let id ← Reader.take idLength
  let payload ← Reader.take payloadLength
  return ⟨header.tnf, type, id, payload⟩

theorem readPayloadLength_shrinks {short : Bool} {reader after : Reader} {length : Nat}
    (found : readPayloadLength short reader = (some length, after)) :
    after.rest.length < reader.rest.length := by
  unfold readPayloadLength at found
  split at found <;>
    simp only [Reader.bind_eq_some, Reader.octet_eq_some, Reader.u32_eq_some,
      Reader.pure_eq_some] at found <;>
    obtain ⟨_, _, ⟨rest, _⟩, _, rfl⟩ := found <;> simp [rest]

theorem readIdLength_shrinks {identified : Bool} {reader after : Reader} {length : Nat}
    (found : readIdLength identified reader = (some length, after)) :
    after.rest.length ≤ reader.rest.length := by
  unfold readIdLength at found
  split at found <;>
    simp only [Reader.bind_eq_some, Reader.octet_eq_some, Reader.pure_eq_some] at found
  · obtain ⟨_, _, ⟨rest, _⟩, _, rfl⟩ := found
    simp [rest]
  · obtain ⟨_, rfl⟩ := found
    exact Nat.le_refl _

/-- Header and the two lengths take three octets at least. -/
theorem read_shrinks {frame : Frame} {reader after : Reader}
    (found : read reader = (some frame, after)) :
    frame.payload.length + after.rest.length + 3 ≤ reader.rest.length := by
  simp only [read, Reader.bind_eq_some, Reader.octet_eq_some, Reader.require_eq_some,
    Reader.take_eq_some, Reader.pure_eq_some] at found
  obtain ⟨_, _, ⟨first, _⟩, _, _, ⟨_, rfl⟩, _, _, ⟨second, _⟩, _, _, third, _, _, fourth,
    _, _, ⟨_, type, _⟩, _, _, ⟨_, id, _⟩, _, _, ⟨_, payload, _⟩, rfl, rfl⟩ := found
  have := readPayloadLength_shrinks third
  have := readIdLength_shrinks fourth
  simp_all only [List.length_cons, List.length_append]
  omega

end Frame
end BridgeTag.Ndef
