import BridgeTag.Failure
import BridgeTag.Reader

/-! Data groups: a two-octet tag, a length, a value. The length is one octet below 255, or 255
and two more octets. -/
namespace BridgeTag

structure Dgi where
  tag : UInt16
  value : Octets
deriving Repr, DecidableEq

namespace Dgi

-- Tags with a meaning of their own to the applet.
def aesCottKey : UInt16 := 0xA001
def eccKey : UInt16 := 0xA002
def passwords : UInt16 := 0xA003
def ndefFile : UInt16 := 0xE104
def proprietaryFile1 : UInt16 := 0xE1A1
def proprietaryFile2 : UInt16 := 0xE1A2
def proprietaryFile3 : UInt16 := 0xE1A3
def proprietaryFile4 : UInt16 := 0xE1A4
def fileAccessPolicy : UInt16 := 0xE1AF
def finalize : UInt16 := 0xBF63

def knownTags : List UInt16 :=
  [aesCottKey, eccKey, passwords, ndefFile, proprietaryFile1, proprietaryFile2,
    proprietaryFile3, proprietaryFile4, fileAccessPolicy, finalize]

def lengthSize (length : Nat) : Nat := if length < 255 then 1 else 3

def encodedSize (dgi : Dgi) : Nat := 2 + lengthSize dgi.value.length + dgi.value.length

def lengthField (length : Nat) : Octets :=
  if length < 255 then [UInt8.ofNat length] else 255 :: Octets.ofU16 (UInt16.ofNat length)

def octets (dgi : Dgi) : Octets :=
  Octets.ofU16 dgi.tag ++ lengthField dgi.value.length ++ dgi.value

/-- One after the other; a value too long for its length field spoils the whole list. For the octets
themselves there is always room. -/
def encode (entities : List Dgi) : Except Failure Octets :=
  if entities.any fun dgi => dgi.value.length > 65535 then
    .error ⟨.dgi, "encode", .illegalArgument⟩
  else .ok (entities.flatMap octets)

def readLength : Read Nat := do
  let length ← Reader.octet
  if length = 255 then return (← Reader.u16).toNat else return length.toNat

def read : Read Dgi := do
  let tag ← Reader.u16
  let length ← readLength
  let value ← Reader.take length
  return ⟨tag, value⟩

theorem read_shrinks {reader after : Reader} {dgi : Dgi}
    (found : read reader = (some dgi, after)) : after.rest.length < reader.rest.length := by
  have length_shrinks : ∀ {r s n}, readLength r = (some n, s) →
      s.rest.length ≤ r.rest.length := by
    intro r s n found
    simp only [readLength, Reader.bind_eq_some, Reader.octet_eq_some] at found
    obtain ⟨octet, _, ⟨first, _⟩, found⟩ := found
    split at found <;>
      simp only [Reader.bind_eq_some, Reader.u16_eq_some, Reader.pure_eq_some] at found
    · obtain ⟨_, _, ⟨second, _⟩, _, rfl⟩ := found
      simp [first, second]
      omega
    · obtain ⟨_, rfl⟩ := found
      simp [first]
  simp only [read, Reader.bind_eq_some, Reader.u16_eq_some, Reader.take_eq_some,
    Reader.pure_eq_some] at found
  obtain ⟨_, _, ⟨tag, _⟩, _, _, length, _, _, ⟨_, value, _⟩, _, rfl⟩ := found
  have := length_shrinks length
  simp only [tag, value, List.length_append, Octets.length_ofU16] at this ⊢
  omega

/-- Every entity up to the end; `room` bounds their number and `done` holds those so far, last
first. No room is found out before the octets are looked at. -/
def collect (room : Option Nat) (done : List Dgi) (reader : Reader) :
    Except Failure (List Dgi) :=
  if reader.rest.isEmpty then .ok done.reverse
  else if room = some 0 then .error ⟨.dgi, "decode", .illegalArgument⟩
  else match h : read reader with
    | (some dgi, after) => collect (room.map (· - 1)) (dgi :: done) after
    | (none, _) => .error ⟨.dgi, "decode", .malformedDgi⟩
termination_by reader.rest.length
decreasing_by
  exact read_shrinks h

def decode (octets : Octets) : Except Failure (List Dgi) :=
  collect none [] (Reader.ofOctets octets)

/-- Appends at most `capacity` entities to a list and counts them; on failure the list stays. -/
def decodeInto (octets : Octets) (entities : List Dgi) (capacity : Nat) :
    Except Failure Nat × List Dgi :=
  match collect (some capacity) [] (Reader.ofOctets octets) with
  | .ok found => (.ok found.length, entities ++ found)
  | .error failure => (.error failure, entities)

end Dgi
end BridgeTag
