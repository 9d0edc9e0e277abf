import BridgeTag.Proofs.Checked.Cursor
import BridgeTag.Proofs.Dgi.RoundTrip

/-! Data groups read with every access checked. Each takes three octets at least, so that a third of
the octets bounds the rounds of the loop, and no list of them is as long as a word can count. -/
namespace BridgeTag.Dgi

open Cursor Checked

def malformed : Halt := .failed ⟨.dgi, "decode", .malformedDgi⟩

def crowded : Halt := .failed ⟨.dgi, "decode", .illegalArgument⟩

def checkedReadLength (machine : Machine) : Step Nat := do
  let length ← octet machine
  if length = 255 then return (← u16 machine).toNat else return length.toNat

def checkedRead (machine : Machine) : Step Dgi := do
  let tag ← u16 machine
  let length ← checkedReadLength machine
  let value ← take machine length
  return ⟨tag, value⟩

/-- Every entity up to the end, in no more rounds than are allowed. -/
def checkedCollect (machine : Machine) (capacity : Nat) (done : List Dgi) (cursor : Cursor) :
    (rounds : Nat) → Checked (List Dgi)
  | 0 => .error .rounds
  | rounds + 1 => do
    let left ← cursor.remaining
    if left = 0 then return done.reverse
    else if done.length = capacity then .error crowded
    else
      let (dgi, after) ← cursor.need (checkedRead machine) malformed
      checkedCollect machine capacity (dgi :: done) after rounds

def checkedDecodeInto (machine : Machine) (octets : Octets) (entities : List Dgi)
    (capacity : Nat) : Checked Nat × List Dgi :=
  match checkedCollect machine capacity [] (ofOctets octets) (octets.length / 3 + 1) with
  | .ok found => (.ok found.length, entities ++ found)
  | .error halt => (.error halt, entities)

/-- Every entity of an octet string, room being left for as many as a word can count. -/
def checkedDecode (machine : Machine) (octets : Octets) : Checked (List Dgi) :=
  match checkedDecodeInto machine octets [] (machine.words - 1) with
  | (.ok _, entities) => .ok entities
  | (.error halt, _) => .error halt

variable {machine : Machine} {octets : Octets} {cursor : Cursor} {reader after : Reader}
  {dgi : Dgi} {done : List Dgi} {room : Option Nat} {capacity rounds : Nat}

theorem inStep_checkedReadLength (holds : machine.Holds octets.length) :
    InStep octets (checkedReadLength machine) readLength := by
  apply inStep_bind (inStep_octet holds)
  intro length _ _ _
  split
  next =>
    apply inStep_bind (inStep_u16 holds)
    intro value _ _ _
    exact inStep_pure _
  next => exact inStep_pure _

theorem readLength_le {length : Nat} (found : readLength reader = (some length, after)) :
    length ≤ 65535 := by
  obtain ⟨long, fits, _⟩ := readLength_eq_some.mp found
  exact Nat.le_trans fits (lengthLimit_le long)

theorem inStep_checkedRead (holds : machine.Holds octets.length) :
    InStep octets (checkedRead machine) read := by
  apply inStep_bind (inStep_u16 holds)
  intro tag _ _ _
  apply inStep_bind (inStep_checkedReadLength holds)
  intro length _ _ found
  have small := readLength_le found
  apply inStep_bind (inStep_take holds (by omega))
  intro value _ _ _
  exact inStep_pure _

theorem read_shrinks_by_three (found : read reader = (some dgi, after)) :
    after.rest.length + 3 ≤ reader.rest.length := by
  obtain ⟨long, _, rest, _⟩ := read_eq_some.mp found
  have three := three_le_length_spelling dgi long
  simp only [rest, List.length_append]
  omega

theorem collect_read (space : room ≠ some 0) (found : read reader = (some dgi, after))
    (done : List Dgi) :
    collect room done reader = collect (room.map (· - 1)) (dgi :: done) after := by
  obtain ⟨long, fits, rest, position⟩ := read_eq_some.mp found
  obtain ⟨position', rest'⟩ := reader
  obtain ⟨position'', rest''⟩ := after
  simp only at rest position
  subst rest position
  exact collect_spelling space fits done position' rest''

/-- The loop in step: each round is one entity, and less is left for the rounds that are. -/
theorem checkedCollect_eq (holds : machine.Holds octets.length)
    (stands : Stands octets cursor reader) (room : done.length ≤ capacity)
    (enough : reader.rest.length < 3 * rounds) :
    checkedCollect machine capacity done cursor rounds =
      of (collect (some (capacity - done.length)) done reader) := by
  induction rounds generalizing done cursor reader with
  | zero => omega
  | succ rounds ih =>
    have left := remaining_eq stands
    have inStep := inStep_checkedRead holds
    simp only [checkedCollect, left, ok_bind, List.length_eq_zero_iff]
    by_cases nothing : reader.rest = []
    · obtain ⟨position, rest⟩ := reader
      simp only at nothing
      subst nothing
      simp [collect_end]
    · by_cases full : done.length = capacity
      · simp [nothing, full, collect_full nothing, crowded]
      · have space : some (capacity - done.length) ≠ some 0 := by
          simp only [ne_eq, Option.some.injEq]
          omega
        simp only [nothing, full, if_false]
        cases found : read reader with
        | mk value after =>
          cases value with
          | none =>
            have unread : (read reader).1 = none := congrArg Prod.fst found
            have short := need_of_none inStep stands unread malformed
            simp only [short, error_bind, collect_unread space nothing unread]
            rfl
          | some dgi =>
            obtain ⟨next, needed, stands'⟩ := need_of_some inStep stands found malformed
            have shorter := read_shrinks_by_three found
            have one : capacity - done.length - 1 = capacity - (dgi :: done).length := by
              simp only [List.length_cons]
              omega
            have rest : checkedCollect machine capacity (dgi :: done) next rounds = _ :=
              ih stands' (by simp only [List.length_cons]; omega) (by omega)
            simp only [needed, ok_bind, rest, collect_read space found, Option.map_some, one]

/-- No access leaves its bounds, whatever the capacity, and the list stays where decoding fails. -/
theorem checkedDecodeInto_eq (holds : machine.Holds octets.length) (entities : List Dgi)
    (capacity : Nat) : checkedDecodeInto machine octets entities capacity =
      (of (decodeInto octets entities capacity).1, (decodeInto octets entities capacity).2) := by
  have loop : checkedCollect machine capacity [] (ofOctets octets) (octets.length / 3 + 1) =
      of (collect (some capacity) [] (Reader.ofOctets octets)) :=
    checkedCollect_eq holds (stands_ofOctets octets) (Nat.zero_le _)
      (by simp only [Reader.ofOctets_rest]; omega)
  simp only [checkedDecodeInto, decodeInto, loop]
  cases collect (some capacity) [] (Reader.ofOctets octets) with
  | ok found => rfl
  | error failure => rfl

theorem checkedDecode_eq (holds : machine.Holds octets.length) :
    checkedDecode machine octets = of (decode octets) := by
  have wide := holds.wide
  have inside := holds.inside
  have room : collect (some (machine.words - 1)) [] (Reader.ofOctets octets) = decode octets :=
    collect_roomy (by omega)
  simp only [checkedDecode, checkedDecodeInto_eq holds, decodeInto, room]
  cases decode octets with
  | ok entities => rfl
  | error failure => rfl

end BridgeTag.Dgi
