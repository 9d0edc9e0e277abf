import BridgeTag.Apdu.Command
import BridgeTag.Apdu.Response
import BridgeTag.Proofs.Checked.Cursor
import Mathlib.Data.List.Basic

/-! Commands and responses read with every access checked. The lengths that are asked for stand in
the octets themselves, and each is compared with what is there before it is used. -/
namespace BridgeTag.Apdu

open Cursor Checked

namespace Command

def refused : Halt := .failed ⟨.apdu, "parse", .illegalArgument⟩

def checkedShort (machine : Machine) (length : UInt8) (rest : Octets) :
    Checked (Octets × Option Le) := do
  if rest.length = length.toNat then
    return (← front rest length.toNat, none)
  else
    let one ← sum machine length.toNat 1
    if rest.length = one then
      let le ← index rest length.toNat
      return (← front rest length.toNat, some (Le.ofWire le.toUInt16))
    else .error refused

def checkedExtended (machine : Machine) (rest : Octets) : Checked (Octets × Option Le) := do
  let (length, cursor) ← (ofOctets rest).need (u16 machine) refused
  if length.toNat = 0 then .error refused
  else
    let (data, cursor) ← cursor.need (take machine length.toNat) refused
    match ← cursor.remaining with
    | 0 => return (data, none)
    | 2 =>
      let (le, _) ← u16 machine cursor
      return (data, le.map Le.ofWire)
    | _ => .error refused

def checkedFields (machine : Machine) : Octets → Checked (Octets × Option Le)
  | [] => .ok ([], none)
  | [le] => .ok ([], some (Le.ofWire le.toUInt16))
  | length :: rest =>
    if length = 0 then
      match rest with
      | [high, low] => .ok ([], some (Le.ofWire (Octets.toU16 high low)))
      | _ => checkedExtended machine rest
    else checkedShort machine length rest

def checkedDecode (machine : Machine) (octets : Octets) : Checked Command := do
  let (header, cursor) ← (ofOctets octets).need (take machine 4) refused
  let cla ← index header 0
  let ins ← index header 1
  let p1 ← index header 2
  let p2 ← index header 3
  let (body, _) ← cursor.need drain refused
  let (data, le) ← checkedFields machine body
  return ⟨cla, ins, p1, p2, data, le⟩

variable {machine : Machine} {octets rest : Octets}

theorem checkedShort_eq (holds : machine.Holds rest.length) (length : UInt8) :
    checkedShort machine length rest = expect (shortFields? length rest) refused := by
  have small := length.toNat_lt
  have wide := holds.wide
  have one : sum machine length.toNat 1 = .ok (length.toNat + 1) := sum_of_lt (by omega)
  simp only [checkedShort, shortFields?, one, ok_bind]
  cases cut : Octets.cut? length.toNat rest with
  | none =>
    have short : rest.length < length.toNat := by
      simp only [Octets.cut?_eq] at cut
      split at cut
      next => cases cut
      next le => omega
    simp [Nat.ne_of_lt short, show rest.length ≠ length.toNat + 1 by omega]
  | some parts =>
    obtain ⟨data, back⟩ := parts
    obtain ⟨size, rfl⟩ := Octets.cut?_eq_some.mp cut
    have inside : front (data ++ back) length.toNat = .ok data := by
      simp [front, ← size]
    simp only [List.length_append, size, inside, ok_bind, pure_eq_ok]
    rcases back with _ | ⟨le, _ | ⟨more, back⟩⟩
    · simp
    · have last : index (data ++ [le]) length.toNat = .ok le := by
        simp [index, ← size]
      simp [last]
    · simp

theorem checkedExtended_eq (holds : machine.Holds rest.length) (long : rest.length ≠ 2) :
    checkedExtended machine rest = expect (extendedFields? rest) refused := by
  have start := stands_ofOctets rest
  rcases rest with _ | ⟨high, _ | ⟨low, rest⟩⟩
  iterate 2
    have short := need_of_none (inStep_u16 holds) start rfl refused
    simp [checkedExtended, short, extendedFields?]
  have length : Reader.u16 (Reader.ofOctets (high :: low :: rest)) =
    (some (Octets.toU16 high low), ⟨2, rest⟩) := rfl
  obtain ⟨first, read, stands⟩ := need_of_some (inStep_u16 holds) start length refused
  clear length
  have more : rest ≠ [] := by
    rintro rfl
    exact long rfl
  simp only [checkedExtended, read, ok_bind, extendedFields?]
  have small := (Octets.toU16 high low).toNat_lt
  generalize Octets.toU16 high low = length at *
  split
  next => simp
  next =>
    have inStep : InStep (high :: low :: rest) (take machine length.toNat)
      (Reader.take length.toNat) := inStep_take holds (by omega)
    cases cut : Octets.cut? length.toNat rest with
    | none =>
      have short := need_of_none inStep stands (by simp [Reader.take, cut]) refused
      simp [short]
    | some parts =>
      obtain ⟨data, back⟩ := parts
      have data' : Reader.take length.toNat ⟨2, rest⟩ = (some data, ⟨2 + length.toNat, back⟩) := by
        simp [Reader.take, cut]
      obtain ⟨second, taken, stands⟩ := need_of_some inStep stands data' refused
      have left := remaining_eq stands
      simp only [taken, ok_bind, left]
      rcases back with _ | ⟨a, _ | ⟨b, _ | ⟨c, back⟩⟩⟩
      · simp
      · simp
      · obtain ⟨third, last, _⟩ := inStep_u16 holds second _ stands
        simp [last, Reader.u16]
      · simp

theorem checkedFields_eq (holds : machine.Holds octets.length) :
    checkedFields machine octets = expect (fields? octets) refused := by
  rcases octets with _ | ⟨length, _ | ⟨next, rest⟩⟩
  iterate 2 · rfl
  have holds' : machine.Holds (next :: rest).length := holds.mono (Nat.le_succ _)
  simp only [checkedFields, fields?]
  split
  next =>
    split
    next pair =>
      cases pair
      rfl
    next other =>
      apply checkedExtended_eq holds'
      intro two
      obtain ⟨high, low, pair⟩ := List.length_eq_two.mp two
      exact other high low pair
  next => exact checkedShort_eq holds' length

/-- No access leaves its bounds: the run comes to what decoding comes to. -/
theorem checkedDecode_eq (holds : machine.Holds octets.length) :
    checkedDecode machine octets = of (decode octets) := by
  have start := stands_ofOctets octets
  have inStep := inStep_take (n := 4) holds (by decide)
  rcases octets with _ | ⟨cla, _ | ⟨ins, _ | ⟨p1, _ | ⟨p2, body⟩⟩⟩⟩
  iterate 4
    have short := need_of_none inStep start rfl refused
    simp only [checkedDecode, short]
    rfl
  have front : Reader.take 4 (Reader.ofOctets (cla :: ins :: p1 :: p2 :: body)) =
    (some [cla, ins, p1, p2], ⟨4, body⟩) := Reader.take_eq_some.mpr ⟨rfl, rfl, rfl⟩
  have back : Reader.drain ⟨4, body⟩ = (some body, ⟨4 + body.length, []⟩) := rfl
  obtain ⟨second, header, stands⟩ := need_of_some inStep start front refused
  obtain ⟨_, drained, _⟩ := need_of_some inStep_drain stands back refused
  have holds' : machine.Holds body.length := holds.mono (Nat.le_add_right body.length 4)
  simp only [checkedDecode, header, drained, checkedFields_eq holds', decode, decode?, ok_bind]
  cases fields? body with
  | none => rfl
  | some fields => rfl

end Command

namespace Response

def short : Halt := .failed ⟨.apdu, "parse", .invalidResponse⟩

def checkedDecode (octets : Octets) : Checked Response := do
  if octets.length < 2 then .error short
  else
    let high ← difference octets.length 2
    let low ← difference octets.length 1
    return ⟨← front octets high, Octets.toU16 (← index octets high) (← index octets low)⟩

def checkedSplit (octets : Octets) : Checked Response := do
  if octets.length < 2 then .error short
  else
    let place ← difference octets.length 2
    let status ← back octets place
    let data ← front octets place
    return ⟨data, Octets.toU16 (← index status 0) (← index status 1)⟩

variable {octets : Octets}

/-- Octets that are enough for a status word end with one. -/
theorem exists_status (enough : ¬octets.length < 2) :
    ∃ data high low, octets = data ++ [high, low] := by
  have two : (octets.drop (octets.length - 2)).length = 2 := by
    simp only [List.length_drop]
    omega
  obtain ⟨high, low, status⟩ := List.length_eq_two.mp two
  refine ⟨octets.take (octets.length - 2), high, low, ?_⟩
  simp only [← status, List.take_append_drop]

theorem checkedDecode_eq (octets : Octets) : checkedDecode octets = of (decode octets) := by
  by_cases few : octets.length < 2
  · rcases octets with _ | ⟨_, _ | ⟨_, _⟩⟩
    iterate 2 · rfl
    · exact absurd few (by simp)
  · obtain ⟨data, high, low, rfl⟩ := exists_status few
    simp [checkedDecode, decode, difference, front, index]

theorem checkedSplit_eq (octets : Octets) : checkedSplit octets = of (split octets) := by
  by_cases few : octets.length < 2
  · rcases octets with _ | ⟨_, _ | ⟨_, _⟩⟩
    iterate 2 · rfl
    · exact absurd few (by simp)
  · obtain ⟨data, high, low, rfl⟩ := exists_status few
    simp [checkedSplit, split, difference, front, back, index]

end Response
end BridgeTag.Apdu
