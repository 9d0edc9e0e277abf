import BridgeTag.Proofs.Dgi.Dividing
import Mathlib.Data.List.Basic

/-! Encoding again the entities that were decoded. The encoder spells each in its shorter way, so
the octets become fewer by two for every length that took three octets without need. -/
namespace BridgeTag.Dgi

namespace Spelled

/-- The length takes three octets where one would do. -/
def overlong (group : Spelled) : Bool := group.long && group.dgi.value.length < 255

theorem length_octets_eq (group : Spelled) : group.octets.length =
    group.dgi.octets.length + if group.overlong then 2 else 0 := by
  obtain ⟨dgi, long, fits⟩ := group
  rw [length_octets, Dgi.length_octets, encodedSize, lengthSize]
  cases long with
  | false =>
    have small : dgi.value.length ≤ 254 := fits
    simp only [overlong, Bool.false_and, Bool.false_eq_true, if_false]
    rw [if_pos (Nat.lt_succ_of_le small)]
    rfl
  | true =>
    simp only [overlong, Bool.true_and, decide_eq_true_eq, if_true]
    split <;> omega

/-- Without an octet too many it is the encoder's spelling. -/
theorem octets_eq_iff (group : Spelled) :
    group.octets = group.dgi.octets ↔ group.overlong = false := by
  constructor
  · intro same
    have length := group.length_octets_eq
    rw [same] at length
    cases long : group.overlong with
    | false => rfl
    | true => simp [long] at length
  · intro short
    obtain ⟨dgi, long, fits⟩ := group
    rw [octets, octets_eq_spelling]
    refine congrArg dgi.spelling ?_
    cases long with
    | false =>
      have small : dgi.value.length < 255 := Nat.lt_succ_of_le fits
      simp [small]
    | true => simpa [overlong] using short

end Spelled

variable {octets : Octets} {entities : List Dgi} {groups : List Spelled}

theorem decode_eq_ok_iff_groups : decode octets = .ok entities ↔
    ∃ groups : List Spelled, groups.flatMap Spelled.octets = octets ∧
      groups.map Spelled.dgi = entities := by
  rw [decode_eq_ok]
  constructor
  · intro leading
    obtain ⟨⟨groups, _, whole, _⟩, same, rfl⟩ := leading.exists_division
    exact ⟨groups, (List.append_nil _).symm.trans whole, same⟩
  · intro spelled
    obtain ⟨groups, rfl, rfl⟩ := spelled
    have leading := leading_of_remnant remnant_nil groups
    rwa [List.append_nil] at leading

/-- Two octets too many for each overlong length, and no others. -/
theorem length_flatMap_spelled (groups : List Spelled) :
    (groups.flatMap Spelled.octets).length =
      ((groups.map Spelled.dgi).flatMap Dgi.octets).length +
        2 * groups.countP Spelled.overlong := by
  induction groups with
  | nil => rfl
  | cons group groups ih =>
    simp only [List.map_cons, List.flatMap_cons, List.length_append, List.countP_cons, ih,
      group.length_octets_eq]
    split <;> omega

theorem flatMap_spelled_eq_iff : (groups.map Spelled.dgi).flatMap Dgi.octets =
    groups.flatMap Spelled.octets ↔ ∀ group ∈ groups, group.overlong = false := by
  constructor
  · intro same group member
    have length := length_flatMap_spelled groups
    rw [← same] at length
    have none : groups.countP Spelled.overlong = 0 := by omega
    simpa using List.countP_eq_zero.mp none group member
  · intro short
    rw [List.flatMap_map]
    exact List.flatMap_congr fun group member =>
      (group.octets_eq_iff.mpr (short group member)).symm

theorem encode_groups (groups : List Spelled) : encode (groups.map Spelled.dgi) =
    .ok ((groups.map Spelled.dgi).flatMap Dgi.octets) := by
  refine encode_eq_ok.mpr ⟨?_, rfl⟩
  intro dgi member
  obtain ⟨group, _, rfl⟩ := List.mem_map.mp member
  exact Nat.le_trans group.fits (lengthLimit_le group.long)

/-- The encoder's octets are fewer than any others that are decoded to the same entities. -/
theorem eq_or_length_lt_of_groups (groups : List Spelled) :
    groups.flatMap Spelled.octets = (groups.map Spelled.dgi).flatMap Dgi.octets ∨
      ((groups.map Spelled.dgi).flatMap Dgi.octets).length <
        (groups.flatMap Spelled.octets).length := by
  by_cases short : ∀ group ∈ groups, group.overlong = false
  · exact .inl (flatMap_spelled_eq_iff.mpr short).symm
  · have some : 0 < groups.countP Spelled.overlong := by
      rw [List.countP_pos_iff]
      simpa using short
    rw [length_flatMap_spelled]
    exact .inr (by omega)

/-- Entities that were decoded are encoded again, and decoded from there to the same. The octets are
fewer by two for each entity whose length took three octets and is below 255, and no others that are
decoded to these entities are as few. -/
theorem length_encode_of_decode (decoded : decode octets = .ok entities) :
    ∃ encoded, encode entities = .ok encoded ∧ decode encoded = .ok entities ∧
      (∃ groups : List Spelled,
        (groups.flatMap Spelled.octets = octets ∧ groups.map Spelled.dgi = entities) ∧
        (∀ other : List Spelled, other.flatMap Spelled.octets = octets → other = groups) ∧
        octets.length = encoded.length + 2 * groups.countP Spelled.overlong ∧
        (encoded = octets ↔ ∀ group ∈ groups, group.overlong = false)) ∧
      ∀ other, decode other = .ok entities →
        other = encoded ∨ encoded.length < other.length := by
  obtain ⟨groups, rfl, rfl⟩ := decode_eq_ok_iff_groups.mp decoded
  have encoded := encode_groups groups
  refine ⟨_, encoded, ?_, ⟨groups, ⟨rfl, rfl⟩, ?_, length_flatMap_spelled groups,
    flatMap_spelled_eq_iff⟩, ?_⟩
  · exact decode_eq_ok.mpr (leading_flatMap_octets (encode_eq_ok.mp encoded).1)
  · intro other same
    exact (division_unique remnant_nil remnant_nil (by rw [same])).1
  · intro other decoded'
    obtain ⟨groups', rfl, same⟩ := decode_eq_ok_iff_groups.mp decoded'
    rw [← same]
    exact eq_or_length_lt_of_groups groups'

def overlongSample : List Spelled := [
  ⟨⟨0xE1A1, []⟩, false, by decide⟩,
  ⟨⟨0xE1A2, [0x55]⟩, true, by decide⟩,
  ⟨⟨0xE1A3, []⟩, false, by decide⟩]

theorem length_encode_overlongSample :
    decode [0xE1, 0xA1, 0x00, 0xE1, 0xA2, 0xFF, 0x00, 0x01, 0x55, 0xE1, 0xA3, 0x00] =
        .ok (overlongSample.map Spelled.dgi) ∧
      ∃ encoded, encode (overlongSample.map Spelled.dgi) = .ok encoded ∧
        decode encoded = .ok (overlongSample.map Spelled.dgi) ∧
        overlongSample.countP Spelled.overlong = 1 ∧ 12 = encoded.length + 2 * 1 := by
  have decoded : decode [0xE1, 0xA1, 0x00, 0xE1, 0xA2, 0xFF, 0x00, 0x01, 0x55, 0xE1, 0xA3, 0x00] =
      .ok (overlongSample.map Spelled.dgi) :=
    decode_eq_ok_iff_groups.mpr ⟨overlongSample, rfl, rfl⟩
  obtain ⟨encoded, made, back, ⟨groups, _, unique, length, _⟩, _⟩ :=
    length_encode_of_decode decoded
  obtain rfl := unique overlongSample rfl
  exact ⟨decoded, encoded, made, back, rfl, length⟩

end BridgeTag.Dgi
