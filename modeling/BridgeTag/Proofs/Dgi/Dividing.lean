import BridgeTag.Proofs.Dgi.RoundTrip

/-! Octets divided into the entities that stand at their front, each as it is spelled there, and a
tail that no entity starts. There is one such division of any octets, and the decoder's result can be
told from it. -/
namespace BridgeTag.Dgi

/-- A data group as it stands in an octet string, its length in one octet or in three. -/
@[ext]
structure Spelled where
  dgi : Dgi
  long : Bool
  fits : dgi.value.length ≤ lengthLimit long

namespace Spelled

def octets (group : Spelled) : Octets := group.dgi.spelling group.long

theorem length_octets (group : Spelled) : group.octets.length =
    2 + (if group.long then 3 else 1) + group.dgi.value.length := length_spelling _ _

theorem octets_ne_nil (group : Spelled) : group.octets ≠ [] := spelling_ne_nil _ _

theorem read_octets (group : Spelled) (rest : Octets) :
    read (Reader.ofOctets (group.octets ++ rest)) =
      (some group.dgi, ⟨group.octets.length, rest⟩) := by
  have read := read_spelling group.fits 0 rest
  rwa [Nat.zero_add] at read

end Spelled

/-- What is left behind the last entity: no entity stands at its front. -/
def Remnant (tail : Octets) : Prop := ∀ group : Spelled, ¬group.octets <+: tail

/-- The entities at the front of some octets, and what is left behind them. -/
structure Division (octets : Octets) where
  groups : List Spelled
  tail : Octets
  whole : groups.flatMap Spelled.octets ++ tail = octets
  remnant : Remnant tail

variable {octets tail tail' : Octets} {entities : List Dgi} {groups groups' : List Spelled}

theorem remnant_nil : Remnant [] := fun group front =>
  group.octets_ne_nil (List.prefix_nil.mp front)

theorem remnant_iff_unread : Remnant tail ↔ (read (Reader.ofOctets tail)).1 = none := by
  constructor
  · intro remnant
    cases found : read (Reader.ofOctets tail) with
    | mk value after =>
      cases value with
      | none => rfl
      | some dgi =>
        obtain ⟨long, fits, spelled, _⟩ := read_eq_some.mp found
        exact absurd ⟨after.rest, spelled.symm⟩ (remnant ⟨dgi, long, fits⟩)
  · intro unread group front
    obtain ⟨rest, rfl⟩ := front
    rw [group.read_octets] at unread
    cases unread

/-- What can be read from the front is read in one way only. -/
theorem division_unique (remnant : Remnant tail) (remnant' : Remnant tail')
    (same : groups.flatMap Spelled.octets ++ tail = groups'.flatMap Spelled.octets ++ tail') :
    groups = groups' ∧ tail = tail' := by
  induction groups generalizing groups' with
  | nil =>
    cases groups' with
    | nil => exact ⟨rfl, same⟩
    | cons group' later' =>
      rw [List.flatMap_cons, List.append_assoc] at same
      exact absurd ⟨_, same.symm⟩ (remnant group')
  | cons group later ih =>
    rw [List.flatMap_cons, List.append_assoc] at same
    cases groups' with
    | nil => exact absurd ⟨_, same⟩ (remnant' group)
    | cons group' later' =>
      rw [List.flatMap_cons, List.append_assoc] at same
      have read := group.read_octets (later.flatMap Spelled.octets ++ tail)
      rw [same, group'.read_octets] at read
      simp only [Prod.mk.injEq, Option.some.injEq, Reader.mk.injEq] at read
      obtain ⟨dgi, length, rest⟩ := read
      rw [group'.length_octets, group.length_octets, dgi] at length
      have long : group.long = group'.long := by
        cases short : group.long <;> cases short' : group'.long <;> simp [short, short'] at length ⊢
      obtain ⟨rfl, rfl⟩ := ih rest.symm
      exact ⟨congrArg (· :: later) (Spelled.ext dgi.symm long), rfl⟩

theorem Division.unique (left right : Division octets) : left = right := by
  obtain ⟨groups, tail, whole, remnant⟩ := left
  obtain ⟨groups', tail', whole', remnant'⟩ := right
  obtain ⟨rfl, rfl⟩ := division_unique remnant remnant' (whole.trans whole'.symm)
  rfl

theorem Leading.exists_division (leading : Leading octets entities tail) :
    ∃ division : Division octets, division.groups.map Spelled.dgi = entities ∧
      division.tail = tail := by
  induction leading with
  | nothing => exact ⟨⟨[], [], rfl, remnant_nil⟩, rfl, rfl⟩
  | @torn tail _ unread => exact ⟨⟨[], tail, rfl, remnant_iff_unread.mpr (unread 0)⟩, rfl, rfl⟩
  | @entity dgi long rest tail entities fits later ih =>
    obtain ⟨⟨groups, _, whole, remnant⟩, rfl, rfl⟩ := ih
    refine ⟨⟨⟨dgi, long, fits⟩ :: groups, _, ?_, remnant⟩, rfl, rfl⟩
    rw [List.flatMap_cons, List.append_assoc, whole]
    rfl

theorem leading_of_remnant (remnant : Remnant tail) (groups : List Spelled) :
    Leading (groups.flatMap Spelled.octets ++ tail) (groups.map Spelled.dgi) tail := by
  induction groups with
  | nil =>
    by_cases nothing : tail = []
    · subst nothing
      exact .nothing
    · exact .torn nothing (read_position (remnant_iff_unread.mp remnant))
  | cons group groups ih =>
    rw [List.flatMap_cons, List.append_assoc]
    exact .entity group.fits ih

theorem Division.leading (division : Division octets) :
    Leading octets (division.groups.map Spelled.dgi) division.tail := by
  have leading := leading_of_remnant division.remnant division.groups
  rwa [division.whole] at leading

theorem exists_division (octets : Octets) : ∃ division : Division octets,
    ∀ other : Division octets, other = division := by
  obtain ⟨_, _, leading⟩ := exists_leading octets
  obtain ⟨division, _⟩ := leading.exists_division
  exact ⟨division, fun other => other.unique division⟩

end BridgeTag.Dgi
