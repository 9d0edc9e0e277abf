import BridgeTag.Proofs.Dgi.Dividing

/-! Decoding into a list that has room for a number of entities. The division of the octets tells
which way a call ends: where the entities take up all octets there has to be room for them, and
otherwise it counts which comes first, the end of the room or the octets that are no entity. -/
namespace BridgeTag.Dgi

variable {octets : Octets} {entities : List Dgi} {capacity : Nat}

theorem decodeInto_of_division (division : Division octets) (entities : List Dgi)
    (capacity : Nat) : decodeInto octets entities capacity =
      if exhausts (some capacity) division.groups.length division.tail then
        (.error ⟨.dgi, "decode", .illegalArgument⟩, entities)
      else if division.tail = [] then
        (.ok division.groups.length, entities ++ division.groups.map Spelled.dgi)
      else (.error ⟨.dgi, "decode", .malformedDgi⟩, entities) := by
  have collected := collect_of_leading division.leading (some capacity) [] 0
  rw [List.length_map, List.reverse_nil, List.nil_append] at collected
  rw [decodeInto, Reader.ofOctets, collected]
  by_cases full : exhausts (some capacity) division.groups.length division.tail = true
  · rw [if_pos full, if_pos full]
  · rw [if_neg full, if_neg full]
    by_cases whole : division.tail = []
    · rw [if_pos whole, if_pos whole]
      simp
    · rw [if_neg whole, if_neg whole]

/-- The room is used up where octets are left behind as many entities as it is for. -/
theorem exhausts_division (division : Division octets) :
    exhausts (some capacity) division.groups.length division.tail = true ↔
      capacity ≤ division.groups.length ∧
        ((division.groups.take capacity).flatMap Spelled.octets).length < octets.length := by
  have parts : octets.length = ((division.groups.take capacity).flatMap Spelled.octets).length +
      ((division.groups.drop capacity).flatMap Spelled.octets).length + division.tail.length := by
    rw [← List.length_append, ← List.flatMap_append, List.take_append_drop, ← List.length_append,
      division.whole]
  rw [exhausts_iff, parts, ← List.length_pos_iff]
  rcases Nat.lt_trichotomy capacity division.groups.length with fewer | same | more
  · have next := List.drop_eq_getElem_cons fewer
    have some := List.length_pos_iff.mpr (division.groups[capacity]).octets_ne_nil
    rw [next, List.flatMap_cons, List.length_append]
    omega
  · rw [same, List.drop_length, List.flatMap_nil, List.length_nil]
    omega
  · omega

theorem decodeInto_eq_ok (division : Division octets) {count : Nat} {after : List Dgi} :
    decodeInto octets entities capacity = (.ok count, after) ↔
      (division.tail = [] ∧ division.groups.length ≤ capacity) ∧
        count = division.groups.length ∧ after = entities ++ division.groups.map Spelled.dgi := by
  rw [decodeInto_of_division division]
  split
  next full =>
    simp only [Prod.mk.injEq, reduceCtorEq, false_and, false_iff]
    intro kept
    rcases exhausts_iff.mp full with fewer | ⟨_, torn⟩
    · exact absurd kept.1.2 (Nat.not_le.mpr fewer)
    · exact torn kept.1.1
  next spare =>
    rw [exhausts_iff, not_or, Nat.not_lt] at spare
    split
    next whole => simp [whole, spare.1, eq_comm]
    next torn => simp [torn]

theorem decodeInto_eq_error (division : Division octets) {failure : Failure} {after : List Dgi} :
    decodeInto octets entities capacity = (.error failure, after) ↔ after = entities ∧
      (failure = ⟨.dgi, "decode", .illegalArgument⟩ ∧ capacity ≤ division.groups.length ∧
          ((division.groups.take capacity).flatMap Spelled.octets).length < octets.length ∨
        failure = ⟨.dgi, "decode", .malformedDgi⟩ ∧ division.groups.length < capacity ∧
          division.tail ≠ []) := by
  rw [decodeInto_of_division division, ← exhausts_division division]
  split
  next full =>
    have none : ¬(division.groups.length < capacity ∧ division.tail ≠ []) := by
      have reached := ((exhausts_division division).mp full).1
      omega
    simp [full, none, eq_comm, and_comm]
  next spare =>
    have room := spare
    rw [exhausts_iff, not_or, Nat.not_lt] at room
    split
    next whole =>
      have none : ¬(division.groups.length < capacity ∧ division.tail ≠ []) := fun more =>
        more.2 whole
      simp [spare, none]
    next torn =>
      have more : division.groups.length < capacity := by
        refine Nat.lt_of_le_of_ne room.1 ?_
        intro same
        exact room.2 ⟨same.symm, torn⟩
      simp [spare, torn, more, eq_comm, and_comm]

/-- Decoding into a list counts the entities and appends them if they take up all octets and there is
room for them. It is refused for want of room if there are octets behind as many entities as there is
room for, whatever these octets are; it is refused as malformed if octets that are no entity come
before the end of the room; and the list stays as it was if it is refused. Room for as many entities
as there are octets is no bound. -/
theorem decodeInto_outcome (octets : Octets) (entities : List Dgi) (capacity : Nat) :
    ∃ division : Division octets, (∀ other : Division octets, other = division) ∧
      (∀ count after, decodeInto octets entities capacity = (.ok count, after) ↔
        (division.tail = [] ∧ division.groups.length ≤ capacity) ∧
          count = division.groups.length ∧ after = entities ++ division.groups.map Spelled.dgi) ∧
      (∀ failure after, decodeInto octets entities capacity = (.error failure, after) ↔
        after = entities ∧
          (failure = ⟨.dgi, "decode", .illegalArgument⟩ ∧ capacity ≤ division.groups.length ∧
              ((division.groups.take capacity).flatMap Spelled.octets).length < octets.length ∨
            failure = ⟨.dgi, "decode", .malformedDgi⟩ ∧ division.groups.length < capacity ∧
              division.tail ≠ [])) ∧
      (octets.length ≤ capacity → decodeInto octets entities capacity =
        match decode octets with
        | .ok found => (.ok found.length, entities ++ found)
        | .error failure => (.error failure, entities)) := by
  obtain ⟨division, unique⟩ := exists_division octets
  refine ⟨division, unique, fun _ _ => decodeInto_eq_ok division,
    fun _ _ => decodeInto_eq_error division, ?_⟩
  intro roomy
  rw [decodeInto, collect_roomy (by omega)]
  rfl

/-- An octet that is no entity is not looked at where the room ends in front of it. -/
example : decodeInto [0xA0, 0x01, 0x00, 0xFF] [] 1 =
    (.error ⟨.dgi, "decode", .illegalArgument⟩, []) ∧
    decodeInto [0xA0, 0x01, 0x00, 0xFF] [] 2 =
      (.error ⟨.dgi, "decode", .malformedDgi⟩, []) := by
  constructor <;> cbv

end BridgeTag.Dgi
