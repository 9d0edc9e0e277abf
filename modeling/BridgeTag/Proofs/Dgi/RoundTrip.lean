import BridgeTag.Proofs.Dgi.Framing
import Mathlib.Algebra.GroupWithZero.Nat

/-! Lists of data groups. Any octet string starts with some entities, and behind them is either
nothing or octets that no entity starts; `Leading` is that division, and what the decoder makes of
the octets can be told from it. Encoded lists divide into their entities with nothing behind. -/
namespace BridgeTag.Dgi

/-- The entities at the front of an octet string, and the octets behind the last of them. -/
inductive Leading : Octets → List Dgi → Octets → Prop
  | nothing : Leading [] [] []
  | torn {tail : Octets} (nonempty : tail ≠ [])
      (unread : ∀ position, (read ⟨position, tail⟩).1 = none) : Leading tail [] tail
  | entity {dgi : Dgi} {long : Bool} {rest tail : Octets} {entities : List Dgi}
      (fits : dgi.value.length ≤ lengthLimit long) (later : Leading rest entities tail) :
      Leading (dgi.spelling long ++ rest) (dgi :: entities) tail

/-- Room for fewer entities than there are, or for no more while octets are left. -/
def exhausts (room : Option Nat) (count : Nat) (tail : Octets) : Bool :=
  room.any fun limit => limit < count || (limit == count && !tail.isEmpty)

variable {dgi : Dgi} {long : Bool} {room : Option Nat} {done entities : List Dgi}
  {octets rest tail : Octets} {position : Nat} {reader : Reader}

theorem exhausts_iff {limit count : Nat} : exhausts (some limit) count tail = true ↔
    limit < count ∨ limit = count ∧ tail ≠ [] := by
  simp [exhausts]

theorem collect_end (room : Option Nat) (done : List Dgi) (position : Nat) :
    collect room done ⟨position, []⟩ = .ok done.reverse := by
  rw [collect]
  rfl

theorem collect_full (nonempty : reader.rest ≠ []) :
    collect (some 0) done reader = .error ⟨.dgi, "decode", .illegalArgument⟩ := by
  rw [collect]
  simp [nonempty]

theorem collect_spelling (space : room ≠ some 0) (fits : dgi.value.length ≤ lengthLimit long)
    (done : List Dgi) (position : Nat) (rest : Octets) :
    collect room done ⟨position, dgi.spelling long ++ rest⟩ =
      collect (room.map (· - 1)) (dgi :: done)
        ⟨position + (dgi.spelling long).length, rest⟩ := by
  have nonempty : (dgi.spelling long ++ rest).isEmpty = false := by simp [spelling_ne_nil]
  rw [collect]
  simp only [nonempty, Bool.false_eq_true, if_false, if_neg space]
  split
  next read =>
    rw [read_spelling fits] at read
    cases read
    rfl
  next read =>
    rw [read_spelling fits] at read
    cases read

theorem collect_unread (space : room ≠ some 0) (nonempty : reader.rest ≠ [])
    (unread : (read reader).1 = none) :
    collect room done reader = .error ⟨.dgi, "decode", .malformedDgi⟩ := by
  have left : reader.rest.isEmpty = false := by simpa using nonempty
  rw [collect]
  simp only [left, Bool.false_eq_true, if_false, if_neg space]
  split
  next read =>
    rw [read] at unread
    cases unread
  next => rfl

/-- Reading does not depend on how much was read before. -/
theorem read_position (unread : (read ⟨position, octets⟩).1 = none) (position' : Nat) :
    (read ⟨position', octets⟩).1 = none := by
  cases found : read ⟨position', octets⟩ with
  | mk value after =>
    cases value with
    | none => rfl
    | some dgi =>
      obtain ⟨long, fits, spelled, _⟩ := read_eq_some.mp found
      have spelled : octets = dgi.spelling long ++ after.rest := spelled
      rw [spelled, read_spelling fits] at unread
      cases unread

theorem exists_leading (octets : Octets) : ∃ entities tail, Leading octets entities tail := by
  induction length : octets.length using Nat.strongRecOn generalizing octets with
  | _ size ih =>
    by_cases empty : octets = []
    · subst empty
      exact ⟨[], [], .nothing⟩
    · cases found : read ⟨0, octets⟩ with
      | mk value after =>
        cases value with
        | none => exact ⟨[], octets, .torn empty (read_position (by rw [found]))⟩
        | some dgi =>
          have shorter : after.rest.length < octets.length := read_shrinks found
          obtain ⟨long, fits, spelled, _⟩ := read_eq_some.mp found
          have spelled : octets = dgi.spelling long ++ after.rest := spelled
          obtain ⟨entities, tail, later⟩ := ih _ (length ▸ shorter) after.rest rfl
          exact ⟨dgi :: entities, tail, spelled ▸ .entity fits later⟩

/-- What the decoder makes of an octet string: too little room goes before octets that are no
entity, and these go before the entities. -/
theorem collect_of_leading (leading : Leading octets entities tail) (room : Option Nat)
    (done : List Dgi) (position : Nat) : collect room done ⟨position, octets⟩ =
      if exhausts room entities.length tail then .error ⟨.dgi, "decode", .illegalArgument⟩
      else if tail = [] then .ok (done.reverse ++ entities)
      else .error ⟨.dgi, "decode", .malformedDgi⟩ := by
  induction leading generalizing room done position with
  | nothing =>
    rw [collect_end]
    cases room <;> simp [exhausts]
  | @torn tail nonempty unread =>
    by_cases full : room = some 0
    · subst full
      rw [collect_full nonempty]
      simp [exhausts, nonempty]
    · rw [collect_unread full nonempty (unread position)]
      cases room with
      | none => simp [exhausts, nonempty]
      | some limit =>
        have space : limit ≠ 0 := by simpa using full
        simp [exhausts, nonempty, space]
  | @entity dgi long rest tail entities fits later ih =>
    by_cases full : room = some 0
    · subst full
      rw [collect_full (by simp [spelling_ne_nil])]
      simp [exhausts]
    · rw [collect_spelling full fits, ih]
      have same : exhausts (room.map (· - 1)) entities.length tail =
          exhausts room (dgi :: entities).length tail := by
        cases room with
        | none => rfl
        | some limit =>
          have space : limit ≠ 0 := by simpa using full
          obtain ⟨limit, rfl⟩ := Nat.exists_eq_succ_of_ne_zero space
          simp [exhausts]
      rw [same]
      simp

theorem length_of_leading (leading : Leading octets entities tail) :
    3 * entities.length + tail.length ≤ octets.length := by
  induction leading with
  | nothing => exact Nat.le_refl _
  | torn => exact Nat.le_of_eq (Nat.zero_add _)
  | @entity dgi long _ _ _ _ _ ih =>
    have three := three_le_length_spelling dgi long
    simp only [List.length_cons, List.length_append]
    omega

/-- Room for all the entities that the octets could hold is no bound. -/
theorem collect_roomy {capacity : Nat} (room : octets.length ≤ 3 * capacity) :
    collect (some capacity) [] (Reader.ofOctets octets) = collect none [] (Reader.ofOctets octets) := by
  obtain ⟨entities, tail, leading⟩ := exists_leading octets
  have size := length_of_leading leading
  have spare : ¬exhausts (some capacity) entities.length tail = true := by
    rw [exhausts_iff, ← List.length_pos_iff]
    omega
  rw [Reader.ofOctets, collect_of_leading leading, collect_of_leading leading, if_neg spare]
  rfl

theorem decode_of_leading (leading : Leading octets entities tail) : decode octets =
    if tail = [] then .ok entities else .error ⟨.dgi, "decode", .malformedDgi⟩ :=
  collect_of_leading leading none [] 0

theorem decode_eq_ok : decode octets = .ok entities ↔ Leading octets entities [] := by
  obtain ⟨found, tail, leading⟩ := exists_leading octets
  constructor
  · intro decoded
    rw [decode_of_leading leading] at decoded
    split at decoded
    next whole =>
      cases decoded
      exact whole ▸ leading
    next => cases decoded
  · intro whole
    exact decode_of_leading whole

theorem length_flatMap_octets (entities : List Dgi) :
    (entities.flatMap Dgi.octets).length = (entities.map encodedSize).sum := by
  rw [List.length_flatMap, List.map_congr_left fun dgi _ => length_octets dgi]

theorem leading_flatMap_octets (fits : ∀ dgi ∈ entities, dgi.value.length ≤ 65535) :
    Leading (entities.flatMap Dgi.octets) entities [] := by
  induction entities with
  | nil => exact .nothing
  | cons dgi entities ih =>
    rw [List.flatMap_cons, octets_eq_spelling]
    refine .entity (fits_octets (fits dgi List.mem_cons_self)) (ih ?_)
    intro other member
    exact fits other (List.mem_cons_of_mem dgi member)

/-- Encoding fails only for a value that no length field can count, and then says so. Otherwise the
octets are as many as the sizes of the entities announce, and decoding gives the entities back. -/
theorem decode_encode_entities (entities : List Dgi) :
    (∀ failure, encode entities = .error failure ↔
      failure = ⟨.dgi, "encode", .illegalArgument⟩ ∧
        ∃ dgi ∈ entities, 65535 < dgi.value.length) ∧
    ((∀ dgi ∈ entities, dgi.value.length ≤ 65535) →
      ∃ octets, encode entities = .ok octets ∧
        octets.length = (entities.map encodedSize).sum ∧ decode octets = .ok entities) := by
  constructor
  · intro failure
    exact encode_eq_error
  · intro fits
    exact ⟨_, encode_eq_ok.mpr ⟨fits, rfl⟩, length_flatMap_octets entities,
      decode_eq_ok.mpr (leading_flatMap_octets fits)⟩

end BridgeTag.Dgi
