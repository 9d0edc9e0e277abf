import BridgeTag.Proofs.Dgi.RoundTrip
import Mathlib.Data.List.Infix

/-! Octet strings of data groups one after the other, and cut short. Where the first decodes, the
second is decoded as it would be alone; so an encoded list that was cut short decodes exactly when
the cut is between two entities. -/
namespace BridgeTag.Dgi

variable {front rest part tail : Octets} {found more entities : List Dgi}

theorem Leading.append (first : Leading front found []) (second : Leading rest more tail) :
    Leading (front ++ rest) (found ++ more) tail := by
  generalize whole : ([] : Octets) = left at first
  induction first with
  | nothing => exact second
  | torn nonempty unread => exact absurd whole.symm nonempty
  | entity fits later ih =>
    rw [List.append_assoc]
    exact .entity fits (ih whole)

/-- Behind octets that decode, decoding goes on as if it began there. -/
theorem decode_append (decoded : decode front = .ok found) (rest : Octets) :
    decode (front ++ rest) = (found ++ ·) <$> decode rest := by
  obtain ⟨more, tail, leading⟩ := exists_leading rest
  rw [decode_of_leading leading, decode_of_leading (.append (decode_eq_ok.mp decoded) leading)]
  split <;> rfl

/-- A cut leaves the entities in front of it whole, and of the entity it goes through a part that
is read as none. -/
theorem leading_cut (fits : ∀ dgi ∈ entities, dgi.value.length ≤ 65535)
    (cut : part <+: entities.flatMap Dgi.octets) :
    ∃ before tail, Leading part before tail ∧ before <+: entities ∧
      part = before.flatMap Dgi.octets ++ tail := by
  induction entities generalizing part with
  | nil =>
    obtain rfl := List.prefix_nil.mp cut
    exact ⟨[], [], .nothing, List.prefix_refl _, rfl⟩
  | cons dgi entities ih =>
    have first := fits_octets (fits dgi List.mem_cons_self)
    rw [List.flatMap_cons] at cut
    have whole := List.prefix_append dgi.octets (entities.flatMap Dgi.octets)
    by_cases reached : dgi.octets.length ≤ part.length
    · obtain ⟨later, rfl⟩ := List.prefix_of_prefix_length_le whole cut reached
      obtain ⟨before, tail, leading, kept, same⟩ :=
        ih (fun other member => fits other (List.mem_cons_of_mem dgi member))
          ((List.prefix_append_right_inj _).mp cut)
      refine ⟨dgi :: before, tail, ?_, (List.prefix_cons_inj dgi).mpr kept, ?_⟩
      · rw [octets_eq_spelling]
        exact .entity first leading
      · rw [List.flatMap_cons, List.append_assoc, ← same]
    · obtain ⟨missing, inside⟩ :=
        List.prefix_of_prefix_length_le cut whole (Nat.le_of_not_le reached)
      by_cases empty : part = []
      · subst empty
        exact ⟨[], [], .nothing, List.nil_prefix, rfl⟩
      · have nonempty : missing ≠ [] := by
          intro nothing
          rw [nothing, List.append_nil] at inside
          exact reached (Nat.le_of_eq (congrArg List.length inside.symm))
        have spelled : dgi.spelling _ = part ++ missing :=
          (octets_eq_spelling dgi).symm.trans inside.symm
        exact ⟨[], part, .torn empty (read_cut_spelling first nonempty spelled),
          List.nil_prefix, rfl⟩

theorem decode_cut_eq_ok (fits : ∀ dgi ∈ entities, dgi.value.length ≤ 65535)
    (cut : part <+: entities.flatMap Dgi.octets) : decode part = .ok found ↔
      found <+: entities ∧ part.length = (found.map encodedSize).sum := by
  constructor
  · intro decoded
    obtain ⟨before, tail, leading, kept, same⟩ := leading_cut fits cut
    rw [decode_of_leading leading] at decoded
    split at decoded
    next whole =>
      cases decoded
      rw [whole, List.append_nil] at same
      exact ⟨kept, same ▸ length_flatMap_octets _⟩
    next => cases decoded
  · intro boundary
    obtain ⟨kept, length⟩ := boundary
    rw [← length_flatMap_octets] at length
    have same : part = found.flatMap Dgi.octets :=
      (List.prefix_of_prefix_length_le cut (kept.flatMap _) (Nat.le_of_eq length)).eq_of_length
        length
    rw [same, decode_eq_ok]
    exact leading_flatMap_octets fun dgi member => fits dgi (kept.subset member)

/-- Decoding fails for one reason only. -/
theorem decode_eq_error {octets : Octets} {failure : Failure} :
    decode octets = .error failure ↔
      failure = ⟨.dgi, "decode", .malformedDgi⟩ ∧ ∀ found, decode octets ≠ .ok found := by
  obtain ⟨entities, tail, leading⟩ := exists_leading octets
  rw [decode_of_leading leading]
  split <;> simp [eq_comm]

/-- Octets that decode can be followed by any others: these are decoded, or refused, as if they
stood alone. A beginning of an encoded list decodes exactly if it ends between two entities, to the
entities in front of its end; cut anywhere else, it is refused as malformed. -/
theorem decode_concatenation_and_cut :
    (∀ front found, decode front = .ok found → ∀ rest,
      decode (front ++ rest) = (found ++ ·) <$> decode rest) ∧
    ∀ entities octets, encode entities = .ok octets → ∀ part, part <+: octets →
      (∀ found, decode part = .ok found ↔
        found <+: entities ∧ part.length = (found.map encodedSize).sum) ∧
      ∀ failure, decode part = .error failure ↔
        failure = ⟨.dgi, "decode", .malformedDgi⟩ ∧
          ¬∃ before, before <+: entities ∧ part.length = (before.map encodedSize).sum := by
  constructor
  · intro front found decoded rest
    exact decode_append decoded rest
  · intro entities octets encoded part cut
    obtain ⟨fits, rfl⟩ := encode_eq_ok.mp encoded
    have boundary : ∀ found, decode part = .ok found ↔
        found <+: entities ∧ part.length = (found.map encodedSize).sum :=
      fun _ => decode_cut_eq_ok fits cut
    refine ⟨boundary, ?_⟩
    intro failure
    rw [decode_eq_error, not_exists]
    exact and_congr_right' (forall_congr' fun found => not_congr (boundary found))

def pairSample : List Dgi := [⟨ndefFile, [0xD0, 0x00, 0x00]⟩, ⟨finalize, []⟩]

def pairOctets : Octets := [0xE1, 0x04, 0x03, 0xD0, 0x00, 0x00, 0xBF, 0x63, 0x00]

/-- Cut between the two, cut inside the second, and once more behind the cut between them. -/
theorem decode_pairOctets : encode pairSample = .ok pairOctets ∧
    decode (pairOctets.take 6) = .ok (pairSample.take 1) ∧
    decode (pairOctets.take 8) = .error ⟨.dgi, "decode", .malformedDgi⟩ ∧
    decode (pairOctets.take 6 ++ pairOctets) = .ok (pairSample.take 1 ++ pairSample) := by
  have encoded : encode pairSample = .ok pairOctets := rfl
  obtain ⟨append, cut⟩ := decode_concatenation_and_cut
  have whole : decode pairOctets = .ok pairSample :=
    ((cut _ _ encoded pairOctets (List.prefix_refl _)).1 _).mpr ⟨List.prefix_refl _, rfl⟩
  have first : decode (pairOctets.take 6) = .ok (pairSample.take 1) :=
    ((cut _ _ encoded _ (List.take_prefix 6 _)).1 _).mpr ⟨List.take_prefix 1 _, rfl⟩
  have inside : ¬∃ before, before <+: pairSample ∧
      (pairOctets.take 8).length = (before.map encodedSize).sum := by
    rintro ⟨before, kept, size⟩
    simp only [pairSample, ← List.mem_inits, List.inits, List.mem_cons, List.not_mem_nil, or_false,
      List.map_cons, List.map_nil] at kept
    rcases kept with rfl | rfl | rfl <;> cases size
  refine ⟨encoded, first, ?_, ?_⟩
  · exact ((cut _ _ encoded _ (List.take_prefix 8 _)).2 _).mpr ⟨rfl, inside⟩
  · rw [append _ _ first, whole]
    rfl

end BridgeTag.Dgi
