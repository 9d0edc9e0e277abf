import BridgeTag.Apdu.Response

/-! Responses in the octets of an answer: any octets of two or more are one, fewer are none. Reading
from the end and splitting by length come to the same. -/
namespace BridgeTag.Apdu.Response

variable {octets : Octets} {response : Response} {failure : Failure}

theorem split_eq_ok : split octets = .ok response ↔ response.encode = octets := by
  unfold split encode
  rw [List.splitAt_eq]
  constructor
  · intro found
    have joined := List.take_append_drop (octets.length - 2) octets
    split at found
    next data high low parts =>
      cases found
      obtain ⟨front, back⟩ := Prod.mk.inj parts
      rw [Octets.ofU16_toU16, ← joined, front, back]
    next => cases found
  · intro same
    subst same
    rw [List.length_append, Octets.length_ofU16, Nat.add_sub_cancel, List.take_left,
      List.drop_left]
    simp only [Octets.ofU16, Octets.toU16_ofU16]

theorem split_eq_error : split octets = .error failure ↔
    octets.length < 2 ∧ ⟨.apdu, "parse", .invalidResponse⟩ = failure := by
  unfold split
  rw [List.splitAt_eq]
  by_cases few : octets.length < 2
  · have none : octets.length - 2 = 0 := by omega
    rw [none, List.take_zero, List.drop_zero]
    match octets with
    | [] | [_] => simp
  · have two : (octets.drop (octets.length - 2)).length = 2 := by
      rw [List.length_drop]
      omega
    match octets.drop (octets.length - 2), two with
    | [high, low], _ => simp [few]

/-- Reading from the end finds what splitting by length finds. -/
theorem decode_eq_split (octets : Octets) : decode octets = split octets := by
  cases outcome : split octets with
  | ok response =>
    obtain rfl := split_eq_ok.mp outcome
    simp only [decode, encode, Octets.ofU16, List.reverse_append, List.reverse_cons,
      List.reverse_nil, List.nil_append, List.cons_append, List.reverse_reverse, Octets.toU16_ofU16]
  | error failure =>
    obtain ⟨few, rfl⟩ := split_eq_error.mp outcome
    rcases octets with _ | ⟨_, _ | ⟨_, _⟩⟩
    iterate 2 · rfl
    · exact absurd few (by simp)

theorem exists_split_iff : (∃ response, split octets = .ok response) ↔ 2 ≤ octets.length := by
  constructor
  · intro found
    obtain ⟨response, found⟩ := found
    rw [← split_eq_ok.mp found, encode, List.length_append, Octets.length_ofU16]
    exact Nat.le_add_left 2 _
  · intro enough
    cases outcome : split octets with
    | ok response => exact ⟨response, rfl⟩
    | error failure =>
      have few := (split_eq_error.mp outcome).1
      omega

/-- Both ways to read a response come to the same on all octets: to the response that is written so
where there are two or more, and to one failure where there are fewer. Both give every response back
from its octets, and the last two of these are the halves of its status word. -/
theorem decode_split_agree :
    (∀ octets : Octets, decode octets = split octets ∧
      ((∃ response, decode octets = .ok response) ↔ 2 ≤ octets.length) ∧
      (∀ failure, decode octets = .error failure ↔
        octets.length < 2 ∧ ⟨.apdu, "parse", .invalidResponse⟩ = failure) ∧
      ∀ response : Response, decode octets = .ok response ↔ response.encode = octets) ∧
    ∀ response : Response,
      decode response.encode = .ok response ∧ split response.encode = .ok response ∧
      response.encode = response.data ++ [response.sw1, response.sw2] := by
  constructor
  · intro octets
    rw [decode_eq_split]
    exact ⟨rfl, exists_split_iff, fun _ => split_eq_error, fun _ => split_eq_ok⟩
  · intro response
    have back : split response.encode = .ok response := split_eq_ok.mpr rfl
    exact ⟨(decode_eq_split _).trans back, back, rfl⟩

end BridgeTag.Apdu.Response
