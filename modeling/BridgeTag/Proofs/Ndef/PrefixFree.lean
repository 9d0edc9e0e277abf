import BridgeTag.Proofs.Ndef.RoundTrip

/-! Messages that stop too early or go on too long. A run of the decoder takes exactly the octets
it needs, so no message is a beginning of another one. -/
namespace BridgeTag.Ndef.Message

variable {registry : Registry} {records : List Record} {octets part missing : Octets} {begins : Bool}

/-- A message that lacks its last octets stops inside a frame or before the next one. -/
theorem unchain_cut (chained : Chained registry begins octets records)
    (cut : octets = part ++ missing) (nonempty : missing ≠ []) (done : List Record) :
    ∃ failure, unchain registry begins part done = .error failure ∧
      failure.reason = .invalidMessage := by
  induction chained generalizing part done with
  | last fits opened ends =>
    exact unchain_unread _ _ _ (Frame.read_cut_spelling fits nonempty cut 0)
  | @more header frame record rest records fits opened ends later ih =>
    -- the cut leaves the first frame whole or goes through it, its end counting as the latter
    rcases List.append_eq_append_iff.mp cut with ⟨further, rfl, left⟩ | ⟨inside, left, rfl⟩
    · rw [unchain_more fits opened ends]
      exact ih left _
    · by_cases boundary : inside = []
      · subst boundary
        rw [List.append_nil] at left
        have step : unchain registry header.begins (frame.spelling header ++ []) done = _ :=
          unchain_more fits opened ends []
        rw [List.append_nil, left] at step
        exact ⟨_, step.trans unchain_nil, rfl⟩
      · exact unchain_unread _ _ _ (Frame.read_cut_spelling fits boundary left 0)

theorem unchain_append (chained : Chained registry begins octets records)
    (nonempty : missing ≠ []) (done : List Record) :
    unchain registry begins (octets ++ missing) done =
      .error ⟨.message, "decode", .invalidMessage⟩ := by
  induction chained generalizing done with
  | last fits opened ends =>
    rw [unchain_spelling _ _ _ fits, opened]
    simp [ends, nonempty]
  | more fits opened ends later ih =>
    rw [List.append_assoc, unchain_more fits opened ends, ih]

/-- Under the built-in registry every accepted octet string starts a run of the decoder, the
message without records being its one void frame. -/
theorem chained_of_decode (accepted : decode .builtIn octets = .ok records) :
    ∃ run, Chained .builtIn true octets run := by
  rcases decode_eq_ok.mp accepted with ⟨rfl, _⟩ | ⟨_, chained⟩
  · exact ⟨[Record.void], .last (fits_void true true) Frame.record_void rfl⟩
  · exact ⟨records, chained⟩

/-- No message is a beginning of another: cut short anywhere, or continued by anything, it is no
message, and the reason is the same. -/
theorem decode_prefix_free (accepted : decode .builtIn octets = .ok records) :
    (∀ part, part <+: octets → part ≠ octets → ∃ failure,
      decode .builtIn part = .error failure ∧ failure.reason = .invalidMessage) ∧
    ∀ suffix, suffix ≠ [] → ∃ failure,
      decode .builtIn (octets ++ suffix) = .error failure ∧ failure.reason = .invalidMessage := by
  obtain ⟨run, chained⟩ := chained_of_decode accepted
  constructor
  · intro part leading strict
    obtain ⟨missing, rfl⟩ := leading
    have nonempty : missing ≠ [] := by
      intro nothing
      subst nothing
      exact strict (by rw [List.append_nil])
    have differ : part ≠ empty := by
      intro same
      subst same
      exact nonempty (chained_empty chained).1
    rw [decode, if_neg differ]
    exact unchain_cut chained rfl nonempty []
  · intro suffix nonempty
    have differ : octets ++ suffix ≠ empty := by
      intro same
      have long := length_of_chained chained
      have total := congrArg List.length same
      rw [List.length_append] at total
      have : suffix.length ≠ 0 := fun zero => nonempty (List.eq_nil_of_length_eq_zero zero)
      simp only [empty, List.length_cons, List.length_nil] at total
      omega
    rw [decode, if_neg differ]
    exact ⟨_, unchain_append chained nonempty [], rfl⟩

/-- Cut in the middle of the message inside the first record, or followed by one octet. -/
theorem decode_handoverOctets_cut : decode .builtIn handoverOctets = .ok handoverSample ∧
    (∃ failure, decode .builtIn (handoverOctets.take 10) = .error failure ∧
      failure.reason = .invalidMessage) ∧
    ∃ failure, decode .builtIn (handoverOctets ++ [0x00]) = .error failure ∧
      failure.reason = .invalidMessage := by
  obtain ⟨cut, continued⟩ := decode_prefix_free decode_handoverOctets
  exact ⟨decode_handoverOctets, cut _ (List.take_prefix 10 handoverOctets) (by decide),
    continued _ (by decide)⟩

end BridgeTag.Ndef.Message
