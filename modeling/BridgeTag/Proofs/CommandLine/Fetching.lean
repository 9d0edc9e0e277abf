import BridgeTag.Proofs.CommandLine.Job

/-! The loop that fetches the NDEF message, whatever the card answers. `Fetched` is its run, with
one constructor for each way on and each way out. The offset stays where the octets received so far
end, and from this follows all that is to be known of the sixteen-bit words in the loop. -/
namespace BridgeTag.CommandLine

open Applet Ndef

/-- One read of the loop: what it asks for, and how the card answers. -/
structure Fetch where
  offset : UInt16
  count : UInt16
  frame : Octets
  answer : Answer
  framed : (Request.instruction (.readBinary offset count)).octets = .ok frame

namespace Fetch

def order (fetch : Fetch) : Instruction := .readBinary fetch.offset fetch.count

def outcome (fetch : Fetch) : Except Fault Octets := taken Ins.readBinary fetch.answer

def data (fetch : Fetch) : Octets :=
  match fetch.outcome with
  | .ok octets => octets
  | .error _ => []

/-- The loop makes this fetch when it has `received` octets and stands at `offset`. -/
structure Made (card : Card) (earlier : List Octets) (length offset : UInt16) (received : Octets)
    (fetch : Fetch) : Prop where
  missing : received.length < length.toNat
  offset_eq : fetch.offset = offset
  count_eq : fetch.count = min (length - UInt16.ofNat received.length) chunk
  answer_eq : fetch.answer = card.answer earlier fetch.frame

/-- The loop goes on behind this fetch: it brought octets, and a word can hold the next offset. -/
structure Advances (fetch : Fetch) : Prop where
  success : fetch.answer = .ok (fetch.data ++ [0x90, 0x00])
  nonempty : fetch.data ≠ []
  near : fetch.offset.toNat + fetch.data.length ≤ 65535

inductive Ends (fetch : Fetch) (received : Octets) : Except Fault Octets → Prop
  | failed {fault : Fault} (refused : fetch.outcome = .error fault) :
      Ends fetch received (.error fault)
  | nothing (success : fetch.answer = .ok [0x90, 0x00]) : Ends fetch received (.ok received)
  | beyond (success : fetch.answer = .ok (fetch.data ++ [0x90, 0x00]))
      (far : 65535 < fetch.offset.toNat + fetch.data.length) :
      Ends fetch received (.error .fileTooLarge)

end Fetch

/-- The run of the loop from an offset, with `received` octets so far. -/
inductive Fetched (card : Card) (length : UInt16) :
    List Octets → UInt16 → Octets → List Fetch → Except Fault Octets → Prop
  | enough {earlier : List Octets} {offset : UInt16} {received : Octets}
      (reached : length.toNat ≤ received.length) :
      Fetched card length earlier offset received [] (.ok received)
  | last {earlier : List Octets} {offset : UInt16} {received : Octets} {fetch : Fetch}
      {result : Except Fault Octets} (made : fetch.Made card earlier length offset received)
      (ends : fetch.Ends received result) :
      Fetched card length earlier offset received [fetch] result
  | more {earlier : List Octets} {offset : UInt16} {received : Octets} {fetch : Fetch}
      {fetches : List Fetch} {result : Except Fault Octets}
      (made : fetch.Made card earlier length offset received) (advances : fetch.Advances)
      (later : Fetched card length (fetch.frame :: earlier)
        (fetch.offset + UInt16.ofNat fetch.data.length) (received ++ fetch.data) fetches result) :
      Fetched card length earlier offset received (fetch :: fetches) result

variable {card : Card} {earlier : List Octets} {length offset : UInt16} {received : Octets}
  {fetch : Fetch} {fetches : List Fetch} {result : Except Fault Octets}

theorem Fetch.data_of_outcome {data : Octets} (brought : fetch.outcome = .ok data) :
    fetch.data = data := by
  unfold Fetch.data
  rw [brought]

/-! No word of the loop wraps: fewer octets than a word can count are there, so that their number
is cast and taken away as it is. -/

theorem toNat_received (missing : received.length < length.toNat) :
    (UInt16.ofNat received.length).toNat = received.length :=
  UInt16.toNat_ofNat_of_lt' (Nat.lt_trans missing length.toNat_lt)

theorem toNat_missing (missing : received.length < length.toNat) :
    (length - UInt16.ofNat received.length).toNat = length.toNat - received.length := by
  have cast := toNat_received missing
  have fewer : UInt16.ofNat received.length ≤ length := by
    rw [UInt16.le_iff_toNat_le, cast]
    omega
  rw [UInt16.toNat_sub_of_le _ _ fewer, cast]

theorem toNat_min (a b : UInt16) : (min a b).toNat = min a.toNat b.toNat := by
  show (if a ≤ b then a else b).toNat = _
  split
  next le => rw [Nat.min_eq_left (UInt16.le_iff_toNat_le.mp le)]
  next gt =>
    rw [UInt16.le_iff_toNat_le] at gt
    rw [Nat.min_eq_right (by omega)]

theorem toNat_asked (missing : received.length < length.toNat) :
    (min (length - UInt16.ofNat received.length) chunk).toNat =
      min (length.toNat - received.length) 255 := by
  rw [toNat_min, toNat_missing missing]
  rfl

theorem exists_made (card : Card) (earlier : List Octets) (offset : UInt16)
    (missing : received.length < length.toNat) :
    ∃ fetch : Fetch, fetch.Made card earlier length offset received := by
  have asked := toNat_asked missing
  have nonzero : min (length - UInt16.ofNat received.length) chunk ≠ 0 := by
    intro zero
    rw [zero] at asked
    simp at asked
    omega
  have few : min (length - UInt16.ofNat received.length) chunk ≤ 256 := by
    rw [UInt16.le_iff_toNat_le, asked]
    exact Nat.le_trans (Nat.min_le_right _ _) (by decide)
  obtain ⟨frame, framed⟩ := Instruction.exists_frame_readBinary offset nonzero few
  exact ⟨⟨_, _, frame, card.answer earlier frame, framed⟩, missing, rfl, rfl, rfl⟩

theorem readUpTo_enough (reached : length.toNat ≤ received.length) (offset : UInt16) :
    readUpTo length offset received = pure received := by
  rw [readUpTo, dif_neg (Nat.not_lt.mpr reached)]

theorem readUpTo_missing (missing : received.length < length.toNat) (offset : UInt16) :
    readUpTo length offset received = (do
      let data ← perform Ins.readBinary
        (.readBinary offset (min (length - UInt16.ofNat received.length) chunk))
      if data = [] then return received
      else
        let next ← advance offset data.length
        readUpTo length next (received ++ data)) := by
  rw [readUpTo, dif_pos missing]
  rfl

theorem advance_near {count : Nat} (near : offset.toNat + count ≤ 65535) :
    advance offset count = .ok (offset + UInt16.ofNat count) :=
  if_neg (Nat.not_lt.mpr near)

theorem advance_far {count : Nat} (far : 65535 < offset.toNat + count) :
    advance offset count = .error .fileTooLarge :=
  if_pos far

theorem Fetch.Made.run_perform (made : fetch.Made card earlier length offset received) :
    (perform Ins.readBinary (.readBinary offset
        (min (length - UInt16.ofNat received.length) chunk))).run.run card earlier =
      (fetch.outcome, [fetch.frame]) := by
  have ran := CommandLine.run_perform fetch.framed Ins.readBinary card earlier
  rw [made.offset_eq, made.count_eq, ← made.answer_eq] at ran
  exact ran

/-- The loop makes a run, whatever the card answers. -/
theorem exists_fetched (card : Card) (length : UInt16) (earlier : List Octets) (offset : UInt16)
    (received : Octets) : ∃ fetches result,
      Fetched card length earlier offset received fetches result ∧
        (readUpTo length offset received).run.run card earlier =
          (result, fetches.map Fetch.frame) := by
  -- on the number of octets that are missing, which every fetch that brings some makes smaller
  induction size : length.toNat - received.length using Nat.strongRecOn
    generalizing earlier offset received with
  | _ left ih =>
    by_cases reached : length.toNat ≤ received.length
    · rw [readUpTo_enough reached]
      exact ⟨[], .ok received, .enough reached, rfl⟩
    · have missing := Nat.lt_of_not_le reached
      obtain ⟨fetch, made⟩ := exists_made card earlier offset missing
      have asked := made.run_perform
      rw [readUpTo_missing missing]
      cases brought : fetch.outcome with
      | error fault =>
        rw [brought] at asked
        exact ⟨[fetch], .error fault, .last made (.failed brought), run_bind_error asked⟩
      | ok data =>
        have success := taken_eq_ok.mp brought
        rw [brought] at asked
        obtain rfl := Fetch.data_of_outcome brought
        by_cases empty : fetch.data = []
        · rw [empty] at success asked
          exact ⟨[fetch], .ok received, .last made (.nothing success), run_bind_ok asked rfl⟩
        · by_cases far : 65535 < fetch.offset.toNat + fetch.data.length
          · refine ⟨[fetch], .error .fileTooLarge, .last made (.beyond success far),
              run_bind_ok asked ?_⟩
            rw [if_neg empty, ← made.offset_eq, advance_far far]
            rfl
          · have near := Nat.le_of_not_lt far
            have grown := List.length_pos_iff.mpr empty
            have fewer : length.toNat - (received ++ fetch.data).length < left := by
              rw [← size, List.length_append]
              omega
            obtain ⟨fetches, result, later, ran⟩ := ih _ fewer (fetch.frame :: earlier)
              (fetch.offset + UInt16.ofNat fetch.data.length) (received ++ fetch.data) rfl
            refine ⟨fetch :: fetches, result,
              .more made ⟨success, empty, near⟩ later, run_bind_ok asked ?_⟩
            rw [if_neg empty, ← made.offset_eq, advance_near near]
            exact ran

theorem Fetched.answers_frames
    (fetched : Fetched card length earlier offset received fetches result) :
    card.answers earlier (fetches.map Fetch.frame) = fetches.map Fetch.answer := by
  induction fetched with
  | enough reached => rfl
  | last made ends => rw [List.map_singleton, Card.answers, ← made.answer_eq]; rfl
  | more made advances later ih =>
    rw [List.map_cons, Card.answers, ← made.answer_eq, ih, List.map_cons]

structure Fetch.Due (length : UInt16) (received : Octets) (fetch : Fetch) : Prop where
  missing : received.length < length.toNat
  offset : fetch.offset.toNat = 2 + received.length
  count : fetch.count.toNat = min 255 (length.toNat - received.length)
  least : 1 ≤ fetch.count.toNat
  most : fetch.count.toNat ≤ 255
  cast : (UInt16.ofNat received.length).toNat = received.length
  difference : (length - UInt16.ofNat received.length).toNat = length.toNat - received.length

theorem Fetch.Made.due (made : fetch.Made card earlier length offset received)
    (placed : offset.toNat = 2 + received.length) : fetch.Due length received := by
  have count : fetch.count.toNat = min 255 (length.toNat - received.length) := by
    rw [made.count_eq, toNat_asked made.missing, Nat.min_comm]
  have missing := made.missing
  refine ⟨missing, ?_, count, ?_, ?_, toNat_received missing, toNat_missing missing⟩
  · rw [made.offset_eq, placed]
  · rw [count]
    omega
  · rw [count]
    exact Nat.min_le_left _ _

/-- Going on, the loop adds the octets to the offset without wrapping it. -/
theorem Fetch.Advances.toNat_offset (advances : fetch.Advances) :
    (fetch.offset + UInt16.ofNat fetch.data.length).toNat =
      fetch.offset.toNat + fetch.data.length := by
  have near := advances.near
  have cast : (UInt16.ofNat fetch.data.length).toNat = fetch.data.length :=
    UInt16.toNat_ofNat_of_lt' (by show _ < 65536; omega)
  rw [UInt16.toNat_add, cast]
  exact Nat.mod_eq_of_lt (by omega)

/-- The invariant of the loop: a fetch is made where the octets so far end. -/
theorem Fetched.due (fetched : Fetched card length earlier offset received fetches result)
    (placed : offset.toNat = 2 + received.length) {before after : List Fetch}
    (split : fetches = before ++ fetch :: after) :
    fetch.Due length (received ++ before.flatMap Fetch.data) := by
  induction fetched generalizing before with
  | enough reached => simp at split
  | last made ends =>
    cases before with
    | nil =>
      cases split
      rw [List.flatMap_nil, List.append_nil]
      exact made.due placed
    | cons first before => simp at split
  | more made advances later ih =>
    cases before with
    | nil =>
      cases split
      rw [List.flatMap_nil, List.append_nil]
      exact made.due placed
    | cons first before =>
      cases split
      have next := advances.toNat_offset
      rw [made.offset_eq, placed, Nat.add_assoc, ← List.length_append] at next
      rw [List.flatMap_cons, ← List.append_assoc]
      exact ih (made.offset_eq ▸ next) rfl

/-- Every fetch but the last brings an octet of those that are missing. -/
theorem Fetched.length_le (fetched : Fetched card length earlier offset received fetches result) :
    fetches.length ≤ length.toNat - received.length := by
  induction fetched with
  | enough reached => exact Nat.zero_le _
  | last made ends =>
    have missing := made.missing
    rw [List.length_singleton]
    omega
  | more made advances later ih =>
    have missing := made.missing
    have some := List.length_pos_iff.mpr advances.nonempty
    rw [List.length_append] at ih
    rw [List.length_cons]
    omega

theorem Fetch.Ends.eq_of_ok {octets : Octets} (ends : fetch.Ends received (.ok octets)) :
    octets = received ++ fetch.data := by
  cases ends with
  | nothing success =>
    have brought : fetch.outcome = .ok [] := taken_eq_ok.mpr success
    rw [Fetch.data_of_outcome brought, List.append_nil]

/-- The loop does not both stop at a fetch and go on behind it. -/
theorem Fetch.Advances.not_ends (advances : fetch.Advances) : ¬fetch.Ends received result := by
  intro ends
  cases ends with
  | failed refused => exact ne_success_of_taken refused _ advances.success
  | nothing success =>
    rw [advances.success] at success
    exact advances.nonempty (List.append_cancel_right (Except.ok.inj success))
  | beyond success far => exact absurd advances.near (Nat.not_le_of_lt far)

/-- The loop ends with enough octets, or at its last fetch; until then it goes on. -/
theorem Fetched.ends (fetched : Fetched card length earlier offset received fetches result) :
    ((∀ fetch ∈ fetches, fetch.Advances) ∧
      length.toNat ≤ (received ++ fetches.flatMap Fetch.data).length ∧
      result = .ok (received ++ fetches.flatMap Fetch.data)) ∨
    ∃ before last, fetches = before ++ [last] ∧ (∀ fetch ∈ before, fetch.Advances) ∧
      last.Ends (received ++ before.flatMap Fetch.data) result := by
  induction fetched with
  | enough reached =>
    rw [List.flatMap_nil, List.append_nil]
    exact .inl ⟨List.forall_mem_nil _, reached, rfl⟩
  | @last _ _ _ fetch _ made ends =>
    refine .inr ⟨[], fetch, rfl, List.forall_mem_nil _, ?_⟩
    rwa [List.flatMap_nil, List.append_nil]
  | @more _ _ _ fetch _ _ made advances later ih =>
    rw [List.flatMap_cons, ← List.append_assoc]
    rcases ih with ⟨all, enough, same⟩ | ⟨before, last, rfl, all, ends⟩
    · exact .inl ⟨List.forall_mem_cons.mpr ⟨advances, all⟩, enough, same⟩
    · refine .inr ⟨fetch :: before, last, rfl, List.forall_mem_cons.mpr ⟨advances, all⟩, ?_⟩
      rwa [List.flatMap_cons, ← List.append_assoc]

/-- The octets that are handed on are those of all fetches, one after the other. -/
theorem Fetched.octets_eq {octets : Octets}
    (fetched : Fetched card length earlier offset received fetches (.ok octets)) :
    octets = received ++ fetches.flatMap Fetch.data := by
  rcases fetched.ends with ⟨_, _, same⟩ | ⟨before, last, rfl, _, ends⟩
  · exact Except.ok.inj same
  · rw [ends.eq_of_ok, List.flatMap_append, List.flatMap_singleton, List.append_assoc]

/-- What a run of the loop keeps, from its first fetch to the octets it hands on. -/
structure Fetch.Kept (length : UInt16) (fetches : List Fetch) (result : Except Fault Octets) :
    Prop where
  due : ∀ before fetch after, fetches = before ++ fetch :: after →
    fetch.Due length (before.flatMap Fetch.data)
  bounded : fetches.length ≤ length.toNat
  handed : ∀ octets, result = .ok octets → octets = fetches.flatMap Fetch.data
  ends : ((∀ fetch ∈ fetches, fetch.Advances) ∧
      length.toNat ≤ (fetches.flatMap Fetch.data).length ∧
      result = .ok (fetches.flatMap Fetch.data)) ∨
    ∃ before last, fetches = before ++ [last] ∧ (∀ fetch ∈ before, fetch.Advances) ∧
      last.Ends (before.flatMap Fetch.data) result

theorem Fetched.kept (fetched : Fetched card length earlier messageOffset [] fetches result) :
    Fetch.Kept length fetches result where
  due := fun _ _ _ split => fetched.due rfl split
  bounded := fetched.length_le
  handed := by
    intro octets same
    subst same
    exact fetched.octets_eq
  ends := fetched.ends

/-- What is asked of the card before the loop: to select the file, and for its length field. -/
def opening : List Instruction := [.selectFile 0xE104, .readBinary 0 2]

def frameOf (order : Instruction) : Except Failure Octets := (Request.instruction order).octets

theorem exists_opening_frames : ∃ select measure, frameOf (.selectFile 0xE104) = .ok select ∧
    frameOf (.readBinary 0 2) = .ok measure :=
  ⟨_, _, rfl, rfl⟩

theorem map_frameOf_opening {select measure : Octets}
    (selects : frameOf (.selectFile 0xE104) = .ok select)
    (measures : frameOf (.readBinary 0 2) = .ok measure) :
    opening.map frameOf = [.ok select, .ok measure] := by
  rw [opening, List.map_cons, List.map_singleton, selects, measures]

theorem frameOf_orders (fetches : List Fetch) :
    (fetches.map Fetch.order).map frameOf = (fetches.map Fetch.frame).map .ok := by
  rw [List.map_map, List.map_map]
  exact List.map_congr_left fun fetch _ => fetch.framed

theorem run_readNdef {select measure selected field : Octets} {sent : List Octets}
    (selects : frameOf (.selectFile 0xE104) = .ok select)
    (measures : frameOf (.readBinary 0 2) = .ok measure)
    (first : taken Ins.select (card.answer earlier select) = .ok selected)
    (second : taken Ins.readBinary (card.answer (select :: earlier) measure) = .ok field)
    (ran : (readUpTo (messageLength field) messageOffset []).run.run card
      (measure :: select :: earlier) = (result, sent)) :
    readNdef.run.run card earlier = (result.bind decodeMessage, select :: measure :: sent) := by
  have selecting := run_perform selects Ins.select card earlier
  have measuring := run_perform measures Ins.readBinary card (select :: earlier)
  rw [first] at selecting
  rw [second] at measuring
  exact run_bind_ok selecting (run_bind_ok measuring (run_bind_lift decodeMessage ran))

/-- Fetching the NDEF message from a card, whatever it answers, runs to the end. Either the card
refuses the file or its length field; or the loop is entered. Then each read of the loop asks where
the octets so far end, for as many as are missing and no more than 255, and no word wraps; each but
the last brings octets; there are no more reads than the length field counts; and what is decoded
are the octets of all reads, one after the other. -/
theorem readNdef_kept (card : Card) (earlier : List Octets) :
    ∃ result frames, readNdef.run.run card earlier = (result, frames) ∧
      ((∃ fault orders answers answer, result = .error fault ∧
          orders <+: opening ∧ frames.map .ok = orders.map frameOf ∧
          card.answers earlier frames = answers ++ [answer] ∧
          ∀ data, answer ≠ .ok (data ++ [0x90, 0x00])) ∨
        ∃ selected field fetches fetched,
          frames.map .ok = (opening ++ fetches.map Fetch.order).map frameOf ∧
          card.answers earlier frames = [.ok (selected ++ [0x90, 0x00]),
            .ok (field ++ [0x90, 0x00])] ++ fetches.map Fetch.answer ∧
          Fetch.Kept (messageLength field) fetches fetched ∧
          result = fetched.bind decodeMessage) := by
  obtain ⟨select, measure, selects, measures⟩ := exists_opening_frames
  have selecting := run_perform selects Ins.select card earlier
  have measuring := run_perform measures Ins.readBinary card (select :: earlier)
  cases first : taken Ins.select (card.answer earlier select) with
  | error fault =>
    rw [first] at selecting
    refine ⟨_, _, run_bind_error selecting,
      .inl ⟨fault, [.selectFile 0xE104], [], _, rfl, ?_, ?_, rfl, ne_success_of_taken first⟩⟩
    · exact List.prefix_append _ [Instruction.readBinary 0 2]
    · rw [List.map_singleton, List.map_singleton, selects]
  | ok selected =>
    rw [first] at selecting
    cases second : taken Ins.readBinary (card.answer (select :: earlier) measure) with
    | error fault =>
      rw [second] at measuring
      refine ⟨_, _, run_bind_ok selecting (run_bind_error measuring),
        .inl ⟨fault, opening, [_], _, rfl, List.prefix_refl _, ?_, rfl,
          ne_success_of_taken second⟩⟩
      rw [map_frameOf_opening selects measures]
      rfl
    | ok field =>
      obtain ⟨fetches, fetched, looped, ran⟩ := exists_fetched card (messageLength field)
        (measure :: select :: earlier) messageOffset []
      refine ⟨_, _, run_readNdef selects measures first second ran,
        .inr ⟨selected, field, fetches, fetched, ?_, ?_, looped.kept, rfl⟩⟩
      · rw [List.map_append, frameOf_orders, map_frameOf_opening selects measures]
        rfl
      · rw [Card.answers, Card.answers, looped.answers_frames, taken_eq_ok.mp first,
          taken_eq_ok.mp second]
        rfl

end BridgeTag.CommandLine
