import BridgeTag.Ndef.Decoding
import BridgeTag.Proofs.Ndef.Framing

/-! Decoding one frame after the other. `Chained` is the run of the decoder: one constructor for a
record that ends its message and one for a record that does not. -/
namespace BridgeTag.Ndef

def Frame.record (registry : Registry) (frame : Frame) : Except Failure Record :=
  match registry.retrieve frame.tnf frame.type frame.payload fun message _ =>
      Message.decode registry message with
  | .ok body => .ok ⟨frame.tnf, frame.type, frame.id, body⟩
  | .error failure => .error failure

/-- The frame that stands for no records where it is a whole message. -/
def Frame.void : Frame := ⟨.empty, [], [], []⟩

/-- What the void frame holds elsewhere. -/
def Record.void : Record := ⟨.empty, [], [], .generic []⟩

/-- The run of the decoder over the frames that are left: those of the records, the last of them,
and no other, marked as ending the message. -/
inductive Message.Chained (registry : Registry) : Bool → Octets → List Record → Prop
  | last {header : Header} {frame : Frame} {record : Record} (fits : frame.Fits header)
      (opened : frame.record registry = .ok record) (ends : header.ends = true) :
      Chained registry header.begins (frame.spelling header) [record]
  | more {header : Header} {frame : Frame} {record : Record} {rest : Octets}
      {records : List Record} (fits : frame.Fits header)
      (opened : frame.record registry = .ok record) (ends : header.ends = false)
      (later : Chained registry false rest records) :
      Chained registry header.begins (frame.spelling header ++ rest) (record :: records)

variable {registry : Registry} {header : Header} {frame : Frame} {record : Record}
  {records done : List Record} {octets rest : Octets} {begins : Bool}

theorem Frame.record_eq_ok : frame.record registry = .ok record ↔
    registry.retrieve frame.tnf frame.type frame.payload
        (fun message _ => Message.decode registry message) = .ok record.body ∧
      frame.tnf = record.tnf ∧ frame.type = record.type ∧ frame.id = record.id := by
  rcases record with ⟨tnf, type, id, body⟩
  unfold Frame.record
  cases registry.retrieve frame.tnf frame.type frame.payload fun message _ =>
    Message.decode registry message with
  | error failure => simp
  | ok found =>
    simp only [Except.ok.injEq, Record.mk.injEq]
    constructor
    · intro same
      obtain ⟨rfl, rfl, rfl, rfl⟩ := same
      exact ⟨rfl, rfl, rfl, rfl⟩
    · intro same
      obtain ⟨rfl, rfl, rfl, rfl⟩ := same
      exact ⟨rfl, rfl, rfl, rfl⟩

theorem Frame.record_void : Frame.void.record .builtIn = .ok Record.void := rfl

namespace Record

theorem decodeWith_read {after : Reader}
    (found : Frame.read (Reader.ofOctets octets) = (some frame, after)) :
    decodeWith registry octets (fun message _ => Message.decode registry message) =
      match frame.record registry with
      | .ok record => .ok (record, after)
      | .error failure => .error failure := by
  unfold decodeWith
  split
  next unread => rw [found] at unread; cases unread
  next frame' after' read =>
    rw [found] at read
    cases read
    unfold Frame.record
    cases registry.retrieve frame.tnf frame.type frame.payload fun message _ =>
      Message.decode registry message <;> rfl

theorem decodeWith_unread (unread : (Frame.read (Reader.ofOctets octets)).1 = none) :
    decodeWith registry octets (fun message _ => Message.decode registry message) =
      .error ⟨.record, "decode", .invalidMessage⟩ := by
  unfold decodeWith
  split
  next => rfl
  next read => rw [read] at unread; cases unread

theorem decodeWith_spelling (fits : frame.Fits header) :
    decodeWith registry (frame.spelling header ++ rest)
        (fun message _ => Message.decode registry message) =
      match frame.record registry with
      | .ok record => .ok (record, ⟨(frame.spelling header).length, rest⟩)
      | .error failure => .error failure := by
  rw [decodeWith_read (Frame.read_spelling fits 0 rest), Nat.zero_add]

/-- A record is decoded exactly where a spelling of its frame comes first. -/
theorem decode_eq_ok {taken : Nat} : Record.decode registry octets = .ok (record, taken) ↔
    ∃ header frame rest, Frame.Fits header frame ∧ frame.record registry = .ok record ∧
      octets = frame.spelling header ++ rest ∧ taken = (frame.spelling header).length := by
  unfold Record.decode
  constructor
  · intro decoded
    cases read : Frame.read (Reader.ofOctets octets) with
    | mk value after =>
      cases value with
      | none =>
        rw [decodeWith_unread (by rw [read])] at decoded
        cases decoded
      | some frame =>
        rw [decodeWith_read read] at decoded
        obtain ⟨header, fits, spelled, position⟩ := Frame.read_eq_some.mp read
        cases opened : frame.record registry with
        | error failure => rw [opened] at decoded; cases decoded
        | ok found =>
          rw [opened] at decoded
          cases decoded
          exact ⟨header, frame, after.rest, fits, opened, spelled, by simpa using position⟩
  · intro spelled
    obtain ⟨header, frame, rest, fits, opened, rfl, rfl⟩ := spelled
    rw [decodeWith_spelling fits, opened]

theorem decode_unread (unread : (Frame.read (Reader.ofOctets octets)).1 = none) :
    Record.decode registry octets = .error ⟨.record, "decode", .invalidMessage⟩ := by
  unfold Record.decode
  rw [decodeWith_unread unread]

/-- A record that is decoded takes three octets at least, and none that are not there. -/
theorem taken_of_decode {taken : Nat} (decoded : Record.decode registry octets = .ok (record, taken)) :
    3 ≤ taken ∧ taken ≤ octets.length := by
  obtain ⟨header, frame, rest, _, _, rfl, rfl⟩ := decode_eq_ok.mp decoded
  have longer := frame.payload_le_spelling header
  simp only [List.length_append]
  omega

end Record

namespace Message

theorem unchain_nil : unchain registry begins [] done =
    .error ⟨.message, "decode", .invalidMessage⟩ := by
  rw [unchain]

theorem decode_nil : decode registry [] = .error ⟨.message, "decode", .invalidMessage⟩ := by
  rw [decode, if_neg (by decide), unchain_nil]

theorem unchain_cons (first : UInt8) (rest : Octets) :
    unchain registry begins (first :: rest) done =
      if (Header.ofOctet first).begins != begins then .error ⟨.message, "decode", .invalidMessage⟩
      else match Record.decodeWith registry (first :: rest) fun message _ =>
          decode registry message with
        | .error failure => .error failure
        | .ok (record, after) =>
          if (Header.ofOctet first).ends then
            if after.rest.isEmpty then .ok (record :: done).reverse
            else .error ⟨.message, "decode", .invalidMessage⟩
          else unchain registry false after.rest (record :: done) := by
  rw [unchain]
  dsimp only
  split
  · rfl
  · split
    next found => rw [found]
    next found => rw [found]

/-- Octets that do not start with a frame hold no message. -/
theorem unchain_unread (registry : Registry) (begins : Bool) (done : List Record)
    (unread : (Frame.read (Reader.ofOctets octets)).1 = none) :
    ∃ failure, unchain registry begins octets done = .error failure ∧
      failure.reason = .invalidMessage := by
  cases octets with
  | nil => exact ⟨_, unchain_nil, rfl⟩
  | cons first rest =>
    rw [unchain_cons, Record.decodeWith_unread unread]
    split <;> exact ⟨_, rfl, rfl⟩

theorem unchain_spelling (registry : Registry) (begins : Bool) (done : List Record)
    (fits : frame.Fits header) (rest : Octets) :
    unchain registry begins (frame.spelling header ++ rest) done =
      if header.begins != begins then .error ⟨.message, "decode", .invalidMessage⟩
      else match frame.record registry with
        | .error failure => .error failure
        | .ok record =>
          if header.ends then
            if rest.isEmpty then .ok (record :: done).reverse
            else .error ⟨.message, "decode", .invalidMessage⟩
          else unchain registry false rest (record :: done) := by
  have step : unchain registry begins (header.octet :: ((frame.spelling header).tail ++ rest)) done =
    _ := unchain_cons _ _
  have whole : header.octet :: ((frame.spelling header).tail ++ rest) =
    frame.spelling header ++ rest := rfl
  rw [whole, Record.decodeWith_spelling fits, Header.ofOctet_octet] at step
  rw [step]
  cases frame.record registry <;> rfl

/-- A record that does not end its message leaves the rest to be decoded in the same way. -/
theorem unchain_more (fits : frame.Fits header) (opened : frame.record registry = .ok record)
    (ends : header.ends = false) (rest : Octets) :
    unchain registry header.begins (frame.spelling header ++ rest) done =
      unchain registry false rest (record :: done) := by
  rw [unchain_spelling _ _ _ fits, opened]
  simp [ends]

/-- All that decoding a record of a message can have done. -/
theorem unchain_cases {decoded : List Record}
    (found : unchain registry begins octets done = .ok decoded) :
    ∃ header frame record rest, Frame.Fits header frame ∧ frame.record registry = .ok record ∧
      header.begins = begins ∧ octets = frame.spelling header ++ rest ∧
      (header.ends = true ∧ rest = [] ∧ decoded = done.reverse ++ [record] ∨
        header.ends = false ∧ unchain registry false rest (record :: done) = .ok decoded) := by
  cases read : (Frame.read (Reader.ofOctets octets)).1 with
  | none =>
    obtain ⟨_, failed, _⟩ := unchain_unread registry begins done read
    rw [found] at failed
    cases failed
  | some frame =>
    obtain ⟨header, fits, spelled, _⟩ := Frame.read_eq_some.mp (Prod.ext read rfl)
    rw [Reader.ofOctets_rest] at spelled
    rw [spelled, unchain_spelling _ _ _ fits] at found
    split at found
    next => cases found
    next placed =>
      split at found
      next => cases found
      next record opened =>
        refine ⟨header, frame, record, _, fits, opened, by simpa using placed, spelled, ?_⟩
        split at found
        next ends =>
          split at found
          next empty =>
            cases found
            exact .inl ⟨ends, List.isEmpty_iff.mp empty, by simp⟩
          next => cases found
        next ends => exact .inr ⟨by simpa using ends, found⟩

theorem unchain_of_chained (chained : Chained registry begins octets records) :
    unchain registry begins octets done = .ok (done.reverse ++ records) := by
  induction chained generalizing done with
  | @last header _ _ fits opened ends =>
    have step := unchain_spelling registry header.begins done fits []
    rw [List.append_nil] at step
    rw [step, opened]
    simp [ends]
  | more fits opened ends later ih =>
    rw [unchain_more fits opened ends, ih]
    simp

theorem chained_of_unchain {decoded : List Record}
    (found : unchain registry begins octets done = .ok decoded) :
    ∃ records, decoded = done.reverse ++ records ∧ Chained registry begins octets records := by
  induction length : octets.length using Nat.strongRecOn generalizing octets done begins with
  | _ size ih =>
    obtain ⟨header, frame, record, rest, fits, opened, rfl, rfl, step⟩ := unchain_cases found
    rcases step with ⟨ends, rfl, rfl⟩ | ⟨ends, found⟩
    · rw [List.append_nil]
      exact ⟨[record], rfl, .last fits opened ends⟩
    · have shorter : rest.length < size := by
        rw [← length, List.length_append, Frame.length_spelling]
        omega
      obtain ⟨records, rfl, later⟩ := ih _ shorter found rfl
      exact ⟨record :: records, by simp, .more fits opened ends later⟩

theorem empty_eq_spelling : empty = Frame.void.spelling (Frame.void.header true true) := rfl

theorem fits_void (begins ends : Bool) : Frame.void.Fits (Frame.void.header begins ends) :=
  Frame.fits_header (by decide) (by decide) (by decide) begins ends

/-- The first record of a run, whatever its place in the message. -/
theorem chained_cases (chained : Chained registry begins octets records) :
    ∃ header frame record rest, Frame.Fits header frame ∧ frame.record registry = .ok record ∧
      header.begins = begins ∧ octets = frame.spelling header ++ rest ∧
      (header.ends = true ∧ rest = [] ∧ records = [record] ∨
        header.ends = false ∧ ∃ later, records = record :: later ∧
          Chained registry false rest later) := by
  cases chained with
  | @last header frame record fits opened ends =>
    exact ⟨header, frame, record, [], fits, opened, rfl, (List.append_nil _).symm,
      .inl ⟨ends, rfl, rfl⟩⟩
  | @more header frame record rest later fits opened ends chained =>
    exact ⟨header, frame, record, rest, fits, opened, rfl, rfl, .inr ⟨ends, later, rfl, chained⟩⟩

/-- A run that starts with the void frame ends with it. -/
theorem chained_empty {missing : Octets}
    (chained : Chained registry begins (empty ++ missing) records) :
    missing = [] ∧ ∃ record, Frame.void.record registry = .ok record ∧ records = [record] := by
  rw [empty_eq_spelling] at chained
  obtain ⟨header, frame, record, rest, fits, opened, _, same, ends⟩ := chained_cases chained
  obtain ⟨rfl, rfl, rfl⟩ := Frame.spelling_inj (fits_void _ _) fits same
  rcases ends with ⟨_, nothing, alone⟩ | ⟨further, _⟩
  · exact ⟨nothing, record, opened, alone⟩
  · cases further

theorem length_of_chained (chained : Chained registry begins octets records) :
    3 ≤ octets.length := by
  cases chained with
  | last => rw [Frame.length_spelling]; split <;> omega
  | more => rw [List.length_append, Frame.length_spelling]; split <;> omega

theorem ne_nil_of_chained (chained : Chained registry begins octets records) : records ≠ [] := by
  cases chained <;> exact List.cons_ne_nil _ _

theorem frame_of_chained (chained : Chained registry begins octets records)
    (member : record ∈ records) : ∃ header frame, Frame.Fits header frame ∧
      frame.record registry = .ok record ∧ frame.payload.length < octets.length := by
  induction chained with
  | @last header frame found fits opened ends =>
    obtain rfl := List.mem_singleton.mp member
    exact ⟨header, frame, fits, opened, by rw [Frame.length_spelling]; omega⟩
  | @more header frame found rest records fits opened ends later ih =>
    rw [List.length_append]
    rcases List.mem_cons.mp member with rfl | further
    · exact ⟨header, frame, fits, opened, by rw [Frame.length_spelling]; omega⟩
    · obtain ⟨header', frame', fits', opened', shorter⟩ := ih further
      exact ⟨header', frame', fits', opened', by omega⟩

/-- Decoding succeeds exactly where the run does, but for the message without records. -/
theorem decode_eq_ok : decode registry octets = .ok records ↔
    octets = empty ∧ records = [] ∨ octets ≠ empty ∧ Chained registry true octets records := by
  rw [decode]
  split
  next same => simp [same, eq_comm]
  next differ =>
    simp only [differ, false_and, ne_eq, not_false_eq_true, true_and, false_or]
    constructor
    · intro found
      obtain ⟨_, rfl, chained⟩ := chained_of_unchain found
      exact chained
    · intro chained
      exact unchain_of_chained chained

end Message
end BridgeTag.Ndef
