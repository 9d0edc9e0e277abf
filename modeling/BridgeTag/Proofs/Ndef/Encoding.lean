import BridgeTag.Proofs.Ndef.Chaining
import Mathlib.Data.List.Forall2

/-! When encoding succeeds and with what. Each lemma opens one level: a message into the frames of
its records, a frame into the payload of its body, a handover-select body into a message. -/
namespace BridgeTag.Ndef

/-- Type, identifier and payload are no longer than their length fields can say. -/
structure Frame.Sized (frame : Frame) : Prop where
  type : frame.type.length ≤ 255
  id : frame.id.length ≤ 255
  payload : frame.payload.length ≤ 4294967295

variable {registry : Registry} {record : Record} {records : List Record} {frame : Frame}
  {frames : List Frame} {payload octets : Octets} {begins : Bool}

theorem Frame.Sized.fits (sized : frame.Sized) (begins ends : Bool) :
    frame.Fits (frame.header begins ends) :=
  Frame.fits_header sized.type sized.id sized.payload begins ends

theorem Frame.Fits.sized {header : Header} (fits : frame.Fits header) : frame.Sized := by
  refine ⟨fits.type, ?_, ?_⟩
  · have := fits.id
    split at this <;> omega
  · have := fits.payload
    split at this <;> omega

namespace Record

theorem frame_eq (record : Record) : record.frame =
    if 255 < record.type.length ∨ 255 < record.id.length then
      .error ⟨.record, "encode", .illegalArgument⟩
    else match record.body.encode with
      | .ok payload =>
        if 4294967295 < payload.length then .error ⟨.record, "encode", .illegalArgument⟩
        else .ok ⟨record.tnf, record.type, record.id, payload⟩
      | .error failure => .error failure := by
  obtain ⟨tnf, type, id, body⟩ := record
  rw [Record.frame]
  cases body.encode <;> simp only [Bool.or_eq_true, decide_eq_true_eq, gt_iff_lt]

theorem frame_eq_ok : record.frame = .ok frame ↔
    record.body.encode = .ok frame.payload ∧ frame.Sized ∧
      frame.tnf = record.tnf ∧ frame.type = record.type ∧ frame.id = record.id := by
  rw [frame_eq]
  constructor
  · intro framed
    split at framed
    next => cases framed
    next short =>
      split at framed
      next payload encoded =>
        split at framed
        next => cases framed
        next fitting =>
          cases framed
          exact ⟨encoded, ⟨by simp only; omega, by simp only; omega, by simp only; omega⟩,
            rfl, rfl, rfl⟩
      next => cases framed
  · intro made
    obtain ⟨encoded, ⟨type, id, payload⟩, tnf, sameType, sameId⟩ := made
    rw [if_neg (by rw [← sameType, ← sameId]; omega), encoded]
    dsimp only
    rw [if_neg (by omega), ← tnf, ← sameType, ← sameId]

theorem frames_eq_ok : Record.frames records = .ok frames ↔
    List.Forall₂ (fun record frame => record.frame = .ok frame) records frames := by
  induction records generalizing frames with
  | nil => simp [Record.frames, eq_comm]
  | cons record records ih =>
    rw [Record.frames, List.forall₂_cons_left_iff]
    cases record.frame with
    | error failure => simp
    | ok frame =>
      simp only [Except.ok.injEq, ← ih]
      cases Record.frames records with
      | error failure => simp
      | ok later => simp [eq_comm]

theorem exists_frames : (∃ frames, Record.frames records = .ok frames) ↔
    ∀ record ∈ records, ∃ frame, record.frame = .ok frame := by
  induction records with
  | nil => simp [Record.frames]
  | cons record records ih =>
    rw [Record.frames, List.forall_mem_cons, ← ih]
    cases record.frame with
    | error failure => simp
    | ok frame => cases Record.frames records <;> simp

/-- The failure is that of the first record without a frame. -/
theorem frames_eq_error {failure : Failure} : Record.frames records = .error failure ↔
    ∃ before record after, records = before ++ record :: after ∧
      (∀ earlier ∈ before, ∃ frame, earlier.frame = .ok frame) ∧
        record.frame = .error failure := by
  induction records with
  | nil => simp [Record.frames]
  | cons record records ih =>
    simp only [List.cons_eq_append_iff]
    cases framed : record.frame with
    | error found =>
      simp only [Record.frames, framed, Except.error.injEq]
      constructor
      · intro same
        subst same
        exact ⟨[], record, records, .inl ⟨rfl, rfl⟩, by simp, framed⟩
      · intro first
        obtain ⟨before, refused, after, place, earlier, refusal⟩ := first
        rcases place with ⟨_, same⟩ | ⟨tail, rfl, _⟩
        · cases same
          rw [framed] at refusal
          exact Except.error.inj refusal
        · obtain ⟨_, taken⟩ := earlier record List.mem_cons_self
          rw [framed] at taken
          cases taken
    | ok frame =>
      have step : Record.frames (record :: records) = .error failure ↔
          Record.frames records = .error failure := by
        rw [Record.frames, framed]
        cases Record.frames records <;> simp
      rw [step, ih]
      constructor
      · intro first
        obtain ⟨before, refused, after, rfl, earlier, refusal⟩ := first
        refine ⟨record :: before, refused, after, .inr ⟨before, rfl, rfl⟩, ?_, refusal⟩
        exact List.forall_mem_cons.mpr ⟨⟨frame, framed⟩, earlier⟩
      · intro first
        obtain ⟨before, refused, after, place, earlier, refusal⟩ := first
        rcases place with ⟨_, same⟩ | ⟨tail, rfl, rfl⟩
        · cases same
          rw [framed] at refusal
          cases refusal
        · exact ⟨tail, refused, after, rfl, (List.forall_mem_cons.mp earlier).2, refusal⟩

theorem frames_nil : Record.frames records = .ok [] ↔ records = [] := by
  rw [frames_eq_ok, List.forall₂_nil_right_iff]

theorem encode_eq_ok : record.encode = .ok octets ↔
    ∃ frame, record.frame = .ok frame ∧ octets = frame.octets false false := by
  unfold Record.encode
  cases record.frame <;> simp [eq_comm]

theorem encode_eq_error {failure : Failure} :
    record.encode = .error failure ↔ record.frame = .error failure := by
  unfold Record.encode
  cases record.frame <;> simp

theorem exists_encode : (∃ octets, record.encode = .ok octets) ↔
    ∃ frame, record.frame = .ok frame := by
  simp only [encode_eq_ok]
  constructor
  · intro encoded
    obtain ⟨_, frame, framed, _⟩ := encoded
    exact ⟨frame, framed⟩
  · intro framed
    obtain ⟨frame, framed⟩ := framed
    exact ⟨_, frame, framed, rfl⟩

end Record

namespace RecordBody

def version (select : HandoverSelect) : UInt8 :=
  UInt8.ofNat (16 * select.major.toNat + select.minor.toNat)

theorem encode_handoverSelect {select : HandoverSelect} :
    (RecordBody.handoverSelect select).encode = .ok payload ↔
      select.valid = true ∧ ∃ frames, Record.frames select.records = .ok frames ∧
        payload = version select :: Message.chain true frames := by
  rcases select with ⟨major, minor, records⟩
  rw [RecordBody.encode]
  split
  next valid =>
    cases Record.frames records with
    | error failure => simp
    | ok frames => simp [valid, version, eq_comm]
  next invalid => simp [invalid]

end RecordBody

namespace Message

theorem encode_eq_ok : encode records = .ok octets ↔
    ∃ frames, Record.frames records = .ok frames ∧ octets = Message.octets frames := by
  unfold encode
  cases Record.frames records <;> simp [eq_comm]

theorem encode_eq_error {failure : Failure} :
    encode records = .error failure ↔ Record.frames records = .error failure := by
  unfold encode
  cases Record.frames records <;> simp

theorem octets_of_ne_nil (nonempty : frames ≠ []) : Message.octets frames = chain true frames := by
  simp [Message.octets, nonempty]

theorem chain_cons (frame : Frame) (nonempty : frames ≠ []) :
    chain begins (frame :: frames) = frame.octets begins false ++ chain false frames := by
  cases frames with
  | nil => exact absurd rfl nonempty
  | cons next frames => rfl

theorem chain_ne_nil (nonempty : frames ≠ []) : chain begins frames ≠ [] := by
  cases frames with
  | nil => exact absurd rfl nonempty
  | cons frame later => cases later <;> exact List.cons_ne_nil _ _

/-- Frames chained by the encoder are a run of the decoder over the records they hold. -/
theorem chained_chain (nonempty : frames ≠ [])
    (opened : List.Forall₂ (fun record frame => frame.Sized ∧ frame.record registry = .ok record)
      records frames) :
    Chained registry begins (chain begins frames) records := by
  induction opened generalizing begins with
  | nil => exact absurd rfl nonempty
  | @cons record frame records frames first later ih =>
    by_cases last : frames = []
    · subst last
      cases later
      rw [chain, Frame.octets_eq_spelling]
      exact .last (first.1.fits begins true) first.2 rfl
    · rw [chain_cons frame last, Frame.octets_eq_spelling]
      exact .more (first.1.fits begins false) first.2 rfl (ih last)

end Message
end BridgeTag.Ndef
