import BridgeTag.Proofs.Ndef.RoundTrip
import Mathlib.Data.List.Forall2

/-! The outline of a message: its frames, before any payload is looked into. A registry decides what
becomes of a payload but not where a record ends, so two registries that accept the same octets find
the same records under other bodies, and the empty one accepts whatever another does. -/
namespace BridgeTag.Ndef

/-- Frames up to the last one, and no other, that is marked as ending the message. -/
inductive Message.Framed : Bool → Octets → List Frame → Prop
  | last {header : Header} {frame : Frame} (fits : frame.Fits header) (ends : header.ends = true) :
      Framed header.begins (frame.spelling header) [frame]
  | more {header : Header} {frame : Frame} {rest : Octets} {frames : List Frame}
      (fits : frame.Fits header) (ends : header.ends = false) (later : Framed false rest frames) :
      Framed header.begins (frame.spelling header ++ rest) (frame :: frames)

/-- The frames of a message; the void frame alone stands for none. -/
def Message.Outline (octets : Octets) (frames : List Frame) : Prop :=
  octets = empty ∧ frames = [] ∨ octets ≠ empty ∧ Framed true octets frames

/-- The records agree on everything but their bodies. -/
structure Record.SameLabel (record record' : Record) : Prop where
  tnf : record.tnf = record'.tnf
  type : record.type = record'.type
  id : record.id = record'.id

/-- The decoder for the frame's type, given the frame's payload, makes the record's body. -/
structure Frame.Opens (registry : Registry) (frame : Frame) (record : Record) : Prop where
  body : registry.retrieve frame.tnf frame.type frame.payload
    (fun message _ => Message.decode registry message) = .ok record.body
  tnf : frame.tnf = record.tnf
  type : frame.type = record.type
  id : frame.id = record.id

def Frame.unopened (frame : Frame) : Record where
  tnf := frame.tnf
  type := frame.type
  id := frame.id
  body := if frame.tnf = .external then .external ⟨some frame.payload⟩ else .generic frame.payload

variable {registry registry' : Registry} {frame : Frame} {frames frames' : List Frame}
  {record record' : Record} {records records' done : List Record} {octets : Octets} {begins : Bool}
  {failure : Failure}

namespace Frame

theorem opens_iff : frame.Opens registry record ↔ frame.record registry = .ok record := by
  rw [record_eq_ok]
  constructor
  · intro opens
    exact ⟨opens.body, opens.tnf, opens.type, opens.id⟩
  · intro opened
    obtain ⟨body, tnf, type, id⟩ := opened
    exact ⟨body, tnf, type, id⟩

theorem Opens.sameLabel (opens : frame.Opens registry record)
    (opens' : frame.Opens registry' record') : record.SameLabel record' :=
  ⟨opens.tnf.symm.trans opens'.tnf, opens.type.symm.trans opens'.type,
    opens.id.symm.trans opens'.id⟩

theorem record_empty (frame : Frame) : frame.record .empty = .ok frame.unopened := by
  obtain ⟨tnf, type, id, payload⟩ := frame
  cases tnf <;> rfl

end Frame

namespace Message

/-- A run of the decoder is a row of frames, each of which opens. -/
theorem chained_iff_framed : Chained registry begins octets records ↔
    ∃ frames, Framed begins octets frames ∧
      List.Forall₂ (Frame.Opens registry) frames records := by
  constructor
  · intro chained
    induction chained with
    | last fits opened ends =>
      exact ⟨_, .last fits ends, .cons (Frame.opens_iff.mpr opened) .nil⟩
    | more fits opened ends later ih =>
      obtain ⟨frames, framed, opens⟩ := ih
      exact ⟨_, .more fits ends framed, .cons (Frame.opens_iff.mpr opened) opens⟩
  · intro found
    obtain ⟨frames, framed, opens⟩ := found
    induction framed generalizing records with
    | last fits ends =>
      obtain ⟨_, _, first, none, rfl⟩ := List.forall₂_cons_left_iff.mp opens
      cases none
      exact .last fits (Frame.opens_iff.mp first) ends
    | more fits ends later ih =>
      obtain ⟨_, _, first, further, rfl⟩ := List.forall₂_cons_left_iff.mp opens
      exact .more fits (Frame.opens_iff.mp first) ends (ih further)

/-- The first frame of a row, whatever its place in the message. -/
theorem framed_cases (framed : Framed begins octets frames) :
    ∃ header frame rest, Frame.Fits header frame ∧ octets = frame.spelling header ++ rest ∧
      (header.ends = true ∧ frames = [frame] ∨
        header.ends = false ∧ ∃ later, frames = frame :: later ∧ Framed false rest later) := by
  cases framed with
  | @last header frame fits ends =>
    exact ⟨header, frame, [], fits, (List.append_nil _).symm, .inl ⟨ends, rfl⟩⟩
  | @more header frame rest frames fits ends later =>
    exact ⟨header, frame, rest, fits, rfl, .inr ⟨ends, frames, rfl, later⟩⟩

theorem framed_unique (framed : Framed begins octets frames)
    (framed' : Framed begins octets frames') : frames = frames' := by
  -- the octets settle header, frame and rest, and the header which constructor made the other row
  induction framed generalizing frames' with
  | @last header frame fits ends =>
    obtain ⟨header', frame', rest', fits', same, place⟩ := framed_cases framed'
    rw [← List.append_nil (frame.spelling header)] at same
    obtain ⟨rfl, rfl, rfl⟩ := Frame.spelling_inj fits fits' same
    rcases place with ⟨_, rfl⟩ | ⟨further, _⟩
    · rfl
    · rw [ends] at further
      cases further
  | @more header frame rest frames fits ends later ih =>
    obtain ⟨header', frame', rest', fits', same, place⟩ := framed_cases framed'
    obtain ⟨rfl, rfl, rfl⟩ := Frame.spelling_inj fits fits' same
    rcases place with ⟨last, _⟩ | ⟨_, frames', rfl, later'⟩
    · rw [ends] at last
      cases last
    · rw [ih later']

theorem outline_unique (outline : Outline octets frames) (outline' : Outline octets frames') :
    frames = frames' := by
  rcases outline with ⟨same, rfl⟩ | ⟨differ, framed⟩
  · rcases outline' with ⟨_, rfl⟩ | ⟨differ, _⟩
    · rfl
    · exact absurd same differ
  · rcases outline' with ⟨same, _⟩ | ⟨_, framed'⟩
    · exact absurd same differ
    · exact framed_unique framed framed'

/-- What a message decodes to is its outline with every frame opened. -/
theorem decode_eq_ok_iff_outline : decode registry octets = .ok records ↔
    ∃ frames, Outline octets frames ∧ List.Forall₂ (Frame.Opens registry) frames records := by
  rw [decode_eq_ok]
  constructor
  · intro found
    rcases found with ⟨same, rfl⟩ | ⟨differ, chained⟩
    · exact ⟨[], .inl ⟨same, rfl⟩, .nil⟩
    · obtain ⟨frames, framed, opens⟩ := chained_iff_framed.mp chained
      exact ⟨frames, .inr ⟨differ, framed⟩, opens⟩
  · intro found
    obtain ⟨frames, outline, opens⟩ := found
    rcases outline with ⟨same, rfl⟩ | ⟨differ, framed⟩
    · cases opens
      exact .inl ⟨same, rfl⟩
    · exact .inr ⟨differ, chained_iff_framed.mpr ⟨frames, framed, opens⟩⟩

theorem forall₂_opens_empty (frames : List Frame) :
    List.Forall₂ (Frame.Opens .empty) frames (frames.map Frame.unopened) := by
  rw [List.forall₂_map_right_iff]
  exact List.forall₂_same.mpr fun frame _ => Frame.opens_iff.mpr frame.record_empty

theorem forall₂_sameLabel (opens : List.Forall₂ (Frame.Opens registry) frames records)
    (opens' : List.Forall₂ (Frame.Opens registry') frames records') :
    List.Forall₂ Record.SameLabel records records' := by
  induction opens generalizing records' with
  | nil =>
    cases opens'
    exact .nil
  | cons first further ih =>
    obtain ⟨_, _, first', further', rfl⟩ := List.forall₂_cons_left_iff.mp opens'
    exact .cons (first.sameLabel first') (ih further')

/-- Without decoders that could refuse a payload, nothing but the framing is refused. -/
theorem unchain_empty_eq_error (refused : unchain .empty begins octets done = .error failure) :
    failure.reason = .invalidMessage := by
  -- on how much is left, as every frame that is read takes some of it
  induction length : octets.length using Nat.strongRecOn generalizing octets done begins with
  | _ size ih =>
    cases read : (Frame.read (Reader.ofOctets octets)).1 with
    | none =>
      obtain ⟨_, failed, reason⟩ := unchain_unread .empty begins done read
      rw [refused] at failed
      cases failed
      exact reason
    | some frame =>
      obtain ⟨header, fits, spelled, _⟩ := Frame.read_eq_some.mp (Prod.ext read rfl)
      rw [Reader.ofOctets_rest] at spelled
      rw [spelled, unchain_spelling _ _ _ fits, Frame.record_empty] at refused
      dsimp only at refused
      split at refused
      next => cases refused; rfl
      next =>
        split at refused
        next =>
          split at refused
          next => cases refused
          next => cases refused; rfl
        next =>
          refine ih _ ?_ refused rfl
          have whole := congrArg List.length spelled
          rw [List.length_append, Frame.length_spelling] at whole
          omega

/-- Two registries that accept the same octets find records that differ in their bodies only. The
empty registry accepts whatever another one does, leaves every payload unopened that the other gave
to a decoder, and refuses nothing but bad framing. -/
theorem decode_outline (octets : Octets) :
    (∀ registry registry' records records', decode registry octets = .ok records →
      decode registry' octets = .ok records' → List.Forall₂ Record.SameLabel records records') ∧
    (∀ registry records, decode registry octets = .ok records →
      ∃ frames, Outline octets frames ∧ List.Forall₂ (Frame.Opens registry) frames records ∧
        decode .empty octets = .ok (frames.map Frame.unopened)) ∧
    ∀ failure, decode .empty octets = .error failure → failure.reason = .invalidMessage := by
  refine ⟨?_, ?_, ?_⟩
  · intro registry registry' records records' found found'
    obtain ⟨frames, outline, opens⟩ := decode_eq_ok_iff_outline.mp found
    obtain ⟨frames', outline', opens'⟩ := decode_eq_ok_iff_outline.mp found'
    obtain rfl := outline_unique outline outline'
    exact forall₂_sameLabel opens opens'
  · intro registry records found
    obtain ⟨frames, outline, opens⟩ := decode_eq_ok_iff_outline.mp found
    exact ⟨frames, outline, opens,
      decode_eq_ok_iff_outline.mpr ⟨frames, outline, forall₂_opens_empty frames⟩⟩
  · intro failure refused
    rw [decode] at refused
    split at refused
    next => cases refused
    next => exact unchain_empty_eq_error refused

/-- The records of the sample with their payloads unopened, and what comes of a frame cut short. -/
theorem decode_empty_handoverOctets : decode .builtIn handoverOctets = .ok handoverSample ∧
    decode .empty handoverOctets = .ok [selectFrame.unopened, linkFrame.unopened] ∧
    List.Forall₂ Record.SameLabel handoverSample [selectFrame.unopened, linkFrame.unopened] ∧
    ∃ failure, decode .empty (handoverOctets.take 4) = .error failure ∧
      failure.reason = .invalidMessage := by
  obtain ⟨same, unopened, _⟩ := decode_outline handoverOctets
  obtain ⟨frames, outline, opens, found⟩ := unopened _ _ decode_handoverOctets
  have framed : Framed true handoverOctets [selectFrame, linkFrame] :=
    .more (fits_selectFrame true false) rfl (.last (fits_linkFrame false true) rfl)
  obtain rfl := outline_unique outline (.inr ⟨by decide, framed⟩)
  refine ⟨decode_handoverOctets, found, same _ _ _ _ decode_handoverOctets found, ?_⟩
  obtain ⟨_, _, refused⟩ := decode_outline (handoverOctets.take 4)
  have torn : (Frame.read (Reader.ofOctets (handoverOctets.take 4))).1 = none := rfl
  obtain ⟨failure, failed, _⟩ := unchain_unread .empty true [] torn
  have cut : decode .empty (handoverOctets.take 4) = .error failure := by
    rw [decode, if_neg (by decide), failed]
  exact ⟨failure, cut, refused failure cut⟩

end Message
end BridgeTag.Ndef
