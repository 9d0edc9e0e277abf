import BridgeTag.Proofs.Ndef.Chaining
import Mathlib.Data.List.Forall2

/-! Messages as pieces, one for each record. A message is accepted exactly where it can be cut into
pieces that decode and are marked as their places ask, and it can be cut in one way only. -/
namespace BridgeTag.Ndef.Message

def Begins (piece : Octets) : Prop :=
  ∃ first rest, piece = first :: rest ∧ (Header.ofOctet first).begins = true

def Ends (piece : Octets) : Prop :=
  ∃ first rest, piece = first :: rest ∧ (Header.ofOctet first).ends = true

/-- A piece decodes to a record and has no octet to spare. -/
def Holds (registry : Registry) (piece : Octets) (record : Record) : Prop :=
  Record.decode registry piece = .ok (record, piece.length)

/-- Consecutive pieces of a message and the records they hold. The first piece, and no other,
begins the message; the last, and no other, ends it. -/
structure Split (registry : Registry) (octets : Octets) (records : List Record)
    (pieces : List Octets) : Prop where
  nonempty : pieces ≠ []
  joined : pieces.flatten = octets
  held : List.Forall₂ (Holds registry) pieces records
  begins : ∀ place piece, pieces[place]? = some piece → (Begins piece ↔ place = 0)
  ends : ∀ place piece, pieces[place]? = some piece → (Ends piece ↔ place + 1 = pieces.length)

variable {registry : Registry} {header : Header} {frame : Frame} {record : Record}
  {records records' : List Record} {octets piece : Octets}
  {pieces pieces' : List Octets} {begins : Bool}

@[simp] theorem begins_spelling : Begins (frame.spelling header) ↔ header.begins = true := by
  simp [Begins, Frame.spelling, Header.ofOctet_octet]

@[simp] theorem ends_spelling : Ends (frame.spelling header) ↔ header.ends = true := by
  simp [Ends, Frame.spelling, Header.ofOctet_octet]

theorem holds_iff : Holds registry piece record ↔ ∃ header frame, Frame.Fits header frame ∧
    frame.record registry = .ok record ∧ piece = frame.spelling header := by
  unfold Holds
  rw [Record.decode_eq_ok]
  constructor
  · intro held
    obtain ⟨header, frame, rest, fits, opened, rfl, whole⟩ := held
    have nothing : rest = [] := by
      rw [List.length_append] at whole
      exact List.eq_nil_of_length_eq_zero (by omega)
    exact ⟨header, frame, fits, opened, by rw [nothing, List.append_nil]⟩
  · intro spelled
    obtain ⟨header, frame, fits, opened, rfl⟩ := spelled
    exact ⟨header, frame, [], fits, opened, by rw [List.append_nil], rfl⟩

/-- Pieces that hold records are told apart by their own lengths. -/
theorem pieces_unique (held : List.Forall₂ (Holds registry) pieces records)
    (held' : List.Forall₂ (Holds registry) pieces' records')
    (same : pieces.flatten = pieces'.flatten) : pieces = pieces' ∧ records = records' := by
  induction held generalizing pieces' records' with
  | nil =>
    cases held' with
    | nil => exact ⟨rfl, rfl⟩
    | cons first later =>
      obtain ⟨_, _, _, _, rfl⟩ := holds_iff.mp first
      simp [Frame.spelling] at same
  | cons first later ih =>
    obtain ⟨header, frame, fits, opened, rfl⟩ := holds_iff.mp first
    cases held' with
    | nil => simp [Frame.spelling] at same
    | cons first' later' =>
      obtain ⟨header', frame', fits', opened', rfl⟩ := holds_iff.mp first'
      simp only [List.flatten_cons] at same
      obtain ⟨rfl, rfl, rest⟩ := Frame.spelling_inj fits fits' same
      obtain ⟨rfl, rfl⟩ := ih later' rest
      rw [opened] at opened'
      cases opened'
      exact ⟨rfl, rfl⟩

/-- Pieces from some place of a message on; only at place zero does the message begin. -/
theorem chained_of_pieces (start : Nat) (nonempty : pieces ≠ [])
    (held : List.Forall₂ (Holds registry) pieces records)
    (begins : ∀ place piece, pieces[place]? = some piece → (Begins piece ↔ start + place = 0))
    (ends : ∀ place piece, pieces[place]? = some piece →
      (Ends piece ↔ place + 1 = pieces.length)) :
    Chained registry (start == 0) pieces.flatten records := by
  induction held generalizing start with
  | nil => exact absurd rfl nonempty
  | @cons piece record pieces records first later ih =>
    obtain ⟨header, frame, fits, opened, rfl⟩ := holds_iff.mp first
    have beginsHere := begins 0 _ rfl
    have endsHere := ends 0 _ rfl
    rw [begins_spelling] at beginsHere
    rw [ends_spelling] at endsHere
    have marked : header.begins = (start == 0) := by
      rw [Bool.eq_iff_iff, beginsHere]
      simp
    rw [← marked, List.flatten_cons]
    by_cases last : pieces = []
    · subst last
      cases later
      rw [List.flatten_nil, List.append_nil]
      exact .last fits opened (endsHere.mpr rfl)
    · have further : header.ends = false := by
        have : pieces.length ≠ 0 := fun zero => last (List.eq_nil_of_length_eq_zero zero)
        rw [Bool.eq_false_iff, ne_eq, endsHere, List.length_cons]
        omega
      refine .more fits opened further ?_
      have rest := ih (start + 1) last ?_ ?_
      · simpa using rest
      · intro place piece found
        have := begins (place + 1) piece found
        simpa [Nat.add_assoc, Nat.add_comm 1 place] using this
      · intro place piece found
        have := ends (place + 1) piece found
        simpa using this

theorem pieces_of_chained (chained : Chained registry begins octets records) :
    ∃ pieces, pieces ≠ [] ∧ pieces.flatten = octets ∧
      List.Forall₂ (Holds registry) pieces records ∧
      (∀ place piece, pieces[place]? = some piece →
        (Begins piece ↔ begins = true ∧ place = 0)) ∧
      ∀ place piece, pieces[place]? = some piece → (Ends piece ↔ place + 1 = pieces.length) := by
  induction chained with
  | @last header frame record fits opened ends =>
    refine ⟨[frame.spelling header], by simp, by simp,
      .cons (holds_iff.mpr ⟨header, frame, fits, opened, rfl⟩) .nil, ?_, ?_⟩
    · intro place piece found
      cases place with
      | zero =>
        cases found
        simp
      | succ place => cases found
    · intro place piece found
      cases place with
      | zero =>
        cases found
        simp [ends]
      | succ place => cases found
  | @more header frame record rest records fits opened ends later ih =>
    obtain ⟨pieces, nonempty, rfl, held, begins, lasts⟩ := ih
    refine ⟨frame.spelling header :: pieces, by simp, by simp,
      .cons (holds_iff.mpr ⟨header, frame, fits, opened, rfl⟩) held, ?_, ?_⟩
    · intro place piece found
      cases place with
      | zero =>
        cases found
        simp
      | succ place =>
        have := begins place piece found
        simpa using this
    · intro place piece found
      cases place with
      | zero =>
        cases found
        simp [ends, nonempty]
      | succ place =>
        have := lasts place piece found
        simpa using this

theorem exists_split_iff : (∃ pieces, Split registry octets records pieces) ↔
    Chained registry true octets records := by
  constructor
  · intro split
    obtain ⟨pieces, split⟩ := split
    rw [← split.joined]
    exact chained_of_pieces 0 split.nonempty split.held (by simpa using split.begins) split.ends
  · intro chained
    obtain ⟨pieces, nonempty, joined, held, begins, ends⟩ := pieces_of_chained chained
    exact ⟨pieces, nonempty, joined, held, by simpa using begins, ends⟩

/-- Whatever the registry holds, a message is accepted exactly where it can be cut into marked
pieces that hold its records; the one message without records is told by its octets. -/
theorem decode_eq_ok_iff_split (registry : Registry) (octets : Octets) (records : List Record) :
    (decode registry octets = .ok records ↔
      octets = empty ∧ records = [] ∨
        octets ≠ empty ∧ ∃ pieces, Split registry octets records pieces) ∧
    ∀ pieces pieces' records', Split registry octets records pieces →
      Split registry octets records' pieces' → pieces = pieces' ∧ records = records' := by
  constructor
  · rw [decode_eq_ok, exists_split_iff]
  · intro pieces pieces' records' split split'
    exact pieces_unique split.held split'.held (split.joined.trans split'.joined.symm)

end BridgeTag.Ndef.Message
