import BridgeTag.Proofs.Applet.Reading
import BridgeTag.Proofs.CommandLine.Fetching

/-! The NDEF file read from a card that holds it. While the card gives what it is asked for, the
loop takes the message in reads of 255 octets and a last one of what is left: they follow each
other through the file, and what is decoded is the message. -/
namespace BridgeTag.CommandLine

open Applet Ndef

def ndefFileOf (message : Octets) : Octets :=
  Octets.ofU16 (UInt16.ofNat message.length) ++ message

/-- What a file has from an offset on, `count` octets of it. -/
def portion (file : Octets) (offset count : Nat) : Octets := (file.drop offset).take count

/-- Frames sent after `earlier`, all of them last first: the NDEF file was selected, and since then
there were only reads. -/
inductive Opened (earlier : List Octets) : List Octets → Prop
  | select {frame : Octets} (framed : frameOf (.selectFile ndefFile) = .ok frame) :
      Opened earlier (frame :: earlier)
  | read {sent : List Octets} {offset count : UInt16} {frame : Octets}
      (opened : Opened earlier sent) (framed : frameOf (.readBinary offset count) = .ok frame) :
      Opened earlier (frame :: sent)

/-- After the frames `earlier` the card lets the NDEF file be selected. From then on it answers a
read that stays inside `file` with what stands there. -/
structure Holds (card : Card) (earlier : List Octets) (file : Octets) : Prop where
  selects : ∀ {frame : Octets}, frameOf (.selectFile ndefFile) = .ok frame →
    card.answer earlier frame = .ok [0x90, 0x00]
  reads : ∀ {sent : List Octets} {offset count : UInt16} {frame : Octets}, Opened earlier sent →
    frameOf (.readBinary offset count) = .ok frame → offset.toNat + count.toNat ≤ file.length →
    card.answer sent frame = .ok (portion file offset.toNat count.toNat ++ [0x90, 0x00])

/-- After the frames `earlier` and the selection of the NDEF file the card answers a read that stays
inside `file` with what stands there. What it makes of the selection is left open. -/
structure Serves (card : Card) (earlier : List Octets) (file : Octets) : Prop where
  reads : ∀ {sent : List Octets} {offset count : UInt16} {frame : Octets}, Opened earlier sent →
    frameOf (.readBinary offset count) = .ok frame → offset.toNat + count.toNat ≤ file.length →
    card.answer sent frame = .ok (portion file offset.toNat count.toNat ++ [0x90, 0x00])

/-- The loop stands in the file of a message: `received` is behind it, `rest` is in front. -/
structure Place (message received rest : Octets) (length offset : UInt16) : Prop where
  fits : message.length ≤ 65533
  measured : length.toNat = message.length
  split : message = received ++ rest
  placed : offset.toNat = 2 + received.length

def Fetch.places (fetch : Fetch) : List Nat := List.range' fetch.offset.toNat fetch.count.toNat

variable {message received rest : Octets} {card : Card} {earlier sent : List Octets}
  {length offset : UInt16} {fetch : Fetch} {fetches : List Fetch} {result : Except Fault Octets}

theorem length_ndefFileOf (message : Octets) :
    (ndefFileOf message).length = 2 + message.length := by
  rw [ndefFileOf, List.length_append, Octets.length_ofU16]

theorem portion_ndefFileOf (received rest : Octets) (count : Nat) :
    portion (ndefFileOf (received ++ rest)) (2 + received.length) count = rest.take count := by
  rw [portion, ndefFileOf, ← List.drop_drop, List.drop_left' (Octets.length_ofU16 _),
    List.drop_left]

theorem messageLength_portion (message : Octets) :
    messageLength (portion (ndefFileOf message) 0 2) = UInt16.ofNat message.length :=
  Octets.toU16_ofU16 _

theorem Place.toNat_length (place : Place message received rest length offset) :
    length.toNat = received.length + rest.length := by
  rw [place.measured, place.split, List.length_append]

/-- In front of the message the loop stands behind the length field. -/
theorem Place.start (fits : message.length ≤ 65533) :
    Place message [] message (UInt16.ofNat message.length) messageOffset where
  fits := fits
  measured := UInt16.toNat_ofNat_of_lt' (Nat.lt_of_le_of_lt fits (by decide))
  split := rfl
  placed := rfl

theorem Holds.serves {file : Octets} (holds : Holds card earlier file) : Serves card earlier file where
  reads := holds.reads

/-- A fetch brings the front of what is still to come. -/
theorem Fetch.Made.data_eq (made : fetch.Made card sent length offset received)
    (due : fetch.Due length received) (left : length.toNat = received.length + rest.length)
    (serves : Serves card earlier (ndefFileOf (received ++ rest))) (opened : Opened earlier sent) :
    fetch.answer = .ok (fetch.data ++ [0x90, 0x00]) ∧
      fetch.data = rest.take fetch.count.toNat := by
  have missing := due.missing
  have count := due.count
  have inside : fetch.offset.toNat + fetch.count.toNat ≤ (ndefFileOf (received ++ rest)).length := by
    rw [due.offset, length_ndefFileOf, List.length_append]
    omega
  have answered : fetch.answer = .ok (rest.take fetch.count.toNat ++ [0x90, 0x00]) := by
    rw [made.answer_eq, serves.reads opened fetch.framed inside, due.offset, portion_ndefFileOf]
  have brought := Fetch.data_of_outcome (taken_eq_ok.mpr answered)
  exact ⟨by rw [answered, brought], brought⟩

/-- In front of the end of the message the loop moves on behind what a fetch brings. -/
theorem Fetch.Made.brings (made : fetch.Made card sent length offset received)
    (place : Place message received rest length offset)
    (holds : Holds card earlier (ndefFileOf message)) (opened : Opened earlier sent) :
    fetch.Advances ∧ fetch.data = rest.take fetch.count.toNat := by
  have due := made.due place.placed
  have missing := due.missing
  have count := due.count
  have least := due.least
  have left := place.toNat_length
  have fits := place.fits
  have measured := place.measured
  obtain ⟨success, brought⟩ := made.data_eq due left (place.split ▸ holds.serves) opened
  refine ⟨⟨success, ?_, ?_⟩, brought⟩
  · rw [brought, ← List.length_pos_iff, List.length_take]
    omega
  · rw [brought, List.length_take, due.offset]
    omega

theorem Place.next (place : Place message received rest length offset)
    (due : fetch.Due length received) (advances : fetch.Advances)
    (data : fetch.data = rest.take fetch.count.toNat) :
    Place message (received ++ fetch.data) (rest.drop fetch.count.toNat) length
      (fetch.offset + UInt16.ofNat fetch.data.length) where
  fits := place.fits
  measured := place.measured
  split := by rw [data, List.append_assoc, List.take_append_drop, place.split]
  placed := by rw [advances.toNat_offset, due.offset, Nat.add_assoc, List.length_append]

/-- From where it stands the loop takes the rest of the message: in as many reads as there are
pieces of 255 octets in it, and each place of it once. -/
theorem Fetched.message_eq
    (fetched : Fetched card length sent offset received fetches result)
    (place : Place message received rest length offset)
    (holds : Holds card earlier (ndefFileOf message)) (opened : Opened earlier sent) :
    result = .ok message ∧ fetches.length = (rest.length + 254) / 255 ∧
      fetches.flatMap Fetch.places = List.range' (2 + received.length) rest.length := by
  -- on the run of the loop, with the rest growing shorter
  induction fetched generalizing rest with
  | enough reached =>
    have left := place.toNat_length
    obtain rfl : rest = [] := List.length_eq_zero_iff.mp (by omega)
    rw [place.split, List.append_nil]
    exact ⟨rfl, rfl, rfl⟩
  | last made ends => exact absurd ends (made.brings place holds opened).1.not_ends
  | @more _ _ received fetch _ _ made advances later ih =>
    have due := made.due place.placed
    have data := (made.brings place holds opened).2
    have missing := due.missing
    have count := due.count
    have left := place.toNat_length
    obtain ⟨whole, number, places⟩ :=
      ih (place.next due advances data) (opened.read fetch.framed)
    rw [List.length_drop] at number places
    refine ⟨whole, ?_, ?_⟩
    · rw [List.length_cons, number]
      omega
    · have size : fetch.data.length = fetch.count.toNat := by
        rw [data, List.length_take]
        omega
      rw [List.flatMap_cons, places, Fetch.places, due.offset, List.length_append, size,
        ← Nat.add_assoc, List.range'_append_1]
      congr 1
      omega

/-- What a card answers that holds one file: an order it knows not, a file it has not, and a read
before the file was selected it turns down. -/
def answerOf (file : Octets) (selected : Bool) : Option Instruction → Answer
  | some (.selectFile fid) => .ok (if fid = ndefFile then [0x90, 0x00] else [0x6A, 0x82])
  | some (.readBinary offset count) =>
    .ok (if selected then portion file offset.toNat count.toNat ++ [0x90, 0x00] else [0x69, 0x86])
  | _ => .ok [0x6D, 0x00]

def cardOf (file : Octets) : Card where
  activation := .ok []
  answer earlier frame :=
    answerOf file (earlier.any (Instruction.ofFrame? · = some (.selectFile ndefFile)))
      (Instruction.ofFrame? frame)

theorem Opened.selected (opened : Opened earlier sent) :
    sent.any (Instruction.ofFrame? · = some (.selectFile ndefFile)) = true := by
  induction opened with
  | select framed =>
    have order := Instruction.ofFrame?_of_octets framed
    rw [List.any_cons, order]
    rfl
  | read opened framed ih => rw [List.any_cons, ih, Bool.or_true]

theorem holds_cardOf (earlier : List Octets) (file : Octets) :
    Holds (cardOf file) earlier file where
  selects := by
    intro frame framed
    have order := Instruction.ofFrame?_of_octets framed
    show answerOf file _ (Instruction.ofFrame? frame) = _
    rw [order]
    rfl
  reads := by
    intro sent offset count frame opened framed inside
    have order := Instruction.ofFrame?_of_octets framed
    show answerOf file _ (Instruction.ofFrame? frame) = _
    rw [order, opened.selected]
    rfl

/-- The NDEF file of a message is read from a card that holds it: the file is selected, its length
field is read, and then the message, in as many reads as it has pieces of 255 octets. Their ranges
follow each other from the octet behind the length field to the last. What comes of it is what
comes of decoding the message. -/
theorem readNdef_of_holds (fits : message.length ≤ 65533)
    (holds : Holds card earlier (ndefFileOf message)) :
    ∃ (fetches : List Fetch) (frames : List Octets),
      readNdef.run.run card earlier =
        ((Message.decode .builtIn message).mapError .library, frames) ∧
      frames.map .ok = (opening ++ fetches.map Fetch.order).map frameOf ∧
      fetches.length = (message.length + 254) / 255 ∧
      fetches.flatMap Fetch.places = List.range' 2 message.length := by
  obtain ⟨select, measure, selects, measures⟩ := exists_opening_frames
  have opened : Opened earlier (measure :: select :: earlier) := .read (.select selects) measures
  have selected : taken Ins.select (card.answer earlier select) = .ok [] :=
    taken_eq_ok.mpr (holds.selects selects)
  have long : 2 ≤ (ndefFileOf message).length := by
    rw [length_ndefFileOf]
    exact Nat.le_add_right 2 _
  have field := holds.reads (.select selects) measures long
  obtain ⟨fetches, result, fetched, ran⟩ := exists_fetched card (UInt16.ofNat message.length)
    (measure :: select :: earlier) messageOffset []
  obtain ⟨rfl, number, places⟩ := fetched.message_eq (.start fits) holds opened
  rw [← messageLength_portion] at ran
  refine ⟨fetches, _, run_readNdef selects measures selected (taken_eq_ok.mpr field) ran, ?_,
    number, places⟩
  rw [List.map_append, frameOf_orders, map_frameOf_opening selects measures]
  rfl

/-- A message as long as can be: offsets reach its last octet and no further. -/
def longMessage : Octets := List.replicate 65533 0xFF

theorem length_longMessage : longMessage.length = 65533 := List.length_replicate

theorem readNdef_longMessage : longMessage.length ≤ 65533 ∧
    Holds (cardOf (ndefFileOf longMessage)) [] (ndefFileOf longMessage) ∧
    ∃ (fetches : List Fetch) (frames : List Octets),
      readNdef.run.run (cardOf (ndefFileOf longMessage)) [] =
        ((Message.decode .builtIn longMessage).mapError .library, frames) ∧
      frames.map .ok = (opening ++ fetches.map Fetch.order).map frameOf ∧
      fetches.length = 257 ∧
      fetches.flatMap Fetch.places = List.range' 2 65533 := by
  have fits : longMessage.length ≤ 65533 := Nat.le_of_eq length_longMessage
  have holds := holds_cardOf [] (ndefFileOf longMessage)
  have read := readNdef_of_holds fits holds
  rw [length_longMessage] at read
  exact ⟨fits, holds, read⟩

end BridgeTag.CommandLine
