import BridgeTag.Proofs.CommandLine.NdefFile

/-! NDEF files that offsets do not reach to the end. An offset reaches the octet at 65535, but
behind every read, the last one too, the loop works out the next offset, and no word holds the one
that follows 65535. So a file is turned down as too large from 65534 octets of message on, although
the file of just as many still ends inside the offsets. -/
namespace BridgeTag.CommandLine

open Applet Ndef

variable {message received rest : Octets} {card : Card} {earlier sent : List Octets}
  {length offset : UInt16} {fetches : List Fetch} {result : Except Fault Octets}

/-- A message is fetched whole as long as an offset leads behind its end. -/
theorem Fetched.eq_of_serves (fetched : Fetched card length sent offset received fetches result)
    (measured : length.toNat = message.length) (split : message = received ++ rest)
    (placed : offset.toNat = 2 + received.length) (serves : Serves card earlier (ndefFileOf message))
    (opened : Opened earlier sent) :
    result = if message.length ≤ 65533 then .ok message else .error .fileTooLarge := by
  -- on the run of the loop, with the rest growing shorter
  induction fetched generalizing rest with
  | @enough _ offset received reached =>
    subst split
    have reaches := offset.toNat_lt
    simp only [List.length_append] at measured
    obtain rfl : rest = [] := List.length_eq_zero_iff.mp (by omega)
    simp only [List.append_nil]
    exact (if_pos (by omega)).symm
  | @last _ _ received fetch _ made ends =>
    subst split
    simp only [List.length_append] at measured
    have due := made.due placed
    have missing := due.missing
    have count := due.count
    have start := due.offset
    obtain ⟨success, data⟩ := made.data_eq due measured serves opened
    have size : fetch.data.length = fetch.count.toNat := by
      simp only [data, List.length_take]
      omega
    cases ends with
    | failed refused => exact absurd success (ne_success_of_taken refused _)
    | nothing none =>
      have empty : fetch.data = [] := by simpa [none] using success
      simp only [empty, List.length_nil] at size
      omega
    | beyond _ far =>
      apply (if_neg _).symm
      simp only [List.length_append]
      omega
  | @more _ _ received fetch _ _ made advances later ih =>
    subst split
    have due := made.due placed
    simp only [List.length_append] at measured
    have data := (made.data_eq due measured serves opened).2
    refine @ih (rest.drop fetch.count.toNat) ?_ ?_ (opened.read fetch.framed)
    · simp only [data, List.append_assoc, List.take_append_drop]
    · simp only [advances.toNat_offset, due.offset, List.length_append, Nat.add_assoc]

/-- Once the file is selected, what comes of it is decided by the length of its message. -/
theorem run_readNdef_of_serves {select selected : Octets} (fits : message.length ≤ 65535)
    (selects : frameOf (.selectFile ndefFile) = .ok select)
    (success : card.answer earlier select = .ok (selected ++ [0x90, 0x00]))
    (serves : Serves card earlier (ndefFileOf message)) :
    (readNdef.run.run card earlier).1 =
      if message.length ≤ 65533 then decodeMessage message else .error .fileTooLarge := by
  obtain ⟨_, measure, _, measures⟩ := exists_opening_frames
  have opened : Opened earlier (measure :: select :: earlier) := .read (.select selects) measures
  have long : 2 ≤ (ndefFileOf message).length := by
    simp only [length_ndefFileOf]
    omega
  have field := serves.reads (.select selects) measures long
  obtain ⟨fetches, result, fetched, ran⟩ := exists_fetched card (UInt16.ofNat message.length)
    (measure :: select :: earlier) messageOffset []
  have measured : (UInt16.ofNat message.length).toNat = message.length :=
    UInt16.toNat_ofNat_of_lt' (Nat.lt_of_le_of_lt fits (by decide))
  have fetchedAs := fetched.eq_of_serves measured rfl rfl serves opened
  rw [← messageLength_portion] at ran
  have reads := run_readNdef selects measures (taken_eq_ok.mpr success) (taken_eq_ok.mpr field) ran
  simp only [reads, fetchedAs]
  split <;> rfl

theorem taken_ne_fileTooLarge (ins : UInt8) (answer : Answer) :
    taken ins answer ≠ .error .fileTooLarge := by
  unfold taken accepted
  cases Request.received answer with
  | error failure => simp
  | ok response =>
    dsimp only
    split <;> simp

theorem decodeMessage_ne_fileTooLarge (octets : Octets) :
    decodeMessage octets ≠ .error .fileTooLarge := by
  unfold decodeMessage
  cases Message.decode .builtIn octets <;> nofun

/-- One URI record, as long as a file can hold that ends at the last offset. -/
def edgeMessage : Octets :=
  [0xC1, 0x01, 0x00, 0x00, 0xFF, 0xF7, 0x55, 0x00] ++ List.replicate 65526 0x61

theorem length_edgeMessage : edgeMessage.length = 65534 := by
  simp only [edgeMessage, List.length_append, List.length_replicate]
  rfl

/-- The last octet of the file stands at offset 65535, and yet the file is turned down. -/
theorem readNdef_edgeMessage : (ndefFileOf edgeMessage).length = 65535 + 1 ∧
    Serves (cardOf (ndefFileOf edgeMessage)) [] (ndefFileOf edgeMessage) ∧
    (readNdef.run.run (cardOf (ndefFileOf edgeMessage)) []).1 = .error .fileTooLarge := by
  obtain ⟨select, _, selects, _⟩ := exists_opening_frames
  have holds := holds_cardOf [] (ndefFileOf edgeMessage)
  have size := length_edgeMessage
  refine ⟨?_, holds.serves, ?_⟩
  · simp only [length_ndefFileOf, size]
  · have success : (cardOf (ndefFileOf edgeMessage)).answer [] select = .ok ([] ++ [0x90, 0x00]) :=
      holds.selects selects
    simp only [run_readNdef_of_serves (by omega) selects success holds.serves]
    exact if_neg (by omega)

/-- An NDEF file is turned down as too large exactly if the card lets it be selected and its message
has 65534 octets or more, whether or not an octet of it lies beyond the last offset. -/
theorem readNdef_eq_fileTooLarge_iff (fits : message.length ≤ 65535)
    (serves : Serves card earlier (ndefFileOf message)) :
    (readNdef.run.run card earlier).1 = .error .fileTooLarge ↔
      65534 ≤ message.length ∧ ∃ select selected, frameOf (.selectFile ndefFile) = .ok select ∧
        card.answer earlier select = .ok (selected ++ [0x90, 0x00]) := by
  obtain ⟨select, _, selects, _⟩ := exists_opening_frames
  cases first : taken Ins.select (card.answer earlier select) with
  | ok selected =>
    have success := taken_eq_ok.mp first
    simp only [run_readNdef_of_serves fits selects success serves]
    constructor
    · intro large
      split at large
      next => exact absurd large (decodeMessage_ne_fileTooLarge message)
      next far => exact ⟨by omega, select, selected, selects, success⟩
    · intro large
      exact if_neg (by omega)
  | error fault =>
    have refused := run_perform selects Ins.select card earlier
    rw [first] at refused
    have ended : readNdef.run.run card earlier = (.error fault, [select]) := run_bind_error refused
    simp only [ended]
    constructor
    · intro large
      cases large
      exact absurd first (taken_ne_fileTooLarge _ _)
    · intro large
      obtain ⟨_, select', selected, selects', success⟩ := large
      cases selects.symm.trans selects'
      exact absurd success (ne_success_of_taken first selected)

/-- The longest message that is fetched whole. -/
theorem readNdef_longMessage_fits : longMessage.length ≤ 65535 ∧
    Serves (cardOf (ndefFileOf longMessage)) [] (ndefFileOf longMessage) ∧
    (readNdef.run.run (cardOf (ndefFileOf longMessage)) []).1 ≠ .error .fileTooLarge := by
  have size := length_longMessage
  have fits : longMessage.length ≤ 65535 := by omega
  have serves := (holds_cardOf [] (ndefFileOf longMessage)).serves
  refine ⟨fits, serves, ?_⟩
  intro large
  have far := ((readNdef_eq_fileTooLarge_iff fits serves).mp large).1
  omega

end BridgeTag.CommandLine
