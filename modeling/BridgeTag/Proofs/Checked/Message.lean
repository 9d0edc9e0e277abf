import BridgeTag.Proofs.Checked.Body

/-! Records and messages read with every access checked. The rounds of the loop over a message are
counted, and so is how deep messages go inside one another; both stay below what the octets allow. -/
namespace BridgeTag.Ndef

open Cursor Checked

namespace Frame

def checkedPayloadLength (machine : Machine) (short : Bool) : Step Nat := do
  if short then return (← octet machine).toNat else return (← u32 machine).toNat

def checkedIdLength (machine : Machine) (identified : Bool) : Step Nat := do
  if identified then return (← octet machine).toNat else return 0

def checkedRead (machine : Machine) : Step Frame := do
  let header := Header.ofOctet (← octet machine)
  require (!header.chunked)
  let typeLength ← octet machine
  let payloadLength ← checkedPayloadLength machine header.short
  let idLength ← checkedIdLength machine header.identified
  let type ← take machine typeLength.toNat
  let id ← take machine idLength
  let payload ← take machine payloadLength
  return ⟨header.tnf, type, id, payload⟩

variable {machine : Machine} {octets : Octets} {frame : Frame} {after : Reader}

theorem inStep_checkedPayloadLength (holds : machine.Holds octets.length) (short : Bool) :
    InStep octets (checkedPayloadLength machine short) (readPayloadLength short) := by
  cases short with
  | true =>
    apply inStep_bind (inStep_octet holds)
    intro length _ _ _
    exact inStep_pure _
  | false =>
    apply inStep_bind (inStep_u32 holds)
    intro length _ _ _
    exact inStep_pure _

theorem inStep_checkedIdLength (holds : machine.Holds octets.length) (identified : Bool) :
    InStep octets (checkedIdLength machine identified) (readIdLength identified) := by
  cases identified with
  | true =>
    apply inStep_bind (inStep_octet holds)
    intro length _ _ _
    exact inStep_pure _
  | false => exact inStep_pure _

theorem inStep_checkedRead (holds : machine.Holds octets.length) :
    InStep octets (checkedRead machine) read := by
  apply inStep_bind (inStep_octet holds)
  intro first _ _ _
  apply inStep_bind (inStep_require _)
  intro _ _ _ _
  apply inStep_bind (inStep_octet holds)
  intro typeLength _ _ _
  apply inStep_bind (inStep_checkedPayloadLength holds _)
  intro payloadLength _ _ payloadFound
  apply inStep_bind (inStep_checkedIdLength holds _)
  intro idLength _ _ idFound
  have typeSmall := typeLength.toNat_lt
  have payloadSmall := (readPayloadLength_eq_some.mp payloadFound).1
  have idSmall := (readIdLength_eq_some.mp idFound).1
  apply inStep_bind (inStep_take holds (by omega))
  intro type _ _ _
  apply inStep_bind (inStep_take holds (by split at idSmall <;> omega))
  intro id _ _ _
  apply inStep_bind (inStep_take holds (by split at payloadSmall <;> omega))
  intro payload _ _ _
  exact inStep_pure _

/-- Where a frame is read the reader has passed it, three octets and its payload at least. -/
theorem read_ofOctets (found : read (Reader.ofOctets octets) = (some frame, after)) :
    frame.payload.length ≤ 4294967295 ∧ frame.payload.length + 3 ≤ after.position ∧
      after.position ≤ octets.length ∧ after.rest = octets.drop after.position := by
  obtain ⟨header, fits, rest, position⟩ := read_eq_some.mp found
  have payload := fits.payload
  have longer := frame.payload_le_spelling header
  simp only [Reader.ofOctets_rest, Reader.ofOctets_position, Nat.zero_add] at rest position
  subst rest
  simp only [position, List.length_append, List.drop_left, and_true]
  split at payload <;> omega

end Frame

/-- Unframes the record at the start of an octet string and decodes its payload. A message inside
has to be four octets shorter. -/
def Record.checkedDecode (machine : Machine) (kinds : Kinds)
    (nested : Octets → Checked (List Record)) (octets : Octets) : Checked (Record × Nat) := do
  let (frame, cursor) ← (ofOctets octets).need (Frame.checkedRead machine)
    (.failed ⟨.record, "decode", .invalidMessage⟩)
  let body ← (kinds.kind frame.tnf frame.type).checkedDecode machine
    (fun message => if message.length + 4 ≤ octets.length then nested message
      else .error .nesting) frame.payload
  return (⟨frame.tnf, frame.type, frame.id, body⟩, cursor.position)

namespace Message

def spoiled : Halt := .failed ⟨.message, "decode", .invalidMessage⟩

/-- The records from an offset on, in no more rounds than are allowed. -/
def checkedUnchain (machine : Machine) (record : Octets → Checked (Record × Nat))
    (octets : Octets) (offset : Nat) (done : List Record) : (rounds : Nat) → Checked (List Record)
  | 0 => .error .rounds
  | rounds + 1 => do
    let header := Header.ofOctet (← expect octets[offset]? spoiled)
    if header.begins != decide (offset = 0) then .error spoiled
    else
      let (found, taken) ← record (← back octets offset)
      let offset ← place octets.length (← sum machine offset taken)
      if header.ends then
        if offset = octets.length then return (found :: done).reverse else .error spoiled
      else checkedUnchain machine record octets offset (found :: done) rounds

def checkedDecodeWith (machine : Machine) (kinds : Kinds) (nested : Octets → Checked (List Record))
    (octets : Octets) : Checked (List Record) :=
  if octets = empty then .ok []
  else checkedUnchain machine (Record.checkedDecode machine kinds nested) octets 0 []
    (octets.length / 3 + 1)

/-- The records of a message with messages inside one another no deeper than is allowed. -/
def checkedDecode (machine : Machine) (kinds : Kinds) :
    (depth : Nat) → Octets → Checked (List Record)
  | 0 => checkedDecodeWith machine kinds fun _ => .error .nesting
  | depth + 1 => checkedDecodeWith machine kinds (checkedDecode machine kinds depth)

end Message

variable {machine : Machine} {kinds : Kinds} {nested : Octets → Checked (List Record)}
  {registry : Registry} {octets : Octets}

/-- No access leaves its bounds, and messages inside are decoded only where they are shorter. -/
theorem Record.checkedDecode_eq (holds : machine.Holds octets.length)
    (inner : ∀ message, message.length + 4 ≤ octets.length →
      nested message = of (Message.decode (.ofKinds kinds) message)) :
    checkedDecode machine kinds nested octets = of (decode (.ofKinds kinds) octets) := by
  have inStep := Frame.inStep_checkedRead holds
  have start := stands_ofOctets octets
  cases found : Frame.read (Reader.ofOctets octets) with
  | mk value after =>
    cases value with
    | none =>
      have unread := congrArg Prod.fst found
      have short := need_of_none inStep start unread
      simp only [checkedDecode, short, decode, decodeWith_unread unread]
      rfl
    | some frame =>
      obtain ⟨size, taken, whole, _⟩ := Frame.read_ofOctets found
      obtain ⟨cursor, needed, stands⟩ := need_of_some inStep start found
        (.failed ⟨.record, "decode", .invalidMessage⟩)
      have holds' : machine.Holds frame.payload.length := holds.mono (by omega)
      have body (kind : BodyKind) : kind.checkedDecode machine
          (fun message => if message.length + 4 ≤ octets.length then nested message
            else .error .nesting) frame.payload =
          of (kind.decoder frame.payload fun message _ =>
            Message.decode (.ofKinds kinds) message) := by
        apply BodyKind.checkedDecode_eq holds' size
        intro message shorter
        have fits : message.length + 4 ≤ octets.length := by omega
        simp only [fits, if_true, inner message fits]
      simp only [checkedDecode, needed, ok_bind, body, decode, decodeWith_read found, Frame.record,
        Registry.retrieve_ofKinds, ← stands.position]
      cases (kinds.kind frame.tnf frame.type).decoder frame.payload fun message _ =>
        Message.decode (.ofKinds kinds) message <;> rfl

namespace Message

/-- One record of the loop, and how many octets the loop goes on. -/
theorem unchain_record (first : UInt8) (rest : Octets) (begins : Bool) (done : List Record) :
    unchain registry begins (first :: rest) done =
      if (Header.ofOctet first).begins != begins then .error ⟨.message, "decode", .invalidMessage⟩
      else match Record.decode registry (first :: rest) with
        | .error failure => .error failure
        | .ok (record, taken) =>
          if (Header.ofOctet first).ends then
            if (first :: rest).length ≤ taken then .ok (record :: done).reverse
            else .error ⟨.message, "decode", .invalidMessage⟩
          else unchain registry false ((first :: rest).drop taken) (record :: done) := by
  simp only [unchain_cons, Record.decode]
  cases found : Frame.read (Reader.ofOctets (first :: rest)) with
  | mk value after =>
    cases value with
    | none => simp only [Record.decodeWith_unread (congrArg Prod.fst found)]
    | some frame =>
      obtain ⟨_, _, _, left⟩ := Frame.read_ofOctets found
      simp only [Record.decodeWith_read found]
      cases frame.record registry with
      | error failure => rfl
      | ok record => simp only [left, List.isEmpty_iff, List.drop_eq_nil_iff]

variable {record : Octets → Checked (Record × Nat)} {offset rounds : Nat} {done : List Record}

/-- The loop in step: the offset is where the octets that are left begin, and each round takes it
three octets on at least. -/
theorem checkedUnchain_eq (holds : machine.Holds octets.length)
    (each : ∀ part, part.length ≤ octets.length → record part = of (Record.decode registry part))
    (inside : offset ≤ octets.length) (enough : (octets.drop offset).length < 3 * rounds) :
    checkedUnchain machine record octets offset done rounds =
      of (unchain registry (decide (offset = 0)) (octets.drop offset) done) := by
  induction rounds generalizing offset done with
  | zero => omega
  | succ rounds ih =>
    -- Both loops look at the same octet: one by its offset, the other as the head of what is left.
    have part : back octets offset = .ok (octets.drop offset) := back_of_le inside
    have head : (octets.drop offset)[0]? = octets[offset + 0]? := List.getElem?_drop
    have decoded := each (octets.drop offset) (by simp only [List.length_drop]; omega)
    simp only [Nat.add_zero] at head
    have size : octets.length = offset + (octets.drop offset).length := by
      simp only [List.length_drop]
      omega
    simp only [checkedUnchain, part, ← head, ok_bind, decoded]
    cases left : octets.drop offset with
    | nil =>
      simp only [List.getElem?_nil, expect_none, error_bind, unchain_nil]
      rfl
    | cons first rest =>
      simp only [left] at size enough
      simp only [List.getElem?_cons_zero, expect_some, ok_bind, unchain_record]
      split
      next => rfl
      next =>
        cases found : Record.decode registry (first :: rest) with
        | error failure => rfl
        | ok result =>
          obtain ⟨next, taken⟩ := result
          obtain ⟨three, fits⟩ := Record.taken_of_decode found
          have held := holds.inside
          have sum : sum machine offset taken = .ok (offset + taken) := sum_of_lt (by omega)
          have place : place octets.length (offset + taken) = .ok (offset + taken) :=
            place_of_le (by omega)
          have later : (first :: rest).drop taken = octets.drop (offset + taken) := by
            simp only [← left, List.drop_drop]
          -- Only the first record begins at offset zero, so the mark is judged alike ever after.
          have further : decide (offset + taken = 0) = false := by simp; omega
          have whole : (first :: rest).length ≤ taken ↔ offset + taken = octets.length := by omega
          simp only [of_ok, ok_bind, sum, place, later, whole]
          split
          next => split <;> rfl
          next =>
            have rest : checkedUnchain machine record octets (offset + taken) (next :: done)
                rounds = _ :=
              ih (by omega) (by simp only [← later, List.length_drop]; omega)
            simp only [rest, further]

theorem checkedDecodeWith_eq (holds : machine.Holds octets.length)
    (inner : ∀ message, message.length + 4 ≤ octets.length →
      nested message = of (decode (.ofKinds kinds) message)) :
    checkedDecodeWith machine kinds nested octets = of (decode (.ofKinds kinds) octets) := by
  have each (part : Octets) (shorter : part.length ≤ octets.length) :
      Record.checkedDecode machine kinds nested part = of (Record.decode (.ofKinds kinds) part) := by
    apply Record.checkedDecode_eq (holds.mono shorter)
    intro message fits
    exact inner message (by omega)
  have loop : checkedUnchain machine (Record.checkedDecode machine kinds nested) octets 0 []
      (octets.length / 3 + 1) = of (unchain (.ofKinds kinds) true octets []) :=
    checkedUnchain_eq holds each (Nat.zero_le _) (by simp only [List.drop_zero]; omega)
  simp only [checkedDecodeWith, decode]
  split
  next => rfl
  next => exact loop

/-- No access leaves its bounds, and messages inside one another go a quarter of the octets deep at
most: each is shorter by four octets than the one around it. -/
theorem checkedDecode_eq {depth : Nat} (holds : machine.Holds octets.length)
    (deep : octets.length < 4 * (depth + 1)) :
    checkedDecode machine kinds depth octets = of (decode (.ofKinds kinds) octets) := by
  induction depth generalizing octets with
  | zero =>
    apply checkedDecodeWith_eq holds
    intro message shorter
    omega
  | succ depth ih =>
    apply checkedDecodeWith_eq holds
    intro message shorter
    exact ih (holds.mono (by omega)) (by omega)
end Message
end BridgeTag.Ndef
