import BridgeTag.Ndef.Encoding
import BridgeTag.Ndef.Registry

/-! Octets as records and messages. The first record of a message, and no other, is marked as
beginning it; the last, and no other, as ending it; nothing follows. Decoding ends because every
record is longer than the messages inside it and shorter than the message around it. -/
namespace BridgeTag.Ndef

/-- Unframes the record at the start of an octet string and decodes its payload; messages inside
the payload are left to `nested`. Also says where the reader stands after the record. -/
def Record.decodeWith (registry : Registry) (octets : Octets)
    (nested : (message : Octets) → message.length < octets.length →
      Except Failure (List Record)) : Except Failure (Record × Reader) :=
  match found : Frame.read (Reader.ofOctets octets) with
  | (none, _) => .error ⟨.record, "decode", .invalidMessage⟩
  | (some frame, after) =>
    match registry.retrieve frame.tnf frame.type frame.payload fun message le =>
        nested message (by
          have := Frame.read_shrinks found
          simp only [Reader.ofOctets] at this
          omega) with
    | .ok body => .ok (⟨frame.tnf, frame.type, frame.id, body⟩, after)
    | .error failure => .error failure

theorem Record.decodeWith_shrinks {registry : Registry} {octets : Octets}
    {nested : (message : Octets) → message.length < octets.length → Except Failure (List Record)}
    {record : Record} {after : Reader}
    (found : decodeWith registry octets nested = .ok (record, after)) :
    after.rest.length < octets.length := by
  unfold decodeWith at found
  split at found
  next => cases found
  next frame reader read =>
    split at found
    next body _ =>
      cases found
      have := Frame.read_shrinks read
      simp only [Reader.ofOctets] at this
      omega
    next => cases found

mutual

def Message.decode (registry : Registry) (octets : Octets) : Except Failure (List Record) :=
  if octets = Message.empty then .ok [] else Message.unchain registry true octets []
termination_by (octets.length, 1)

/-- The records up to the one that ends the message; `done` holds those before, last first. -/
def Message.unchain (registry : Registry) (begins : Bool) (octets : Octets)
    (done : List Record) : Except Failure (List Record) :=
  match octets with
  | [] => .error ⟨.message, "decode", .invalidMessage⟩
  | first :: rest =>
    let header := Header.ofOctet first
    if header.begins != begins then .error ⟨.message, "decode", .invalidMessage⟩
    else match found : Record.decodeWith registry (first :: rest) fun message _ =>
        Message.decode registry message with
      | .error failure => .error failure
      | .ok (record, after) =>
        have _shorter := Record.decodeWith_shrinks found
        if header.ends then
          if after.rest.isEmpty then .ok (record :: done).reverse
          else .error ⟨.message, "decode", .invalidMessage⟩
        else Message.unchain registry false after.rest (record :: done)
termination_by (octets.length, 0)
decreasing_by all_goals exact Prod.Lex.left _ _ (by assumption)

end

/-- The record at the start of an octet string, and how many octets it takes. -/
def Record.decode (registry : Registry) (octets : Octets) : Except Failure (Record × Nat) :=
  match Record.decodeWith registry octets fun message _ => Message.decode registry message with
  | .ok (record, after) => .ok (record, after.position)
  | .error failure => .error failure

end BridgeTag.Ndef
