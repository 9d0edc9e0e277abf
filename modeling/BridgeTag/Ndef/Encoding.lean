import BridgeTag.Ndef.Record.Access

/-! Records and messages as octets. A message is its records' frames one after the other, the
first marked as beginning it and the last as ending it. -/
namespace BridgeTag.Ndef

namespace Message

/-- Stands for a message without records: one empty record that begins and ends it. -/
def empty : Octets := [0xD0, 0x00, 0x00]

def chain (begins : Bool) : List Frame → Octets
  | [] => []
  | [frame] => frame.octets begins true
  | frame :: frames => frame.octets begins false ++ chain false frames

def octets (frames : List Frame) : Octets :=
  if frames.isEmpty then empty else chain true frames

end Message

mutual

def RecordBody.encode : RecordBody → Except Failure Octets
  | .uri uri => .ok uri.encode
  | .handoverSelect ⟨major, minor, records⟩ =>
    if HandoverSelect.valid ⟨major, minor, records⟩ then
      match Record.frames records with
      | .ok frames => .ok (UInt8.ofNat (16 * major.toNat + minor.toNat) :: Message.chain true frames)
      | .error failure => .error failure
    else .error ⟨.recordType, "encode", .illegalArgument⟩
  | .alternativeCarrier carrier => carrier.encode
  | .error error => .ok error.encode
  | .external external => external.encode
  | .brandProtection certificate => certificate.encode
  | .generic payload => .ok payload

/-- The frame that holds a record; type and identifier are judged before the body. -/
def Record.frame : Record → Except Failure Frame
  | ⟨tnf, type, id, body⟩ =>
    if type.length > 255 || id.length > 255 then .error ⟨.record, "encode", .illegalArgument⟩
    else match body.encode with
      | .ok payload =>
        if payload.length > 4294967295 then .error ⟨.record, "encode", .illegalArgument⟩
        else .ok ⟨tnf, type, id, payload⟩
      | .error failure => .error failure

def Record.frames : List Record → Except Failure (List Frame)
  | [] => .ok []
  | record :: records =>
    match record.frame with
    | .error failure => .error failure
    | .ok frame =>
      match Record.frames records with
      | .ok frames => .ok (frame :: frames)
      | .error failure => .error failure

end

/-- A record on its own, neither beginning nor ending a message. -/
def Record.encode (record : Record) : Except Failure Octets :=
  match record.frame with
  | .ok frame => .ok (frame.octets false false)
  | .error failure => .error failure

/-- A message of the records in their order. For its octets there is always room. -/
def Message.encode (records : List Record) : Except Failure Octets :=
  match Record.frames records with
  | .ok frames => .ok (octets frames)
  | .error failure => .error failure

end BridgeTag.Ndef
