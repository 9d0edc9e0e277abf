import BridgeTag.Applet.Instruction
import BridgeTag.Apdu.Response
import BridgeTag.Card

/-! Requests to the applet: a frame is built, sent once, and answered by a response. A request
that cannot be framed sends nothing. -/
namespace BridgeTag.Applet

open Apdu

inductive Request where
  | instruction (order : Instruction)
  /-- Answers a pass-through request; its frame is no APDU. -/
  | passThroughPut (data : Octets)
  | command (apdu : Command)
  | frame (raw : Octets)
deriving Repr, DecidableEq

namespace Request

/-- Data behind its two-octet length. -/
def passThroughFrame (data : Octets) : Except Failure Octets :=
  if data.isEmpty || data.length > 65535 then
    .error ⟨.command, "pass_through_put_response", .illegalArgument⟩
  else .ok (Octets.ofU16 (UInt16.ofNat data.length) ++ data)

def octets : Request → Except Failure Octets
  | instruction order => do (← order.command).encode
  | passThroughPut data => passThroughFrame data
  | command apdu => apdu.encode
  | frame raw => .ok raw

def received : Answer → Except Failure Response
  | .ok octets => Response.split octets
  | .error words => .error ⟨.protocol, "transceive", .transport words⟩

/-- Sends the frame, once, and waits for its response. -/
def send (request : Request) : Dialogue (Except Failure Response) :=
  match request.octets with
  | .error failure => .done (.error failure)
  | .ok sent => .exchange sent fun answer => .done (received answer)

end Request

def activate (card : Card) : Except Failure Octets :=
  match card.activation with
  | .ok octets => .ok octets
  | .error words => .error ⟨.protocol, "activate", .transport words⟩

end BridgeTag.Applet
