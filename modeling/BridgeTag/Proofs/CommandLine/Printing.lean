import BridgeTag.Proofs.CommandLine.Writing
import BridgeTag.Proofs.Hex
import BridgeTag.Proofs.Ndef.Abbreviating
import BridgeTag.Proofs.Ndef.RoundTrip

/-! What is printed for a URI: a message that holds it and nothing else, in digits that spell the
message. Who decodes them gets the URI back. -/
namespace BridgeTag

namespace Ndef

variable {uri : Uri}

theorem Record.frame_ofUri (small : uri.rest.utf8ByteSize < 4294967295) :
    (Record.ofUri uri).frame = .ok ⟨.wellKnown, Uri.type, [], uri.encode⟩ := by
  apply Record.frame_eq_ok.mpr
  have length := Uri.length_encode uri
  refine ⟨rfl, ⟨by simp [Uri.type], by simp, ?_⟩, rfl, rfl, rfl⟩
  dsimp only
  omega

theorem Message.encode_ofUri (small : uri.rest.utf8ByteSize < 4294967295) :
    encode [.ofUri uri] = .ok (octets [⟨.wellKnown, Uri.type, [], uri.encode⟩]) := by
  simp [encode, Record.frames, Record.frame_ofUri small]

theorem Message.decode_ofUri {octets : Octets} (encoded : encode [.ofUri uri] = .ok octets) :
    decode .builtIn octets = .ok [.ofUri uri] := by
  apply decode_of_encode encoded
  · intro record member
    obtain rfl := List.mem_singleton.mp member
    exact Record.consistent_of_flat rfl (by simp [Record.ofUri, RecordBody.kind])
  · simp [Record.ofUri, Record.void]

end Ndef

namespace CommandLine

open Ndef

variable {arguments : List String} {task : Task} {result : Except Fault String} {message : String}
  {octets : Octets} {records : List Record}

/-- A task that is done without the card ends as it ends, whatever the card would answer. -/
theorem run_offline (asked : Invocation.ofArguments arguments = .task task) {typed : List String}
    (alone : (task.output typed).run = .done result) (card : Card) :
    (run arguments typed).run card [] = (.ofResult result, []) := by
  apply run_task asked
  rw [alone]
  rfl

/-- Digits that spell a message print as the records of the message. -/
theorem run_ndefDecode (digits : Hex.decode message = .ok octets)
    (decoded : Message.decode .builtIn octets = .ok records) (typed : List String) :
    ((Task.ndefDecode message).output typed).run = .done (.ok (recordLines records)) := by
  have spelled : (hexData message).run = .done (.ok octets) := by
    rw [run_hexData, digits]
    rfl
  have read : decodeMessage octets = .ok records := by
    rw [decodeMessage, decoded]
    rfl
  unfold Task.output
  dsimp only
  rw [ExceptT.run_bind, spelled]
  show ((liftM (decodeMessage octets) : Job (List Record)) >>= fun found =>
    pure (recordLines found)).run = _
  rw [read]
  rfl

/-- Two dashes keep a URI from being taken for a switch. -/
theorem ofArguments_ndefUri (uri : String) :
    Invocation.ofArguments ["ndef-uri", "--", uri] = .task (.ndefUri uri) := rfl

/-- For a URI of any characters, short enough for the length field of a payload, a message is
printed, and no card is needed; its one record holds the URI; and the digits that were printed are
understood again. -/
theorem uriMessage_decodes {uri : String} (small : uri.utf8ByteSize < 4294967295) :
    ∃ octets, Message.encode [.ofUri (.ofText uri)] = .ok octets ∧
      (∀ arguments typed card, Invocation.ofArguments arguments = .task (.ndefUri uri) →
        (run arguments typed).run card [] = (.printed (hexLine octets), [])) ∧
      Message.decode .builtIn octets = .ok [⟨.wellKnown, [0x55], [], .uri (.ofText uri)⟩] ∧
      (∀ arguments typed card,
        Invocation.ofArguments arguments = .task (.ndefDecode (Hex.encodeUpper octets)) →
          (run arguments typed).run card [] =
            (.printed (recordLines [⟨.wellKnown, [0x55], [], .uri (.ofText uri)⟩]), [])) ∧
      (Uri.ofText uri).toText = uri := by
  have short : (Uri.ofText uri).rest.utf8ByteSize < 4294967295 := by
    have := Uri.utf8ByteSize_rest_le uri
    omega
  have encoded := Message.encode_ofUri short
  have decoded := Message.decode_ofUri encoded
  refine ⟨_, encoded, ?_, decoded, ?_, Uri.toText_ofText uri⟩
  · intro arguments typed card asked
    have printed := run_offline asked (run_ndefUri uri typed) card
    rw [encoded] at printed
    exact printed
  · intro arguments typed card asked
    exact run_offline asked (run_ndefDecode (Hex.decode_encodeUpper _) decoded typed) card

def accented : String := "https://www.example.com/é"

def accentedOctets : Octets := [
  0xD1, 0x01, 0x0F, 0x55, 0x02, 0x65, 0x78, 0x61, 0x6D, 0x70, 0x6C, 0x65, 0x2E, 0x63, 0x6F, 0x6D,
  0x2F, 0xC3, 0xA9]

theorem uriMessage_accented : accented.utf8ByteSize < 4294967295 ∧
    (run ["ndef-uri", "--", accented] []).run (.scripted [] (.ok [])) [] =
      (.printed "D1010F55026578616D706C652E636F6D2FC3A9\n", []) ∧
    Message.decode .builtIn accentedOctets =
      .ok [⟨.wellKnown, [0x55], [], .uri ⟨2, "example.com/é"⟩⟩] := by
  have small : accented.utf8ByteSize < 4294967295 := by decide
  obtain ⟨octets, encoded, printed, decoded, _⟩ := uriMessage_decodes small
  have same : Message.encode [.ofUri (.ofText accented)] = .ok accentedOctets := rfl
  rw [same] at encoded
  cases encoded
  exact ⟨small, printed _ _ _ (ofArguments_ndefUri accented), decoded⟩

end CommandLine
end BridgeTag
