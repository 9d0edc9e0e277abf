import BridgeTag.Failure
import BridgeTag.Octets

/-! URI records: a code that abbreviates a common beginning, then the rest of the URI. -/
namespace BridgeTag.Ndef

/-- A URI without the beginning that its code stands for. -/
structure Uri where
  code : UInt8
  rest : String
deriving Repr, DecidableEq

namespace Uri

def type : Octets := [0x55] -- U

/-- The beginnings that codes abbreviate, in the order of their codes. -/
def stems : List String :=
  ["", "http://www.", "https://www.", "http://", "https://", "tel:", "mailto:",
    "ftp://anonymous:anonymous@", "ftp://ftp.", "ftps://", "sftp://", "smb://", "nfs://",
    "ftp://", "dav://", "news:", "telnet://", "imap:", "rtsp://", "urn:", "pop:", "sip:",
    "sips:", "tftp:", "btspp://", "btl2cap://", "btgoep://", "tcpobex://", "irdaobex://",
    "file://", "urn:epc:id:", "urn:epc:tag:", "urn:epc:pat:", "urn:epc:raw:", "urn:epc:",
    "urn:nfc:"]

/-- What a code stands for; a reserved code stands for nothing. -/
def stem (code : UInt8) : String := stems[code.toNat]?.getD ""

def longer (text : List Char) (best candidate : String × Nat) : String × Nat :=
  if candidate.1.toList.isPrefixOf text && best.1.length < candidate.1.length then candidate
  else best

/-- Takes off the longest beginning that has a code. -/
def ofText (text : String) : Uri :=
  let chars := text.toList
  let (stem, code) := stems.zipIdx.foldl (longer chars) ("", 0)
  ⟨UInt8.ofNat code, String.ofList (chars.drop stem.length)⟩

def toText (uri : Uri) : String := stem uri.code ++ uri.rest

def encode (uri : Uri) : Octets := uri.code :: uri.rest.toUTF8.data.toList

/-- Refuses octets that are not well-formed UTF-8. -/
def decode : Octets → Except Failure Uri
  | [] => .error ⟨.recordType, "decode", .illegalArgument⟩
  | code :: rest =>
    match String.fromUTF8? ⟨rest.toArray⟩ with
    | some text => .ok ⟨code, text⟩
    | none => .error ⟨.recordType, "decode", .illegalArgument⟩

end Uri
end BridgeTag.Ndef
