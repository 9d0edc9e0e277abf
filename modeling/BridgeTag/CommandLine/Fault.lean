import BridgeTag.Failure
import BridgeTag.Hex
import BridgeTag.Text.Quoted

/-! Why a task fails, and how that is told: the kind of the fault, and its parts in brackets. -/
namespace BridgeTag.CommandLine

inductive Fault where
  | library (failure : Failure)
  | hex (fault : Hex.Fault)
  /-- A password is not four octets long. -/
  | password
  /-- There is nobody to ask for a password. -/
  | noTerminal
  /-- The card answered with a status word other than success. -/
  | status (sw : UInt16) (text : String)
  /-- The NDEF file goes on where no offset leads. -/
  | fileTooLarge
deriving Repr, DecidableEq

namespace Fault

def record (name : String) (parts : List (String × String)) : String :=
  name ++ " \x7b " ++ ", ".intercalate (parts.map fun (part, text) => part ++ ": " ++ text) ++
    " \x7d"

def enclosed (name text : String) : String := name ++ "(" ++ text ++ ")"

def describeReason : Reason → String
  | .transport words =>
    enclosed "Protocol" (record "TransportError" [("message", Text.quoted words)])
  | reason => reason.name

def describeFailure (failure : Failure) : String :=
  record "Error" [("module", failure.site.name), ("function", Text.quoted failure.operation),
    ("reason", describeReason failure.reason)]

def describeHex : Hex.Fault → String
  | .oddLength => "OddLength"
  | .notADigit octet index =>
    record "InvalidHexCharacter" [("c", Text.quotedChar (Char.ofNat octet.toNat)),
      ("index", toString index)]

def kind : Fault → String
  | library _ => "Nbt"
  | hex _ => "Hex"
  | password => "InvalidPassword"
  | noTerminal => "Io"
  | status _ _ => "Status"
  | fileTooLarge => "FileTooLarge"

def describe (fault : Fault) : String :=
  match fault with
  | library failure => enclosed fault.kind (describeFailure failure)
  | hex cause => enclosed fault.kind (describeHex cause)
  | status sw text =>
    record fault.kind [("sw", toString sw.toNat), ("text", Text.quoted text)]
  | noTerminal => enclosed fault.kind "NotConnected"
  | password | fileTooLarge => fault.kind

end Fault
end BridgeTag.CommandLine
