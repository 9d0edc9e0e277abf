/-! Failures: where one was first detected, and why. -/
namespace BridgeTag

inductive Site where
  | apdu | dgi | protocol | command | commandSet
  | record | registry | recordType | message
deriving Repr, DecidableEq

namespace Site

def all : List Site :=
  [apdu, dgi, protocol, command, commandSet, record, registry, recordType, message]

def code : Site → Nat
  | apdu => 1
  | dgi => 2
  | protocol => 3
  | command => 4
  | commandSet => 5
  | record => 6
  | registry => 7
  | recordType => 8
  | message => 9

def path : Site → String
  | apdu => "apdu"
  | dgi => "dgi"
  | protocol => "protocol"
  | command => "command"
  | commandSet => "cmdset"
  | record => "ndef::record"
  | registry => "ndef::registry"
  | recordType => "ndef::types"
  | message => "ndef::message"

def name : Site → String
  | apdu => "Apdu"
  | dgi => "Dgi"
  | protocol => "Protocol"
  | command => "Command"
  | commandSet => "CommandSet"
  | record => "NdefRecord"
  | registry => "NdefRegistry"
  | recordType => "NdefRecordType"
  | message => "NdefMessage"

end Site

inductive Reason where
  | illegalArgument
  | outOfMemory
  | invalidState
  /-- A record holds a body of another kind than the one asked for. -/
  | bodyMismatch
  | alreadyRegistered
  | noCertificateHandlers
  | malformedDgi
  | invalidMessage
  | invalidResponse
  /-- The link to the card failed, in the link's own words. -/
  | transport (words : String)
deriving Repr, DecidableEq

namespace Reason

def code : Reason → Nat
  | illegalArgument => 1
  | outOfMemory => 2
  | invalidState => 3
  | bodyMismatch => 4
  | alreadyRegistered => 5
  | noCertificateHandlers => 6
  | malformedDgi => 7
  | invalidMessage => 8
  | invalidResponse => 9
  | transport _ => 10

def text : Reason → String
  | illegalArgument => "illegal argument"
  | outOfMemory => "out of memory"
  | invalidState => "invalid state"
  | bodyMismatch => "record type does not match the accessor"
  | alreadyRegistered => "record type is already registered"
  | noCertificateHandlers => "certificate handlers are not defined"
  | malformedDgi => "DGI encoded bytes are invalid"
  | invalidMessage => "NDEF message is invalid"
  | invalidResponse => "APDU response is invalid"
  | transport words => "transport failed: " ++ words

def name : Reason → String
  | illegalArgument => "IllegalArgument"
  | outOfMemory => "OutOfMemory"
  | invalidState => "InvalidState"
  | bodyMismatch => "RecordInvalid"
  | alreadyRegistered => "AlreadyRegistered"
  | noCertificateHandlers => "CertHandlersNotDefined"
  | malformedDgi => "DgiEncodedBytesInvalid"
  | invalidMessage => "InvalidMessage"
  | invalidResponse => "InvalidResponse"
  | transport _ => "Protocol"

end Reason

structure Failure where
  site : Site
  operation : String
  reason : Reason
deriving Repr, DecidableEq

namespace Failure

def message (failure : Failure) : String :=
  failure.site.path ++ "::" ++ failure.operation ++ ": " ++ failure.reason.text

/-- The packed 32-bit status: failure flag, site in the third octet, reason in the lowest. -/
def status (failure : Failure) : Nat :=
  0x80000000 + 0x10000 * failure.site.code + failure.reason.code

variable {α β : Type} {result : Except Failure α} {next : α → Except Failure β}

theorem bind_eq_ok {final : β} :
    (result >>= next) = .ok final ↔ ∃ value, result = .ok value ∧ next value = .ok final := by
  cases result <;> simp [bind, Except.bind]

/-- The first failure is the one reported, unchanged. -/
theorem bind_eq_error {failure : Failure} : (result >>= next) = .error failure ↔
    result = .error failure ∨ ∃ value, result = .ok value ∧ next value = .error failure := by
  cases result <;> simp [bind, Except.bind]

end Failure
end BridgeTag
