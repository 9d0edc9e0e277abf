import BridgeTag.Failure
import BridgeTag.Octets

/-! Brand-protection records: the certificate of the tag, kept as its encoding. What a
certificate is belongs to the caller, who hands in the converters; a record and its converters
together are `Certified`. -/
namespace BridgeTag.Ndef

structure BrandProtection where
  payload? : Option Octets
deriving Repr, DecidableEq

namespace BrandProtection

def type : Octets := -- infineon.com:nfc-bridge-tag.x509
  [0x69, 0x6E, 0x66, 0x69, 0x6E, 0x65, 0x6F, 0x6E, 0x2E, 0x63, 0x6F, 0x6D,
    0x3A, 0x6E, 0x66, 0x63, 0x2D, 0x62, 0x72, 0x69, 0x64, 0x67, 0x65, 0x2D,
    0x74, 0x61, 0x67, 0x2E, 0x78, 0x35, 0x30, 0x39]

def payload (record : BrandProtection) : Except Failure Octets :=
  match record.payload? with
  | some payload => .ok payload
  | none => .error ⟨.recordType, "payload", .invalidState⟩

def encode (record : BrandProtection) : Except Failure Octets :=
  match record.payload? with
  | some payload => .ok payload
  | none => .error ⟨.recordType, "encode", .invalidState⟩

end BrandProtection

structure CertificateHandlers (Certificate : Type) where
  encode : Certificate → Except Failure Octets
  decode : Octets → Except Failure Certificate

structure Certified (Certificate : Type) where
  record : BrandProtection
  handlers? : Option (CertificateHandlers Certificate) := none

namespace Certified

variable {Certificate : Type}

def withHandlers (certified : Certified Certificate)
    (handlers : CertificateHandlers Certificate) : Certified Certificate :=
  { certified with handlers? := some handlers }

def setCertificate (certified : Certified Certificate) (certificate : Certificate) :
    Except Failure (Certified Certificate) :=
  match certified.handlers? with
  | none => .error ⟨.recordType, "set_certificate", .noCertificateHandlers⟩
  | some handlers =>
    match handlers.encode certificate with
    | .ok payload => .ok { certified with record := ⟨some payload⟩ }
    | .error failure => .error failure

/-- Missing converters are found out before a missing payload. -/
def certificate (certified : Certified Certificate) : Except Failure Certificate :=
  match certified.handlers?, certified.record.payload? with
  | none, _ => .error ⟨.recordType, "get_certificate", .noCertificateHandlers⟩
  | some _, none => .error ⟨.recordType, "get_certificate", .invalidState⟩
  | some handlers, some payload => handlers.decode payload

def describe (certified : Certified Certificate) : String :=
  let payload := match certified.record.payload? with
    | none => "None"
    | some payload =>
      "Some([" ++ ", ".intercalate (payload.map fun octet => toString octet.toNat) ++ "])"
  let handlers := match certified.handlers? with
    | none => "None"
    | some _ => "Some(CertificateHandlers \x7b .. \x7d)"
  "BrandProtectionRecord \x7b payload: " ++ payload ++ ", handlers: " ++ handlers ++ " \x7d"

end Certified
end BridgeTag.Ndef
