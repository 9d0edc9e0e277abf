import BridgeTag.Ndef.Record.Access

/-! Decoders of payloads, kept by type name format and type. A pair is bound at most once until
the registry is emptied; a pair that is not bound decodes to a body without a meaning. -/
namespace BridgeTag.Ndef

/-- Makes a body of a payload. A decoder may have octet strings no longer than its payload decoded
as messages; the bound is what lets decoding end, whatever the decoder does. -/
def Decoder : Type :=
  (payload : Octets) →
    (nested : (message : Octets) → message.length ≤ payload.length →
      Except Failure (List Record)) →
    Except Failure RecordBody

namespace Decoder

def uri : Decoder := fun payload _ => (Uri.decode payload).map .uri

/-- The version, then a message unless nothing follows. -/
def handoverSelect : Decoder := fun payload nested =>
  match payload, nested with
  | [], _ => .error ⟨.recordType, "decode", .invalidMessage⟩
  | version :: message, nested => do
    let records ← if message.isEmpty then .ok [] else nested message (Nat.le_succ _)
    let select : HandoverSelect :=
      ⟨UInt8.ofNat (version.toNat / 16), UInt8.ofNat (version.toNat % 16), records⟩
    if select.valid then .ok (.handoverSelect select)
    else .error ⟨.recordType, "decode", .illegalArgument⟩

def alternativeCarrier : Decoder := fun payload _ =>
  (AlternativeCarrier.decode payload).map .alternativeCarrier

def handoverError : Decoder := fun payload _ => (HandoverError.decode payload).map .error

def external : Decoder := fun payload _ => .ok (.external ⟨some payload⟩)

def brandProtection : Decoder := fun payload _ => .ok (.brandProtection ⟨some payload⟩)

def generic : Decoder := fun payload _ => .ok (.generic payload)

/-- Decodes a pair that is not bound. -/
def fallback (tnf : Tnf) : Decoder := if tnf = .external then external else generic

end Decoder

abbrev Registry.Key := Tnf × Octets

/-- Decoders by pair, no pair bound twice. -/
structure Registry where
  bindings : List (Registry.Key × Decoder)
  distinct : (bindings.map Prod.fst).Nodup := by decide

namespace Registry

def empty : Registry where
  bindings := []

def builtIn : Registry where
  bindings := [
    ((.wellKnown, Uri.type), Decoder.uri),
    ((.wellKnown, HandoverSelect.type), Decoder.handoverSelect),
    ((.wellKnown, AlternativeCarrier.type), Decoder.alternativeCarrier),
    ((.wellKnown, HandoverError.type), Decoder.handoverError),
    ((.external, BrandProtection.type), Decoder.brandProtection)]

def find? (registry : Registry) (key : Key) : Option Decoder := registry.bindings.lookup key

/-- The decoder bound to a pair, or the one its format falls back to. -/
def retrieve (registry : Registry) (tnf : Tnf) (type : Octets) : Decoder :=
  (registry.find? (tnf, type)).getD (Decoder.fallback tnf)

variable {registry : Registry} {key : Key}

theorem lookup_cons (key other : Key) (decoder : Decoder) (bindings : List (Key × Decoder)) :
    ((key, decoder) :: bindings).lookup other =
      if other = key then some decoder else bindings.lookup other := by
  rw [List.lookup_cons]
  split
  next same => rw [if_pos (eq_of_beq same)]
  next differ => rw [if_neg (ne_of_beq_false differ)]

theorem find?_eq_none : registry.find? key = none ↔ key ∉ registry.bindings.map Prod.fst := by
  simp only [find?, List.lookup_eq_none_iff, bne_iff_ne, List.mem_map, not_exists, not_and]
  exact forall₂_congr fun _ _ => ne_comm

def extend (registry : Registry) (key : Key) (decoder : Decoder)
    (free : registry.find? key = none) : Registry where
  bindings := (key, decoder) :: registry.bindings
  distinct := List.nodup_cons.mpr ⟨find?_eq_none.mp free, registry.distinct⟩

theorem find?_extend (free : registry.find? key = none) (decoder : Decoder) (other : Key) :
    (registry.extend key decoder free).find? other =
      if other = key then some decoder else registry.find? other :=
  lookup_cons key other decoder registry.bindings

/-- Binds a pair that is free; on failure the registry stays. -/
def add (registry : Registry) (tnf : Tnf) (type : Octets) (decoder : Decoder) :
    Except Failure Unit × Registry :=
  match free : registry.find? (tnf, type) with
  | some _ => (.error ⟨.registry, "register", .alreadyRegistered⟩, registry)
  | none => (.ok (), registry.extend (tnf, type) decoder free)

theorem add_of_free (free : registry.find? key = none) (decoder : Decoder) :
    registry.add key.1 key.2 decoder = (.ok (), registry.extend key decoder free) := by
  rw [add]
  split
  next taken => cases free.symm.trans taken
  next => rfl

/-- A pair that is bound stays bound to what it was. -/
theorem add_of_bound (bound : registry.find? key ≠ none) (decoder : Decoder) :
    registry.add key.1 key.2 decoder =
      (.error ⟨.registry, "register", .alreadyRegistered⟩, registry) := by
  rw [add]
  split
  next => rfl
  next free => exact absurd free bound

/-- The registry with the pair bound by itself, where the pair is free. -/
def register (registry : Registry) (tnf : Tnf) (type : Octets) (decoder : Decoder) :
    Except Failure Registry :=
  let (result, after) := registry.add tnf type decoder
  result.map fun () => after

def release (_ : Registry) : Registry := empty

def reset (_ : Registry) : Registry := builtIn

def size (registry : Registry) : Nat := registry.bindings.length

end Registry
end BridgeTag.Ndef
