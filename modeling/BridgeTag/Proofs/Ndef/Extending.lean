import BridgeTag.Proofs.Ndef.Nesting
import BridgeTag.Proofs.Ndef.Outline
import BridgeTag.Proofs.Ndef.RoundTrip

/-! What binding one more pair leaves as it was. A registry that knows this library's decoders only
decodes a message as before, at every depth, unless a record of it has the pair that is new. -/
namespace BridgeTag.Ndef

def Record.key (record : Record) : Registry.Key := (record.tnf, record.type)

/-- The record, or one inside its handover-select body, has the pair. -/
def Record.Mentions (record : Record) (key : Registry.Key) : Prop :=
  record.key = key ∨
    ∃ select, record.body = .handoverSelect select ∧ ∃ part ∈ select.records, part.key = key

variable {kinds : Kinds} {registry registry' : Registry} {key : Registry.Key} {decoder : Decoder}
  {frame : Frame} {frames : List Frame} {record : Record} {records : List Record}
  {payload octets : Octets} {body : RecordBody} {begins : Bool}

namespace Registry

theorem register_of_unbound (free : registry.find? key = none) :
    registry.register key.1 key.2 decoder = .ok (registry.extend key decoder free) := by
  simp only [register, add_of_free free]
  rfl

/-- The other way round of `exists_ofKinds`. -/
theorem own_ofKinds (kinds : Kinds) :
    ∀ binding ∈ (ofKinds kinds).bindings, ∃ kind : BodyKind, binding.2 = kind.decoder := by
  intro binding member
  obtain ⟨pair, _, rfl⟩ := List.mem_map.mp member
  exact ⟨pair.2, rfl⟩

@[simp] theorem retrieve_extend_same (free : registry.find? key = none) :
    (registry.extend key decoder free).retrieve key.1 key.2 = decoder := by
  simp [retrieve, find?_extend]

theorem retrieve_extend_other (free : registry.find? key = none) {tnf : Tnf} {type : Octets}
    (other : (tnf, type) ≠ key) :
    (registry.extend key decoder free).retrieve tnf type = registry.retrieve tnf type := by
  simp only [retrieve, find?_extend, if_neg other]

end Registry

namespace Message

theorem payload_lt_of_framed (framed : Framed begins octets frames) :
    ∀ frame ∈ frames, frame.payload.length < octets.length := by
  induction framed with
  | @last header frame fits ends =>
    intro other member
    obtain rfl := List.mem_singleton.mp member
    have longer := other.payload_le_spelling header
    omega
  | @more header frame rest frames fits ends later ih =>
    intro other member
    rw [List.length_append]
    rcases List.mem_cons.mp member with rfl | further
    · have longer := other.payload_le_spelling header
      omega
    · have shorter := ih other further
      omega

theorem payload_lt_of_outline (outline : Outline octets frames) :
    ∀ frame ∈ frames, frame.payload.length < octets.length := by
  rcases outline with ⟨_, rfl⟩ | ⟨_, framed⟩
  · intro frame member
    cases member
  · exact payload_lt_of_framed framed

end Message

/-- A decoder of this library depends on the registry through the message in a handover-select
payload only. -/
theorem BodyKind.decode_of_kept {kind : BodyKind}
    (decoded : kind.decoder payload (fun message _ => Message.decode registry message) = .ok body)
    (kept : ∀ message select, message.length < payload.length → body = .handoverSelect select →
      Message.decode registry message = .ok select.records →
        Message.decode registry' message = .ok select.records) :
    kind.decoder payload (fun message _ => Message.decode registry' message) = .ok body := by
  cases kind with
  | handoverSelect =>
    simp only [decoder, Decoder.handoverSelect_eq_ok] at decoded ⊢
    obtain ⟨version, message, records, rfl, found, valid, rfl⟩ := decoded
    refine ⟨version, message, records, rfl, ?_, valid, rfl⟩
    rcases found with empty | ⟨nonempty, found⟩
    · exact .inl empty
    · exact .inr ⟨nonempty, kept message _ (Nat.lt_succ_self _) rfl found⟩
  | _ => exact decoded

variable {free : (Registry.ofKinds kinds).find? key = none}

/-- A frame is opened as before where its own pair and the message inside are decoded as before. -/
theorem Frame.Opens.kept (opens : frame.Opens (.ofKinds kinds) record) (other : record.key ≠ key)
    (inside : ∀ message select, message.length < frame.payload.length →
      record.body = .handoverSelect select →
        Message.decode (.ofKinds kinds) message = .ok select.records →
          Message.decode ((Registry.ofKinds kinds).extend key decoder free) message =
            .ok select.records) :
    frame.Opens ((Registry.ofKinds kinds).extend key decoder free) record := by
  have same : (frame.tnf, frame.type) ≠ key := by
    rw [opens.tnf, opens.type]
    exact other
  refine ⟨?_, opens.tnf, opens.type, opens.id⟩
  rw [Registry.retrieve_extend_other free same, Registry.retrieve_ofKinds]
  have decoded := opens.body
  rw [Registry.retrieve_ofKinds] at decoded
  exact BodyKind.decode_of_kept decoded inside

namespace Message

/-- A binding that no record mentions changes nothing. -/
theorem decode_extend (free : (Registry.ofKinds kinds).find? key = none)
    (found : decode (.ofKinds kinds) octets = .ok records)
    (unused : ∀ record ∈ records, ¬ record.Mentions key) :
    decode ((Registry.ofKinds kinds).extend key decoder free) octets = .ok records := by
  -- on the length of the message, as the one inside a record is shorter
  induction length : octets.length using Nat.strongRecOn generalizing octets records with
  | _ size ih =>
    obtain ⟨frames, outline, opens⟩ := decode_eq_ok_iff_outline.mp found
    refine decode_eq_ok_iff_outline.mpr ⟨frames, outline, ?_⟩
    rw [List.forall₂_iff_zip] at opens ⊢
    refine ⟨opens.1, ?_⟩
    intro frame record pair
    have members := List.of_mem_zip pair
    have opened := opens.2 pair
    have shorter := payload_lt_of_outline outline frame members.1
    have silent := unused record members.2
    refine opened.kept (fun same => silent (.inl same)) ?_
    intro message select inside body decoded
    refine ih message.length (by omega) decoded ?_ rfl
    intro part member mentions
    rcases mentions with same | ⟨deeper, nested, _⟩
    · exact silent (.inr ⟨select, body, part, member, same⟩)
    · have flat := Frame.kind_of_record (Frame.opens_iff.mp opened) body part member
      exact flat (by rw [nested]; rfl)

/-- Registering a decoder is invisible to messages that do not use it. Where a registry knows this
library's decoders only, a pair that is free can be bound to any decoder whatever, which is then the
one for the pair; and a message none of whose records has the pair, inside handover-select bodies
either, decodes to the same records. -/
theorem decode_register (own : ∀ binding ∈ registry.bindings, ∃ kind : BodyKind,
      binding.2 = kind.decoder)
    (unbound : registry.find? key = none) (decoder : Decoder)
    (found : decode registry octets = .ok records)
    (unused : ∀ record ∈ records, ¬ record.Mentions key) :
    ∃ extended, registry.register key.1 key.2 decoder = .ok extended ∧
      extended.retrieve key.1 key.2 = decoder ∧ decode extended octets = .ok records := by
  refine ⟨registry.extend key decoder unbound, Registry.register_of_unbound unbound, ?_, ?_⟩
  · exact Registry.retrieve_extend_same unbound
  · obtain ⟨kinds, rfl⟩ := Registry.exists_ofKinds own
    exact decode_extend unbound found unused

def refuser : Decoder := fun _ _ => .error ⟨.commandSet, "custom", .outOfMemory⟩

/-- With carriers and an error inside its first record, the message does not notice that well-known
records of another type are refused from now on. -/
theorem decode_handoverOctets_extended :
    Registry.builtIn.find? (.wellKnown, [0x54]) = none ∧
    decode .builtIn handoverOctets = .ok handoverSample ∧
    (∀ record ∈ handoverSample, ¬ record.Mentions (.wellKnown, [0x54])) ∧
    ∃ extended, Registry.builtIn.register .wellKnown [0x54] refuser = .ok extended ∧
      extended.retrieve .wellKnown [0x54] = refuser ∧
      decode extended handoverOctets = .ok handoverSample := by
  have own : ∀ binding ∈ Registry.builtIn.bindings, ∃ kind : BodyKind, binding.2 = kind.decoder := by
    rw [← Registry.ofKinds_builtInKinds]
    exact Registry.own_ofKinds _
  have unbound : Registry.builtIn.find? (.wellKnown, [0x54]) = none := rfl
  have unused : ∀ record ∈ handoverSample, ¬ record.Mentions (.wellKnown, [0x54]) := by
    intro record member mentions
    simp only [handoverSample, List.mem_cons, List.not_mem_nil, or_false] at member
    rcases member with rfl | rfl <;> rcases mentions with same | ⟨select, body, part, inside, same⟩
    · exact absurd same (by decide)
    · cases body
      simp only [List.mem_cons, List.not_mem_nil, or_false] at inside
      rcases inside with rfl | rfl <;> exact absurd same (by decide)
    · exact absurd same (by decide)
    · cases body
  exact ⟨unbound, decode_handoverOctets, unused,
    decode_register own unbound refuser decode_handoverOctets unused⟩

end Message
end BridgeTag.Ndef
