import BridgeTag.Proofs.Ndef.Dispatch
import Mathlib.Data.List.Induction

/-! Registries in the course of time. What a registry answers follows from how it was last cleared
and from the calls since: built-in types go first, then the first call for a pair, then the bodies
without a meaning. Later calls for the same pair fail and change nothing. -/
namespace BridgeTag.Ndef.Registry

structure Call where
  tnf : Tnf
  type : Octets
  decoder : Decoder

def Call.key (call : Call) : Key := (call.tnf, call.type)

inductive Action where
  | register (call : Call)
  | release
  | reset

def created (seeded : Bool) : Registry := if seeded then builtIn else empty

/-- The registry after an action, whether a call fails or not. -/
def act (registry : Registry) : Action → Registry
  | .register call => (registry.add call.tnf call.type call.decoder).2
  | .release => registry.release
  | .reset => registry.reset

def after (registry : Registry) (actions : List Action) : Registry := actions.foldl act registry

/-- How the registry was last cleared, with the built-in types or without, and the calls since. -/
inductive LastCleared (seeded : Bool) : List Action → Bool → List Call → Prop
  | creation (calls : List Call) : LastCleared seeded (calls.map .register) seeded calls
  | release (before : List Action) (calls : List Call) :
      LastCleared seeded (before ++ .release :: calls.map .register) false calls
  | reset (before : List Action) (calls : List Call) :
      LastCleared seeded (before ++ .reset :: calls.map .register) true calls

inductive BuiltIn : Key → Decoder → Prop
  | uri : BuiltIn (.wellKnown, Uri.type) Decoder.uri
  | handoverSelect : BuiltIn (.wellKnown, HandoverSelect.type) Decoder.handoverSelect
  | alternativeCarrier : BuiltIn (.wellKnown, AlternativeCarrier.type) Decoder.alternativeCarrier
  | error : BuiltIn (.wellKnown, HandoverError.type) Decoder.handoverError
  | brandProtection : BuiltIn (.external, BrandProtection.type) Decoder.brandProtection

/-- The first of the calls for a pair names this decoder. -/
def FirstCall (calls : List Call) (key : Key) (decoder : Decoder) : Prop :=
  ∃ before call later, calls = before ++ call :: later ∧ call.key = key ∧
    call.decoder = decoder ∧ ∀ other ∈ before, other.key ≠ key

/-- The pair is a built-in one, or there was a call for it. -/
def Bound (seeded : Bool) (calls : List Call) (key : Key) : Prop :=
  (seeded = true ∧ ∃ decoder, BuiltIn key decoder) ∨ ∃ call ∈ calls, call.key = key

/-- The decoder that a pair has after the calls. -/
inductive Gives (seeded : Bool) (calls : List Call) (key : Key) : Decoder → Prop
  | builtIn {decoder : Decoder} (filled : seeded = true) (known : BuiltIn key decoder) :
      Gives seeded calls key decoder
  | registered {decoder : Decoder} (unknown : seeded = true → ∀ other, ¬BuiltIn key other)
      (first : FirstCall calls key decoder) : Gives seeded calls key decoder
  | external (unbound : ¬Bound seeded calls key) (tnf : key.1 = .external) :
      Gives seeded calls key Decoder.external
  | generic (unbound : ¬Bound seeded calls key) (tnf : key.1 ≠ .external) :
      Gives seeded calls key Decoder.generic

variable {registry : Registry} {seeded : Bool} {actions : List Action} {calls : List Call}
  {key : Key} {decoder : Decoder} {call : Call}

/-! What is bound after the calls, as a look-up. -/

def firstCall? (calls : List Call) (key : Key) : Option Decoder :=
  (calls.find? fun call => call.key = key).map Call.decoder

theorem firstCall?_eq_some : firstCall? calls key = some decoder ↔ FirstCall calls key decoder := by
  unfold firstCall? FirstCall
  simp only [Option.map_eq_some_iff, List.find?_eq_some_iff_append, decide_eq_true_eq,
    Bool.not_eq_true', decide_eq_false_iff_not]
  constructor
  · intro found
    obtain ⟨call, ⟨same, before, later, rfl, others⟩, rfl⟩ := found
    exact ⟨before, call, later, rfl, same, rfl, others⟩
  · intro first
    obtain ⟨before, call, later, rfl, same, rfl, others⟩ := first
    exact ⟨call, ⟨same, before, later, rfl, others⟩, rfl⟩

theorem firstCall?_eq_none : firstCall? calls key = none ↔ ∀ call ∈ calls, call.key ≠ key := by
  simp [firstCall?]

theorem find?_builtIn : builtIn.find? key = some decoder ↔ BuiltIn key decoder := by
  constructor
  · intro found
    simp only [find?, builtIn, lookup_cons, List.lookup_nil] at found
    split_ifs at found with uri handoverSelect alternativeCarrier error brandProtection
    · cases found
      exact uri ▸ .uri
    · cases found
      exact handoverSelect ▸ .handoverSelect
    · cases found
      exact alternativeCarrier ▸ .alternativeCarrier
    · cases found
      exact error ▸ .error
    · cases found
      exact brandProtection ▸ .brandProtection
  · intro known
    cases known <;> rfl

theorem find?_created : (created seeded).find? key = some decoder ↔
    seeded = true ∧ BuiltIn key decoder := by
  cases seeded with
  | false => simp [created, find?, empty]
  | true => simp [created, find?_builtIn]

/-- A call fails exactly on a pair that is bound. -/
theorem register_eq_error {failure : Failure} :
    registry.register call.tnf call.type call.decoder = .error failure ↔
      failure = ⟨.registry, "register", .alreadyRegistered⟩ ∧
        (registry.find? call.key).isSome = true := by
  cases held : registry.find? call.key with
  | some decoder =>
    have refused := add_of_bound (show registry.find? call.key ≠ none by simp [held]) call.decoder
    simp only [Call.key] at refused
    simp [register, refused, Except.map, eq_comm]
  | none =>
    have taken := add_of_free held call.decoder
    simp only [Call.key] at taken
    simp [register, taken, Except.map]

theorem act_register_bound (bound : registry.find? call.key ≠ none) :
    registry.act (.register call) = registry :=
  congrArg Prod.snd (add_of_bound bound call.decoder)

theorem act_register_unbound (unbound : registry.find? call.key = none) :
    registry.act (.register call) = registry.extend call.key call.decoder unbound :=
  congrArg Prod.snd (add_of_free unbound call.decoder)

theorem find?_act_register (registry : Registry) (call : Call) (key : Key) :
    (registry.act (.register call)).find? key =
      (registry.find? key).or (if call.key = key then some call.decoder else none) := by
  cases held : registry.find? call.key with
  | some decoder =>
    rw [act_register_bound (by simp [held])]
    by_cases same : call.key = key
    · subst same
      simp [held]
    · simp [same]
  | none =>
    rw [act_register_unbound held, find?_extend]
    by_cases same : call.key = key
    · subst same
      simp [held]
    · simp [same, Ne.symm same]

/-- Of the calls for a pair the first counts, unless the pair was bound before. -/
theorem find?_after_calls (registry : Registry) (calls : List Call) (key : Key) :
    (registry.after (calls.map .register)).find? key =
      (registry.find? key).or (firstCall? calls key) := by
  induction calls generalizing registry with
  | nil => simp [after, firstCall?]
  | cons call calls ih =>
    have step : registry.after ((call :: calls).map .register) =
      (registry.act (.register call)).after (calls.map .register) := rfl
    rw [step, ih, find?_act_register, Option.or_assoc]
    congr 1
    by_cases same : call.key = key <;> simp [firstCall?, same]

/-- Clearing forgets all that was before. -/
theorem after_of_lastCleared {now : Bool} (cleared : LastCleared seeded actions now calls) :
    (created seeded).after actions = (created now).after (calls.map .register) := by
  cases cleared with
  | creation calls => rfl
  | release before calls =>
    rw [after, List.foldl_append]
    rfl
  | reset before calls =>
    rw [after, List.foldl_append]
    rfl

theorem exists_lastCleared (seeded : Bool) (actions : List Action) :
    ∃ now calls, LastCleared seeded actions now calls := by
  -- from the last action backwards, up to the one that clears
  induction actions using List.reverseRecOn with
  | nil => exact ⟨seeded, [], .creation []⟩
  | append_singleton actions action ih =>
    cases action with
    | release => exact ⟨false, [], .release actions []⟩
    | reset => exact ⟨true, [], .reset actions []⟩
    | register call =>
      obtain ⟨now, calls, cleared⟩ := ih
      refine ⟨now, calls ++ [call], ?_⟩
      cases cleared with
      | creation calls =>
        have longer : LastCleared seeded _ _ _ := .creation (calls ++ [call])
        simpa using longer
      | release before calls =>
        have longer : LastCleared seeded _ _ _ := .release before (calls ++ [call])
        simpa using longer
      | reset before calls =>
        have longer : LastCleared seeded _ _ _ := .reset before (calls ++ [call])
        simpa using longer

/-! What the calls bound, read off a look-up. -/

def bound? (seeded : Bool) (calls : List Call) (key : Key) : Option Decoder :=
  ((created seeded).find? key).or (firstCall? calls key)

theorem find?_created_eq_none : (created seeded).find? key = none ↔
    (seeded = true → ∀ decoder, ¬BuiltIn key decoder) := by
  simp only [Option.eq_none_iff_forall_ne_some, ne_eq, find?_created, not_and]
  exact forall_comm

theorem bound?_eq_none : bound? seeded calls key = none ↔ ¬Bound seeded calls key := by
  simp only [bound?, Bound, Option.or_eq_none_iff, find?_created_eq_none, firstCall?_eq_none,
    not_or, not_and, not_exists]

theorem bound?_eq_some : bound? seeded calls key = some decoder ↔
    (seeded = true ∧ BuiltIn key decoder) ∨
      ((seeded = true → ∀ other, ¬BuiltIn key other) ∧ FirstCall calls key decoder) := by
  simp only [bound?, Option.or_eq_some_iff, find?_created, find?_created_eq_none,
    firstCall?_eq_some]

theorem gives_iff : Gives seeded calls key decoder ↔
    (bound? seeded calls key).getD (Decoder.fallback key.1) = decoder := by
  constructor
  · intro gives
    cases gives with
    | builtIn filled known => simp [bound?_eq_some.mpr (.inl ⟨filled, known⟩)]
    | registered unknown first => simp [bound?_eq_some.mpr (.inr ⟨unknown, first⟩)]
    | external unbound tnf => simp [bound?_eq_none.mpr unbound, Decoder.fallback, tnf]
    | generic unbound tnf => simp [bound?_eq_none.mpr unbound, Decoder.fallback, tnf]
  · intro same
    subst same
    cases held : bound? seeded calls key with
    | some decoder =>
      rcases bound?_eq_some.mp held with ⟨filled, known⟩ | ⟨unknown, first⟩
      · exact .builtIn filled known
      · exact .registered unknown first
    | none =>
      have unbound := bound?_eq_none.mp held
      by_cases tnf : key.1 = .external
      · simpa [Decoder.fallback, tnf] using Gives.external unbound tnf
      · simpa [Decoder.fallback, tnf] using Gives.generic unbound tnf

/-- A registry that holds what the calls bound: each pair once, for the first call only. -/
structure WriteOnce (registry : Registry) (seeded : Bool) (calls : List Call) : Prop where
  retrieves : ∀ (tnf : Tnf) (type : Octets) (decoder : Decoder),
    registry.retrieve tnf type = decoder ↔ Gives seeded calls (tnf, type) decoder
  refuses : ∀ (call : Call) (failure : Failure),
    registry.register call.tnf call.type call.decoder = .error failure ↔
      failure = ⟨.registry, "register", .alreadyRegistered⟩ ∧ Bound seeded calls call.key
  unchanged : ∀ call : Call, Bound seeded calls call.key → registry.act (.register call) = registry
  counts : ∃ pairs : List Key, pairs.Nodup ∧ (∀ key, key ∈ pairs ↔ Bound seeded calls key) ∧
    registry.size = pairs.length

theorem writeOnce_of_find? (holds : ∀ key, registry.find? key = bound? seeded calls key) :
    WriteOnce registry seeded calls := by
  have bound : ∀ key, registry.find? key ≠ none ↔ Bound seeded calls key := by
    intro key
    rw [holds, ne_eq, bound?_eq_none, not_not]
  exact {
    retrieves := by
      intro tnf type decoder
      simp [gives_iff, retrieve, holds]
    refuses := by
      intro call failure
      rw [register_eq_error, Option.isSome_iff_ne_none, bound]
    unchanged := by
      intro call held
      exact act_register_bound ((bound call.key).mpr held)
    counts := by
      refine ⟨registry.bindings.map Prod.fst, registry.distinct, ?_, by simp [size]⟩
      intro key
      rw [← bound key, ne_eq, find?_eq_none, not_not] }

/-- Whatever was registered, released and reset: a registry is the write-once map of the calls since
it was last cleared. -/
theorem writeOnce_after (seeded : Bool) (actions : List Action) :
    (∃ now calls, LastCleared seeded actions now calls) ∧
      ∀ now calls, LastCleared seeded actions now calls →
        WriteOnce ((created seeded).after actions) now calls := by
  refine ⟨exists_lastCleared seeded actions, fun now calls cleared => ?_⟩
  apply writeOnce_of_find?
  intro key
  rw [after_of_lastCleared cleared, find?_after_calls, bound?]

/-- After a release a built-in type is free, and the second call for it comes too late. -/
example : ((created true).after [.release, .register ⟨.wellKnown, Uri.type, Decoder.external⟩,
    .register ⟨.wellKnown, Uri.type, Decoder.uri⟩]).retrieve .wellKnown Uri.type =
      Decoder.external := rfl

end BridgeTag.Ndef.Registry
