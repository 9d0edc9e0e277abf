import BridgeTag.Octets

/-! Bounds-checked reading from the front of an octet string. A read that falls short has no
result and the octets it wanted stay unread. The lemmas say of each read that it succeeds
exactly where the octets it stands for come next, and what it leaves. -/
namespace BridgeTag

structure Reader where
  /-- Number of octets read so far. -/
  position : Nat
  /-- The octets not read yet. -/
  rest : Octets
deriving Repr, DecidableEq

/-- A step on a reader; a step that falls short still says where the reader stands. -/
def Read (α : Type) : Type := Reader → Option α × Reader

instance : Monad Read where
  pure value := fun reader => (some value, reader)
  bind read next := fun reader =>
    match read reader with
    | (some value, after) => next value after
    | (none, after) => (none, after)

namespace Reader

def ofOctets (octets : Octets) : Reader := ⟨0, octets⟩

def remaining (reader : Reader) : Nat := reader.rest.length

def take (n : Nat) : Read Octets := fun reader =>
  match Octets.cut? n reader.rest with
  | some (front, back) => (some front, ⟨reader.position + n, back⟩)
  | none => (none, reader)

def octet : Read UInt8 := fun reader =>
  match reader.rest with
  | value :: rest => (some value, ⟨reader.position + 1, rest⟩)
  | [] => (none, reader)

def u16 : Read UInt16 := fun reader =>
  match reader.rest with
  | a :: b :: rest => (some (Octets.toU16 a b), ⟨reader.position + 2, rest⟩)
  | _ => (none, reader)

def u32 : Read UInt32 := fun reader =>
  match reader.rest with
  | a :: b :: c :: d :: rest => (some (Octets.toU32 a b c d), ⟨reader.position + 4, rest⟩)
  | _ => (none, reader)

/-- A length octet and that many octets; the length octet stays read when they fall short. -/
def prefixed : Read Octets := do
  let length ← octet
  take length.toNat

def times {α : Type} (read : Read α) : Nat → Read (List α)
  | 0 => pure []
  | n + 1 => do
    let value ← read
    let values ← times read n
    return value :: values

def drain : Read Octets := fun reader =>
  (some reader.rest, ⟨reader.position + reader.rest.length, []⟩)

def require (condition : Bool) : Read Unit := fun reader =>
  (if condition then some () else none, reader)

/-- The value a read makes of an octet string when it leaves nothing unread. -/
def whole? {α : Type} (read : Read α) (octets : Octets) : Option α :=
  match read (ofOctets octets) with
  | (some value, ⟨_, []⟩) => some value
  | _ => none

variable {reader after : Reader}

@[simp] theorem ofOctets_position (octets : Octets) : (ofOctets octets).position = 0 := rfl

@[simp] theorem ofOctets_rest (octets : Octets) : (ofOctets octets).rest = octets := rfl

/-- A read that leaves everything unread has not moved. -/
theorem eq_iff_rest_eq : reader = after ↔
    reader.rest = after.rest ∧ after.position = reader.position := by
  constructor
  · intro same
    subst same
    exact ⟨rfl, rfl⟩
  · intro unread
    obtain ⟨rest, position⟩ := unread
    cases reader
    cases after
    simp_all

theorem bind_eq_some {α β : Type} {read : Read α} {next : α → Read β} {result : β} :
    (read >>= next) reader = (some result, after) ↔
      ∃ value middle, read reader = (some value, middle) ∧
        next value middle = (some result, after) := by
  change (match read reader with
    | (some value, after) => next value after
    | (none, after) => (none, after)) = _ ↔ _
  rcases read reader with ⟨_ | value, middle⟩
  · simp
  · constructor
    · exact fun found => ⟨value, middle, rfl, found⟩
    · rintro ⟨_, _, same, found⟩
      cases same
      exact found

theorem pure_eq_some {α : Type} {value result : α} :
    (pure value : Read α) reader = (some result, after) ↔ value = result ∧ reader = after := by
  change (some value, reader) = _ ↔ _
  simp

theorem require_eq_some {condition : Bool} {result : Unit} :
    require condition reader = (some result, after) ↔ condition = true ∧ reader = after := by
  cases condition <;> simp [require]

theorem take_eq_some {n : Nat} {front : Octets} :
    take n reader = (some front, after) ↔
      front.length = n ∧ reader.rest = front ++ after.rest ∧
        after.position = reader.position + n := by
  rcases reader with ⟨position, rest⟩
  rcases after with ⟨position', rest'⟩
  simp only [take]
  constructor
  · split
    next found back cut =>
      intro same
      cases same
      rw [Octets.cut?_eq] at cut
      split at cut
      next le => cases cut; simp [le]
      next => cases cut
    next => intro same; cases same
  · rintro ⟨rfl, rfl, rfl⟩
    simp [Octets.cut?_append]

theorem octet_eq_some {value : UInt8} :
    octet reader = (some value, after) ↔
      reader.rest = value :: after.rest ∧ after.position = reader.position + 1 := by
  rcases reader with ⟨position, _ | ⟨first, rest⟩⟩ <;> rcases after with ⟨position', rest'⟩
  · simp [octet]
  · simp only [octet, Prod.mk.injEq, Option.some.injEq, mk.injEq, List.cons.injEq]
    constructor
    · rintro ⟨rfl, rfl, rfl⟩; simp
    · rintro ⟨⟨rfl, rfl⟩, rfl⟩; simp

theorem u16_eq_some {value : UInt16} :
    u16 reader = (some value, after) ↔
      reader.rest = Octets.ofU16 value ++ after.rest ∧
        after.position = reader.position + 2 := by
  rcases reader with ⟨position, _ | ⟨a, _ | ⟨b, rest⟩⟩⟩ <;> rcases after with ⟨position', rest'⟩
  · simp [u16, Octets.ofU16]
  · simp [u16, Octets.ofU16]
  · simp only [u16, Prod.mk.injEq, Option.some.injEq, mk.injEq]
    constructor
    · rintro ⟨rfl, rfl, rfl⟩; simp [Octets.ofU16_toU16]
    · rintro ⟨same, rfl⟩
      simp only [Octets.ofU16, List.cons_append, List.nil_append, List.cons.injEq] at same
      obtain ⟨rfl, rfl, rfl⟩ := same
      exact ⟨Octets.toU16_ofU16 value, rfl, rfl⟩

theorem u32_eq_some {value : UInt32} :
    u32 reader = (some value, after) ↔
      reader.rest = Octets.ofU32 value ++ after.rest ∧
        after.position = reader.position + 4 := by
  rcases reader with ⟨position, _ | ⟨a, _ | ⟨b, _ | ⟨c, _ | ⟨d, rest⟩⟩⟩⟩⟩ <;>
    rcases after with ⟨position', rest'⟩
  iterate 4 · simp [u32, Octets.ofU32]
  simp only [u32, Prod.mk.injEq, Option.some.injEq, mk.injEq]
  constructor
  · rintro ⟨rfl, rfl, rfl⟩; simp [Octets.ofU32_toU32]
  · rintro ⟨same, rfl⟩
    simp only [Octets.ofU32, List.cons_append, List.nil_append, List.cons.injEq] at same
    obtain ⟨rfl, rfl, rfl, rfl, rfl⟩ := same
    exact ⟨Octets.toU32_ofU32 value, rfl, rfl⟩

end Reader
end BridgeTag
