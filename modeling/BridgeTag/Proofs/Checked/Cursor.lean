import BridgeTag.Failure
import BridgeTag.Reader

/-! Reading where every access is checked. A cursor stands in a buffer that stays whole, and whatever
leaves its bounds (a sum, a difference, one octet, a part of the buffer, a move of the cursor) halts
the run. In step with a reader a cursor comes to the same values, and no access halts. -/
namespace BridgeTag

/-- Why a run ends without a value: a failure that is reported, or a bound that was left. -/
inductive Halt where
  | failed (failure : Failure)
  /-- A sum that no word holds. -/
  | sum
  /-- A difference below zero. -/
  | difference
  | index
  | slice
  /-- A cursor or an offset behind the end of its buffer. -/
  | place
  /-- A loop with more rounds than it was allowed. -/
  | rounds
  /-- Messages inside messages, deeper than was allowed. -/
  | nesting
deriving Repr, DecidableEq

abbrev Checked := Except Halt

structure Machine where
  /-- Number of values of a word. -/
  words : Nat
  /-- Whether a sum that leaves the words halts the run even where the code looks out for it. -/
  strict : Bool

/-- Octets of this length can stand in memory, and so can every length of 32 bits. Where the machine
is strict, there are words for a place in the octets and such a length together. -/
structure Machine.Holds (machine : Machine) (length : Nat) : Prop where
  wide : 4294967296 ≤ machine.words
  inside : length < machine.words
  reach : machine.strict = true → length + 4294967295 < machine.words

theorem Machine.Holds.mono {machine : Machine} {length shorter : Nat}
    (holds : machine.Holds length) (le : shorter ≤ length) : machine.Holds shorter where
  wide := holds.wide
  inside := by
    have inside := holds.inside
    omega
  reach := by
    intro strict
    have reach := holds.reach strict
    omega

/-- Words of 64 bits, where no sum may leave them. -/
def Machine.word64 : Machine := ⟨18446744073709551616, true⟩

/-- Words of 32 bits, too few for a place and a length together. -/
def Machine.word32 : Machine := ⟨4294967296, false⟩

/-- Memory is addressed by half of the words, and so is every octet string in it. -/
theorem Machine.holds_word64 {length : Nat} (fits : length < 9223372036854775808) :
    word64.Holds length where
  wide := by decide
  inside := Nat.lt_trans fits (by decide)
  reach := by
    intro _
    show length + 4294967295 < 18446744073709551616
    omega

theorem Machine.holds_word32 {length : Nat} (fits : length < 2147483648) :
    word32.Holds length where
  wide := by decide
  inside := Nat.lt_trans fits (by decide)
  reach := nofun

namespace Checked

/-- The run that halts at failures only, and comes to what is given. -/
def of {α : Type} (outcome : Except Failure α) : Checked α := outcome.mapError .failed

def difference (a b : Nat) : Checked Nat := if b ≤ a then .ok (a - b) else .error .difference

def sum (machine : Machine) (a b : Nat) : Checked Nat :=
  if a + b < machine.words then .ok (a + b) else .error .sum

/-- A sum that the code looks out for: absent where no word holds it. -/
def sum? (machine : Machine) (a b : Nat) : Checked (Option Nat) :=
  if a + b < machine.words then .ok (some (a + b))
  else if machine.strict then .error .sum
  else .ok none

def index (octets : Octets) (i : Nat) : Checked UInt8 :=
  match octets[i]? with
  | some octet => .ok octet
  | none => .error .index

def back (octets : Octets) (start : Nat) : Checked Octets :=
  if start ≤ octets.length then .ok (octets.drop start) else .error .slice

def front (octets : Octets) (stop : Nat) : Checked Octets :=
  if stop ≤ octets.length then .ok (octets.take stop) else .error .slice

/-- The octets between two places; absent unless these are in order and inside. -/
def between? (octets : Octets) (start stop : Nat) : Option Octets :=
  if start ≤ stop ∧ stop ≤ octets.length then some ((octets.drop start).take (stop - start))
  else none

def expect {α : Type} (found : Option α) (halt : Halt) : Checked α :=
  match found with
  | some value => .ok value
  | none => .error halt

def place (length place : Nat) : Checked Nat :=
  if place ≤ length then .ok place else .error .place

section

variable {α : Type} {a b i : Nat} {octets : Octets} {machine : Machine}

@[simp] theorem of_ok (value : α) : of (.ok value) = .ok value := rfl

@[simp] theorem of_error (failure : Failure) :
    (of (.error failure) : Checked α) = .error (.failed failure) := rfl

@[simp] theorem ok_bind {β : Type} (value : α) (next : α → Checked β) :
    ((.ok value : Checked α) >>= next) = next value := rfl

@[simp] theorem error_bind {β : Type} (halt : Halt) (next : α → Checked β) :
    ((.error halt : Checked α) >>= next) = .error halt := rfl

@[simp] theorem pure_eq_ok (value : α) : (pure value : Checked α) = .ok value := rfl

@[simp] theorem expect_some (value : α) (halt : Halt) : expect (some value) halt = .ok value := rfl

@[simp] theorem expect_none (halt : Halt) : (expect none halt : Checked α) = .error halt := rfl

theorem difference_of_le (le : b ≤ a) : difference a b = .ok (a - b) := if_pos le

theorem sum_of_lt (lt : a + b < machine.words) : sum machine a b = .ok (a + b) := if_pos lt

theorem index_of_lt (lt : i < octets.length) : index octets i = .ok (octets.getD i 0) := by
  simp [index, lt]

theorem back_of_le (le : i ≤ octets.length) : back octets i = .ok (octets.drop i) := if_pos le

theorem place_of_le (le : a ≤ b) : place b a = .ok a := if_pos le

end

end Checked

structure Cursor where
  buffer : Octets
  position : Nat
deriving Repr, DecidableEq

/-- A step of a cursor; one that falls short still says where the cursor stands. -/
def Step (α : Type) : Type := Cursor → Checked (Option α × Cursor)

instance : Monad Step where
  pure value := fun cursor => .ok (some value, cursor)
  bind step next := fun cursor =>
    match step cursor with
    | .ok (some value, after) => next value after
    | .ok (none, after) => .ok (none, after)
    | .error halt => .error halt

instance : MonadLift Checked Step where
  monadLift run := fun cursor => run.map fun value => (some value, cursor)

namespace Reader

variable {α β : Type}

theorem bind_eq (read : Read α) (next : α → Read β) (reader : Reader) :
    (read >>= next) reader = match read reader with
      | (some value, after) => next value after
      | (none, after) => (none, after) := rfl

/-! Reads of a fixed length, by the octets they take. -/

theorem octet_eq_take : octet = (do let octets ← take 1; return octets.getD 0 0) := by
  funext reader
  rcases reader with ⟨position, _ | ⟨a, rest⟩⟩
  · rfl
  · have taken : take 1 ⟨position, a :: rest⟩ = (some [a], ⟨position + 1, rest⟩) :=
      take_eq_some.mpr ⟨rfl, rfl, rfl⟩
    simp only [bind_eq, taken]
    rfl

theorem u16_eq_take :
    u16 = (do let octets ← take 2; return Octets.toU16 (octets.getD 0 0) (octets.getD 1 0)) := by
  funext reader
  rcases reader with ⟨position, _ | ⟨a, _ | ⟨b, rest⟩⟩⟩
  iterate 2 · rfl
  have taken : take 2 ⟨position, a :: b :: rest⟩ = (some [a, b], ⟨position + 2, rest⟩) :=
    take_eq_some.mpr ⟨rfl, rfl, rfl⟩
  simp only [bind_eq, taken]
  rfl

theorem u32_eq_take : u32 = (do
    let octets ← take 4
    return Octets.toU32 (octets.getD 0 0) (octets.getD 1 0) (octets.getD 2 0)
      (octets.getD 3 0)) := by
  funext reader
  rcases reader with ⟨position, _ | ⟨a, _ | ⟨b, _ | ⟨c, _ | ⟨d, rest⟩⟩⟩⟩⟩
  iterate 4 · rfl
  have taken : take 4 ⟨position, a :: b :: c :: d :: rest⟩ =
      (some [a, b, c, d], ⟨position + 4, rest⟩) := take_eq_some.mpr ⟨rfl, rfl, rfl⟩
  simp only [bind_eq, taken]
  rfl

end Reader

namespace Cursor

open Checked

def ofOctets (octets : Octets) : Cursor := ⟨octets, 0⟩

def remaining (cursor : Cursor) : Checked Nat := difference cursor.buffer.length cursor.position

def seek (cursor : Cursor) (position : Nat) : Checked Cursor := do
  return { cursor with position := ← place cursor.buffer.length position }

def take (machine : Machine) (n : Nat) : Step Octets := fun cursor => do
  match ← sum? machine cursor.position n with
  | none => return (none, cursor)
  | some stop =>
    match between? cursor.buffer cursor.position stop with
    | none => return (none, cursor)
    | some octets => return (some octets, ← cursor.seek stop)

def octet (machine : Machine) : Step UInt8 := do
  index (← take machine 1) 0

def u16 (machine : Machine) : Step UInt16 := do
  let octets ← take machine 2
  return Octets.toU16 (← index octets 0) (← index octets 1)

def u32 (machine : Machine) : Step UInt32 := do
  let octets ← take machine 4
  return Octets.toU32 (← index octets 0) (← index octets 1) (← index octets 2) (← index octets 3)

def prefixed (machine : Machine) : Step Octets := do
  let length ← octet machine
  take machine length.toNat

def times {α : Type} (step : Step α) : Nat → Step (List α)
  | 0 => pure []
  | n + 1 => do
    let value ← step
    let values ← times step n
    return value :: values

def drain : Step Octets := fun cursor => do
  return (some (← back cursor.buffer cursor.position), ← cursor.seek cursor.buffer.length)

def require (condition : Bool) : Step Unit := fun cursor =>
  .ok (if condition then some () else none, cursor)

/-- A step from a place, and where it leads; the run halts where the step falls short. -/
def need {α : Type} (cursor : Cursor) (step : Step α) (halt : Halt) : Checked (α × Cursor) := do
  match ← step cursor with
  | (some value, after) => return (value, after)
  | (none, _) => .error halt

/-- The cursor is inside the octets, at the place where the reader is. -/
structure Stands (octets : Octets) (cursor : Cursor) (reader : Reader) : Prop where
  buffer : cursor.buffer = octets
  inside : cursor.position ≤ octets.length
  position : reader.position = cursor.position
  rest : reader.rest = octets.drop cursor.position

/-- From every place in the octets the step comes to what the read comes to, halts nowhere, and
leads to where the read leads. -/
def InStep {α : Type} (octets : Octets) (step : Step α) (read : Read α) : Prop :=
  ∀ cursor reader, Stands octets cursor reader →
    ∃ after, step cursor = .ok ((read reader).1, after) ∧ Stands octets after (read reader).2

variable {α β : Type} {machine : Machine} {octets : Octets} {cursor : Cursor} {reader : Reader}
  {step : Step α} {read : Read α} {n : Nat}

theorem stands_ofOctets (octets : Octets) : Stands octets (ofOctets octets) (.ofOctets octets) :=
  ⟨rfl, Nat.zero_le _, rfl, rfl⟩

/-- What is left is what the reader has left. -/
theorem remaining_eq (stands : Stands octets cursor reader) :
    cursor.remaining = .ok reader.rest.length := by
  obtain ⟨rfl, inside, _, rest⟩ := stands
  simp [remaining, difference_of_le inside, rest]

theorem bind_eq (step : Step α) (next : α → Step β) (cursor : Cursor) :
    (step >>= next) cursor = match step cursor with
      | .ok (some value, after) => next value after
      | .ok (none, after) => .ok (none, after)
      | .error halt => .error halt := rfl

theorem inStep_pure (value : α) : InStep octets (pure value) (pure value) :=
  fun cursor _ stands => ⟨cursor, rfl, stands⟩

theorem inStep_lift {run : Checked α} {value : α} (ran : run = .ok value) :
    InStep octets (monadLift run) (pure value) := by
  subst ran
  exact inStep_pure value

theorem inStep_require (condition : Bool) :
    InStep octets (require condition) (Reader.require condition) :=
  fun cursor _ stands => ⟨cursor, rfl, stands⟩

theorem inStep_bind {next : α → Step β} {next' : α → Read β} (first : InStep octets step read)
    (further : ∀ value reader after, read reader = (some value, after) →
      InStep octets (next value) (next' value)) :
    InStep octets (step >>= next) (read >>= next') := by
  intro cursor reader stands
  obtain ⟨middle, stepped, stands'⟩ := first cursor reader stands
  simp only [bind_eq, Reader.bind_eq]
  cases found : read reader with
  | mk value after =>
    simp only [found] at stepped stands'
    simp only [stepped]
    cases value with
    | none => exact ⟨middle, rfl, stands'⟩
    | some value => exact further value reader after found middle after stands'

/-- A take falls short for the cursor where it does for the reader: where a sum is not held, the
octets do not reach so far either. Only a strict machine has to hold a sum with what is asked for. -/
theorem inStep_take_of_reach (held : octets.length < machine.words)
    (reach : machine.strict = true → octets.length + n < machine.words) :
    InStep octets (take machine n) (Reader.take n) := by
  intro cursor reader stands
  obtain ⟨position, rest⟩ := reader
  obtain ⟨buffer, inside, same, left⟩ := stands
  simp only at same left
  subst buffer same left
  have left : (cursor.buffer.drop cursor.position).length = cursor.buffer.length - cursor.position :=
    List.length_drop
  -- Inside the octets the sum is held; beyond them it may not be, and then no machine is strict.
  by_cases reached : cursor.position + n ≤ cursor.buffer.length
  · have sum : sum? machine cursor.position n = .ok (some (cursor.position + n)) :=
      if_pos (by omega)
    have part : between? cursor.buffer cursor.position (cursor.position + n) =
        some ((cursor.buffer.drop cursor.position).take n) := by
      simp [between?, reached]
    have cut : Octets.cut? n (cursor.buffer.drop cursor.position) =
        some ((cursor.buffer.drop cursor.position).take n,
          cursor.buffer.drop (cursor.position + n)) := by
      rw [Octets.cut?_eq, if_pos (by omega), List.drop_drop]
    refine ⟨⟨cursor.buffer, cursor.position + n⟩, ?_, rfl, reached, ?_, ?_⟩
    · simp [take, sum, part, seek, place_of_le reached, Reader.take, cut]
    · simp [Reader.take, cut]
    · simp [Reader.take, cut]
  · have cut : Octets.cut? n (cursor.buffer.drop cursor.position) = none := by
      rw [Octets.cut?_eq, if_neg (by omega)]
    refine ⟨cursor, ?_, rfl, inside, ?_, ?_⟩
    · by_cases fits : cursor.position + n < machine.words
      · have sum : sum? machine cursor.position n = .ok (some (cursor.position + n)) := if_pos fits
        have part : between? cursor.buffer cursor.position (cursor.position + n) = none := by
          simp [between?, reached]
        simp [take, sum, part, Reader.take, cut]
      · have lenient : ¬machine.strict = true := by
          intro strict
          have reach := reach strict
          omega
        have sum : sum? machine cursor.position n = .ok none := by
          simp [sum?, fits, lenient]
        simp [take, sum, Reader.take, cut]
    · simp [Reader.take, cut]
    · simp [Reader.take, cut]

theorem inStep_octet_of_take (takes : InStep octets (take machine 1) (Reader.take 1)) :
    InStep octets (octet machine) Reader.octet := by
  rw [Reader.octet_eq_take]
  apply inStep_bind takes
  intro part _ _ taken
  have length := (Reader.take_eq_some.mp taken).1
  exact inStep_lift (index_of_lt (by omega))

theorem inStep_u16_of_take (takes : InStep octets (take machine 2) (Reader.take 2)) :
    InStep octets (u16 machine) Reader.u16 := by
  rw [Reader.u16_eq_take]
  apply inStep_bind takes
  intro part _ _ taken
  have length := (Reader.take_eq_some.mp taken).1
  have first : index part 0 = .ok (part.getD 0 0) := index_of_lt (by omega)
  have second : index part 1 = .ok (part.getD 1 0) := index_of_lt (by omega)
  simp only [first, second]
  exact inStep_pure _

theorem inStep_u32_of_take (takes : InStep octets (take machine 4) (Reader.take 4)) :
    InStep octets (u32 machine) Reader.u32 := by
  rw [Reader.u32_eq_take]
  apply inStep_bind takes
  intro part _ _ taken
  have length := (Reader.take_eq_some.mp taken).1
  have first : index part 0 = .ok (part.getD 0 0) := index_of_lt (by omega)
  have second : index part 1 = .ok (part.getD 1 0) := index_of_lt (by omega)
  have third : index part 2 = .ok (part.getD 2 0) := index_of_lt (by omega)
  have fourth : index part 3 = .ok (part.getD 3 0) := index_of_lt (by omega)
  simp only [first, second, third, fourth]
  exact inStep_pure _

theorem inStep_prefixed_of_take
    (takes : ∀ n ≤ 255, InStep octets (take machine n) (Reader.take n)) :
    InStep octets (prefixed machine) Reader.prefixed := by
  apply inStep_bind (inStep_octet_of_take (takes 1 (by decide)))
  intro length _ _ _
  exact takes length.toNat (Nat.le_of_lt_succ length.toNat_lt)

theorem inStep_take (holds : machine.Holds octets.length) (small : n ≤ 4294967295) :
    InStep octets (take machine n) (Reader.take n) := by
  apply inStep_take_of_reach holds.inside
  intro strict
  have reach := holds.reach strict
  omega

theorem inStep_octet (holds : machine.Holds octets.length) :
    InStep octets (octet machine) Reader.octet :=
  inStep_octet_of_take (inStep_take holds (by decide))

theorem inStep_u16 (holds : machine.Holds octets.length) :
    InStep octets (u16 machine) Reader.u16 :=
  inStep_u16_of_take (inStep_take holds (by decide))

theorem inStep_u32 (holds : machine.Holds octets.length) :
    InStep octets (u32 machine) Reader.u32 :=
  inStep_u32_of_take (inStep_take holds (by decide))

theorem inStep_prefixed (holds : machine.Holds octets.length) :
    InStep octets (prefixed machine) Reader.prefixed :=
  inStep_prefixed_of_take fun _ small => inStep_take holds (Nat.le_trans small (by decide))

theorem inStep_times (each : InStep octets step read) (n : Nat) :
    InStep octets (times step n) (Reader.times read n) := by
  induction n with
  | zero => exact inStep_pure []
  | succ n ih =>
    apply inStep_bind each
    intro value _ _ _
    apply inStep_bind ih
    intro values _ _ _
    exact inStep_pure (value :: values)

theorem inStep_drain : InStep octets drain Reader.drain := by
  intro cursor reader stands
  obtain ⟨position, rest⟩ := reader
  obtain ⟨buffer, inside, same, left⟩ := stands
  simp only at same left
  subst buffer same left
  refine ⟨⟨cursor.buffer, cursor.buffer.length⟩, ?_, rfl, Nat.le_refl _, ?_, ?_⟩
  · simp [drain, back_of_le inside, seek, place, Reader.drain]
  · simp [Reader.drain]
    omega
  · simp [Reader.drain]

/-- A step that has to succeed, in step with a read that does. -/
theorem need_of_some {value : α} {next : Reader} (inStep : InStep octets step read)
    (stands : Stands octets cursor reader) (found : read reader = (some value, next))
    (halt : Halt) : ∃ after, cursor.need step halt = .ok (value, after) ∧
      Stands octets after next := by
  obtain ⟨after, stepped, stands'⟩ := inStep cursor reader stands
  simp only [found] at stepped stands'
  exact ⟨after, by simp [need, stepped], stands'⟩

theorem need_of_none (inStep : InStep octets step read) (stands : Stands octets cursor reader)
    (short : (read reader).1 = none) (halt : Halt) : cursor.need step halt = .error halt := by
  obtain ⟨after, stepped, _⟩ := inStep cursor reader stands
  simp [need, stepped, short]

end Cursor
end BridgeTag
