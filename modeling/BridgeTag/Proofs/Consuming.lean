import BridgeTag.Proofs.Checked.Cursor

/-! Readers under any calls in any order. A call takes the octets that its result spells, or falls
short; a prefixed read alone may then have taken an octet, its length. So the octets that calls
consume are those in front of the reader, and a cursor in the whole buffer keeps up with it. -/
namespace BridgeTag

namespace Reader

inductive Call where
  | take (length : Nat)
  | octet
  | u16
  | u32
  | prefixed
  | drain
deriving Repr, DecidableEq

namespace Call

/-- What a call comes to unless it falls short. -/
def Result : Call → Type
  | take _ | prefixed | drain => Octets
  | octet => UInt8
  | u16 => UInt16
  | u32 => UInt32

def read : (call : Call) → Read call.Result
  | take length => Reader.take length
  | octet => Reader.octet
  | u16 => Reader.u16
  | u32 => Reader.u32
  | prefixed => Reader.prefixed
  | drain => Reader.drain

/-- The octets that a result was read from. -/
def spelling : (call : Call) → call.Result → Octets
  | take _, octets => octets
  | octet, value => [value]
  | u16, value => Octets.ofU16 value
  | u32, value => Octets.ofU32 value
  | prefixed, octets => UInt8.ofNat octets.length :: octets
  | drain, octets => octets

/-- How many octets have to be left for a call, where these are left. -/
def needs : Call → Octets → Nat
  | take length, _ => length
  | octet, _ => 1
  | u16, _ => 2
  | u32, _ => 4
  | prefixed, [] => 1
  | prefixed, length :: _ => 1 + length.toNat
  | drain, _ => 0

/-- The octets that a call takes even though it falls short. -/
def lost : Call → Octets → Octets
  | prefixed, rest => rest.take 1
  | _, _ => []

def consumed (call : Call) (reader : Reader) : Octets :=
  match (call.read reader).1 with
  | some result => call.spelling result
  | none => call.lost reader.rest

/-- All that a call can do to a reader: succeed, where there is enough, or fall short. -/
inductive Does (call : Call) (reader : Reader) : Option call.Result × Reader → Prop where
  | whole {result : call.Result} {after : Reader}
      (enough : call.needs reader.rest ≤ reader.remaining)
      (taken : reader.rest = call.spelling result ++ after.rest)
      (moved : after.position = reader.position + (call.spelling result).length) :
      Does call reader (some result, after)
  | short {after : Reader}
      (few : reader.remaining < call.needs reader.rest)
      (taken : reader.rest = call.lost reader.rest ++ after.rest)
      (moved : after.position = reader.position + (call.lost reader.rest).length) :
      Does call reader (none, after)

end Call

variable {reader : Reader}

theorem take_of_le {n : Nat} (enough : n ≤ reader.rest.length) :
    take n reader = (some (reader.rest.take n), ⟨reader.position + n, reader.rest.drop n⟩) := by
  simp [take, Octets.cut?_eq, enough]

theorem take_of_lt {n : Nat} (few : reader.rest.length < n) : take n reader = (none, reader) := by
  simp [take, Octets.cut?_eq, Nat.not_le.mpr few]

namespace Call

theorem does_take (n : Nat) (reader : Reader) : (take n).Does reader ((take n).read reader) := by
  rcases Nat.lt_or_ge reader.rest.length n with few | enough
  · have outcome : (take n).read reader = (none, reader) := take_of_lt few
    rw [outcome]
    exact .short few rfl rfl
  · have outcome : (take n).read reader = _ := take_of_le enough
    rw [outcome]
    refine .whole enough (List.take_append_drop n reader.rest).symm ?_
    simp [spelling, Nat.min_eq_left enough]

theorem does_octet : (reader : Reader) → octet.Does reader (octet.read reader)
  | ⟨_, []⟩ => .short Nat.one_pos rfl rfl
  | ⟨_, _ :: rest⟩ => .whole (Nat.le_add_left 1 rest.length) rfl rfl

theorem does_u16 : (reader : Reader) → u16.Does reader (u16.read reader)
  | ⟨_, []⟩ | ⟨_, [_]⟩ => .short (by simp [remaining, needs]) rfl rfl
  | ⟨_, a :: b :: rest⟩ => by
    refine .whole (Nat.le_add_left 2 rest.length) ?_ rfl
    simp [spelling, Octets.ofU16_toU16]

theorem does_u32 : (reader : Reader) → u32.Does reader (u32.read reader)
  | ⟨_, []⟩ | ⟨_, [_]⟩ | ⟨_, [_, _]⟩ | ⟨_, [_, _, _]⟩ => .short (by simp [remaining, needs]) rfl rfl
  | ⟨_, a :: b :: c :: d :: rest⟩ => by
    refine .whole (Nat.le_add_left 4 rest.length) ?_ rfl
    simp [spelling, Octets.ofU32_toU32]

theorem does_prefixed : (reader : Reader) → prefixed.Does reader (prefixed.read reader)
  | ⟨_, []⟩ => .short Nat.one_pos rfl rfl
  | ⟨position, length :: rest⟩ => by
    -- The length octet is read before anything is known of what should follow it.
    have opened : prefixed.read ⟨position, length :: rest⟩ =
      Reader.take length.toNat ⟨position + 1, rest⟩ := rfl
    rcases Nat.lt_or_ge rest.length length.toNat with few | enough
    · have few' : rest.length + 1 < 1 + length.toNat := by omega
      rw [opened, take_of_lt few]
      exact .short few' rfl rfl
    · have enough' : 1 + length.toNat ≤ rest.length + 1 := by omega
      have taken : (rest.take length.toNat).length = length.toNat := by
        rw [List.length_take, Nat.min_eq_left enough]
      rw [opened, take_of_le enough]
      refine .whole enough' ?_ ?_
      · simp [spelling, taken]
      · simp only [spelling, List.length_cons, taken]
        omega

theorem does_drain (reader : Reader) : drain.Does reader (drain.read reader) :=
  .whole (Nat.zero_le _) (List.append_nil _).symm rfl

theorem does (call : Call) (reader : Reader) : call.Does reader (call.read reader) := by
  cases call with
  | take n => exact does_take n reader
  | octet => exact does_octet reader
  | u16 => exact does_u16 reader
  | u32 => exact does_u32 reader
  | prefixed => exact does_prefixed reader
  | drain => exact does_drain reader

variable {call : Call}

/-- Consumed octets are taken from the front of what is left, and the position counts them. -/
theorem consumed_append (call : Call) (reader : Reader) :
    reader.rest = call.consumed reader ++ (call.read reader).2.rest ∧
      (call.read reader).2.position = reader.position + (call.consumed reader).length := by
  have does := call.does reader
  unfold consumed
  generalize call.read reader = outcome at does ⊢
  cases does with
  | whole _ taken moved => exact ⟨taken, moved⟩
  | short _ taken moved => exact ⟨taken, moved⟩

/-- What a call keeps to, wherever the reader is. -/
structure Lawful (call : Call) (reader : Reader) : Prop where
  forward : reader.position ≤ (call.read reader).2.position
  succeeds : (∃ result, (call.read reader).1 = some result) ↔
    call.needs reader.rest ≤ reader.remaining
  /-- A prefixed read that falls short is behind the length octet, if there was one. -/
  opened : call = .prefixed → (call.read reader).1 = none →
    (call.read reader).2.position = reader.position + if reader.remaining = 0 then 0 else 1
  /-- Every other read that falls short leaves the reader as it was. -/
  stays : call ≠ .prefixed → (call.read reader).1 = none → (call.read reader).2 = reader

theorem lost_of_ne {rest : Octets} (other : call ≠ .prefixed) : call.lost rest = [] := by
  cases call with
  | prefixed => exact absurd rfl other
  | _ => rfl

theorem length_lost_prefixed (rest : Octets) :
    (prefixed.lost rest).length = if rest.length = 0 then 0 else 1 := by
  cases rest <;> rfl

theorem lawful (call : Call) (reader : Reader) : call.Lawful reader := by
  have does := call.does reader
  constructor
  all_goals generalize call.read reader = outcome at does ⊢
  case forward =>
    cases does with
    | whole _ _ moved | short _ _ moved => exact moved ▸ Nat.le_add_right _ _
  case succeeds =>
    cases does with
    | whole enough => exact ⟨fun _ => enough, fun _ => ⟨_, rfl⟩⟩
    | short few => exact ⟨nofun, fun enough => absurd enough (Nat.not_le.mpr few)⟩
  case opened =>
    intro same short
    subst same
    cases does with
    | whole => cases short
    | short _ _ moved => rw [moved, length_lost_prefixed, remaining]
  case stays =>
    intro other short
    cases does with
    | whole => cases short
    | short _ taken moved =>
      rw [lost_of_ne other] at taken moved
      exact (eq_iff_rest_eq.mpr ⟨taken, moved⟩).symm

def step (machine : Machine) : (call : Call) → Step call.Result
  | take length => Cursor.take machine length
  | octet => Cursor.octet machine
  | u16 => Cursor.u16 machine
  | u32 => Cursor.u32 machine
  | prefixed => Cursor.prefixed machine
  | drain => Cursor.drain

theorem inStep_step {machine : Machine} {buffer : Octets}
    (takes : ∀ n, Cursor.InStep buffer (Cursor.take machine n) (Reader.take n)) (call : Call) :
    Cursor.InStep buffer (call.step machine) call.read := by
  cases call with
  | take n => exact takes n
  | octet => exact Cursor.inStep_octet_of_take (takes 1)
  | u16 => exact Cursor.inStep_u16_of_take (takes 2)
  | u32 => exact Cursor.inStep_u32_of_take (takes 4)
  | prefixed => exact Cursor.inStep_prefixed_of_take fun n _ => takes n
  | drain => exact Cursor.inStep_drain

end Call

/-- The reader behind calls, whether or not these fell short. -/
def after : List Call → Reader → Reader
  | [], reader => reader
  | call :: calls, reader => after calls (call.read reader).2

def consumed : List Call → Reader → Octets
  | [], _ => []
  | call :: calls, reader => call.consumed reader ++ consumed calls (call.read reader).2

theorem consumed_append_after (calls : List Call) (reader : Reader) :
    reader.rest = consumed calls reader ++ (after calls reader).rest ∧
      (after calls reader).position = reader.position + (consumed calls reader).length := by
  induction calls generalizing reader with
  | nil => exact ⟨rfl, rfl⟩
  | cons call calls ih =>
    obtain ⟨taken, moved⟩ := call.consumed_append reader
    obtain ⟨taken', moved'⟩ := ih (call.read reader).2
    constructor
    · rw [taken, taken', consumed, after, List.append_assoc]
    · rw [after, consumed, moved', moved, List.length_append, Nat.add_assoc]

end Reader

namespace Cursor

open Reader

variable {machine : Machine} {buffer : Octets} {cursor : Cursor} {reader : Reader}

/-- The cursor behind calls, unless one of these halts. -/
def after (machine : Machine) : List Call → Cursor → Checked Cursor
  | [], cursor => .ok cursor
  | call :: calls, cursor => do
    let (_, next) ← call.step machine cursor
    after machine calls next

theorem Stands.cursor_eq (stands : Stands buffer cursor reader) :
    cursor = ⟨buffer, reader.position⟩ := by
  obtain ⟨rfl, _, same, _⟩ := stands
  rw [same]

theorem stands_after
    (takes : ∀ n, InStep buffer (take machine n) (Reader.take n)) (calls : List Call)
    (stands : Stands buffer cursor reader) :
    ∃ next, after machine calls cursor = .ok next ∧
      Stands buffer next (Reader.after calls reader) := by
  induction calls generalizing cursor reader with
  | nil => exact ⟨cursor, rfl, stands⟩
  | cons call calls ih =>
    obtain ⟨next, stepped, stands'⟩ := Call.inStep_step takes call cursor reader stands
    rw [after, stepped]
    exact ih stands'

end Cursor

namespace Reader

/-- Behind any calls the buffer is in two: what they consumed, and what is left. -/
theorem buffer_eq_consumed_append (buffer : Octets) (calls : List Call) :
    buffer = consumed calls (ofOctets buffer) ++ (after calls (ofOctets buffer)).rest ∧
      (after calls (ofOctets buffer)).position = (consumed calls (ofOctets buffer)).length := by
  obtain ⟨taken, moved⟩ := consumed_append_after calls (ofOctets buffer)
  exact ⟨taken, moved.trans (Nat.zero_add _)⟩

/-- A buffer is read in order, whatever the calls. The reader stays inside it, what calls have
consumed is what is in front of the reader, and a further call moves it forward, succeeds exactly
where it finds what it needs, and leaves it in place if not, but for the length of a prefixed read.
A cursor in a buffer that words can measure comes to the same with each access checked, also where a
length that is asked for goes beyond the words. -/
theorem calls_consume_in_order (buffer : Octets) (calls : List Call) :
    let reader := after calls (ofOctets buffer)
    reader.position ≤ buffer.length ∧ reader.remaining = buffer.length - reader.position ∧
    consumed calls (ofOctets buffer) = buffer.take reader.position ∧
    (∀ call : Call, call.Lawful reader) ∧
    ∀ machine : Machine, machine.strict = false → buffer.length < machine.words →
      Cursor.after machine calls (.ofOctets buffer) = .ok ⟨buffer, reader.position⟩ ∧
      ∀ call : Call, call.step machine ⟨buffer, reader.position⟩ =
        .ok ((call.read reader).1, ⟨buffer, (call.read reader).2.position⟩) := by
  intro reader
  obtain ⟨parts, position⟩ := buffer_eq_consumed_append buffer calls
  have length : buffer.length = reader.position + reader.rest.length := by
    rw [position, ← List.length_append, ← parts]
  refine ⟨by omega, ?_, ?_, fun call => call.lawful reader, ?_⟩
  · rw [remaining]
    omega
  · rw [position]
    exact List.prefix_iff_eq_take.mp ⟨_, parts.symm⟩
  · intro machine lenient held
    have takes (n : Nat) : Cursor.InStep buffer (Cursor.take machine n) (take n) :=
      Cursor.inStep_take_of_reach held fun strict => by simp [lenient] at strict
    obtain ⟨next, ran, stands⟩ := Cursor.stands_after takes calls (Cursor.stands_ofOctets buffer)
    obtain rfl := stands.cursor_eq
    refine ⟨ran, ?_⟩
    intro call
    obtain ⟨next, stepped, stands'⟩ := Call.inStep_step takes call _ _ stands
    rw [stepped, stands'.cursor_eq]

/-- A length octet with too little behind it is consumed all the same, by a call that falls short.
Nothing is consumed by calls for more than is left, be it so much that no word of 64 bits holds the
place behind it, and the last octet is still there for a further call. -/
theorem calls_consume_shortfall :
    consumed [.prefixed, .u16, .take 18446744073709551615] (ofOctets [0x05, 0x01]) = [0x05] ∧
    Cursor.after ⟨18446744073709551616, false⟩ [.prefixed, .u16, .take 18446744073709551615]
      (.ofOctets [0x05, 0x01]) = .ok ⟨[0x05, 0x01], 1⟩ ∧
    Cursor.drain ⟨[0x05, 0x01], 1⟩ = .ok (some [0x01], ⟨[0x05, 0x01], 2⟩) := by
  obtain ⟨_, _, taken, _, kept⟩ := calls_consume_in_order [0x05, 0x01]
    [.prefixed, .u16, .take 18446744073709551615]
  obtain ⟨ran, further⟩ := kept ⟨18446744073709551616, false⟩ rfl (by decide)
  exact ⟨taken, ran, further .drain⟩

end Reader
end BridgeTag
