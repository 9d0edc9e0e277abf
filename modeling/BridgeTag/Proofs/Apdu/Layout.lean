import BridgeTag.Apdu.Command

/-! Layouts of a command APDU: the header, then one of five bodies. Decoding accepts exactly the
octets of a layout, and no octets have two layouts. -/
namespace BridgeTag.Apdu

/-- Data that is announced by its length: not none, and no more than the length field can count. -/
@[ext]
structure DataField (limit : Nat) where
  octets : Octets
  nonempty : octets ≠ []
  fits : octets.length ≤ limit

inductive Body where
  | empty
  | shortLe (le : UInt8)
  | extendedLe (le : UInt16)
  | shortData (field : DataField 255) (le : Option UInt8)
  | extendedData (field : DataField 65535) (le : Option UInt16)

namespace Body

def octets : Body → Octets
  | empty => []
  | shortLe le => [le]
  | extendedLe le => 0 :: Octets.ofU16 le
  | shortData field le => UInt8.ofNat field.octets.length :: (field.octets ++ le.toList)
  | extendedData field le =>
    0 :: (Octets.ofU16 (UInt16.ofNat field.octets.length) ++
      (field.octets ++ le.elim [] Octets.ofU16))

def data : Body → Octets
  | empty | shortLe _ | extendedLe _ => []
  | shortData field _ => field.octets
  | extendedData field _ => field.octets

def le : Body → Option Le
  | empty => none
  | shortLe le => some (Le.ofWire le.toUInt16)
  | extendedLe le => some (Le.ofWire le)
  | shortData _ le => le.map fun octet => Le.ofWire octet.toUInt16
  | extendedData _ le => le.map Le.ofWire

def short : Body → Bool
  | empty | shortLe _ | shortData _ _ => true
  | extendedLe _ | extendedData _ _ => false

end Body

namespace DataField

theorem toNat_shortLength (field : DataField 255) :
    (UInt8.ofNat field.octets.length).toNat = field.octets.length :=
  UInt8.toNat_ofNat_of_lt' (Nat.lt_succ_of_le field.fits)

theorem toNat_extendedLength (field : DataField 65535) :
    (UInt16.ofNat field.octets.length).toNat = field.octets.length :=
  UInt16.toNat_ofNat_of_lt' (Nat.lt_succ_of_le field.fits)

variable {limit : Nat}

theorem length_ne_zero (field : DataField limit) : field.octets.length ≠ 0 := by
  simpa using field.nonempty

/-- The length octet of data is never the zero that opens an extended body. -/
theorem shortLength_ne_zero (field : DataField 255) : UInt8.ofNat field.octets.length ≠ 0 := by
  intro zero
  have same := congrArg UInt8.toNat zero
  rw [toNat_shortLength] at same
  exact field.length_ne_zero same

theorem zero_ne_shortLength (field : DataField 255) : 0 ≠ UInt8.ofNat field.octets.length :=
  field.shortLength_ne_zero.symm

end DataField

namespace Command

variable {octets data rest : Octets} {le : Option Le} {command : Command}

/-! How the decoder tells the bodies apart: by their first octet and by what is left after it. -/

theorem fields?_zero (more : rest ≠ []) : fields? (0 :: rest) = extendedFields? rest := by
  obtain ⟨first, rest, rfl⟩ := List.exists_cons_of_ne_nil more
  rfl

theorem fields?_length {length : UInt8} (more : rest ≠ []) (nonzero : length ≠ 0) :
    fields? (length :: rest) = shortFields? length rest := by
  obtain ⟨first, rest, rfl⟩ := List.exists_cons_of_ne_nil more
  exact if_neg nonzero

theorem shortFields?_eq_some {length : UInt8} : shortFields? length rest = some (data, le) ↔
    data.length = length.toNat ∧ ∃ octet : Option UInt8, rest = data ++ octet.toList ∧
      le = octet.map fun octet => Le.ofWire octet.toUInt16 := by
  unfold shortFields?
  constructor
  · intro found
    split at found
    next front cut =>
      cases found
      obtain ⟨counted, same⟩ := Octets.cut?_eq_some.mp cut
      exact ⟨counted, none, same, rfl⟩
    next front octet cut =>
      cases found
      obtain ⟨counted, same⟩ := Octets.cut?_eq_some.mp cut
      exact ⟨counted, some octet, same, rfl⟩
    next => cases found
  · intro parts
    obtain ⟨counted, octet, rfl, rfl⟩ := parts
    rw [Octets.cut?_append counted]
    cases octet <;> rfl

theorem extendedFields?_le (le : UInt16) :
    extendedFields? (Octets.ofU16 le) = some ([], some (Le.ofWire le)) := by
  rw [Octets.ofU16, extendedFields?, Octets.toU16_ofU16]

theorem extendedFields?_eq_some {length : UInt16} (more : rest ≠ []) :
    extendedFields? (Octets.ofU16 length ++ rest) = some (data, le) ↔
      data.length = length.toNat ∧ length.toNat ≠ 0 ∧ ∃ field : Option UInt16,
        rest = data ++ field.elim [] Octets.ofU16 ∧ le = field.map Le.ofWire := by
  obtain ⟨first, rest, rfl⟩ := List.exists_cons_of_ne_nil more
  simp only [Octets.ofU16, List.cons_append, List.nil_append, extendedFields?, Octets.toU16_ofU16]
  by_cases zero : length.toNat = 0
  · simp [zero]
  · rw [if_neg zero]
    constructor
    · intro found
      split at found
      next front cut =>
        cases found
        obtain ⟨counted, same⟩ := Octets.cut?_eq_some.mp cut
        exact ⟨counted, zero, none, same, rfl⟩
      next front high low cut =>
        cases found
        obtain ⟨counted, same⟩ := Octets.cut?_eq_some.mp cut
        refine ⟨counted, zero, some (Octets.toU16 high low), ?_, rfl⟩
        rw [same, Option.elim, Octets.ofU16_toU16]
      next => cases found
    · intro parts
      obtain ⟨counted, _, field, same, rfl⟩ := parts
      rw [same, Octets.cut?_append counted]
      cases field with
      | none => rfl
      | some value => simp only [Option.elim, Octets.ofU16, Octets.toU16_ofU16, Option.map_some]

/-- The decoder reads every body back. -/
theorem fields?_octets (body : Body) : fields? body.octets = some (body.data, body.le) := by
  cases body with
  | empty => rfl
  | shortLe le => rfl
  | extendedLe le =>
    rw [Body.octets, fields?_zero (by simp), extendedFields?_le]
    rfl
  | shortData field le =>
    have more : field.octets ++ le.toList ≠ [] := by simp [field.nonempty]
    rw [Body.octets, fields?_length more field.shortLength_ne_zero, shortFields?_eq_some]
    exact ⟨field.toNat_shortLength.symm, le, rfl, rfl⟩
  | extendedData field le =>
    have more : field.octets ++ le.elim [] Octets.ofU16 ≠ [] := by simp [field.nonempty]
    rw [Body.octets, fields?_zero (by simp), extendedFields?_eq_some more,
      field.toNat_extendedLength]
    exact ⟨rfl, field.length_ne_zero, le, rfl, rfl⟩

/-- Data that the decoder has found fits the field that announced it. -/
theorem exists_body (found : fields? octets = some (data, le)) :
    ∃ body : Body, body.octets = octets := by
  match octets with
  | [] => exact ⟨.empty, rfl⟩
  | [octet] => exact ⟨.shortLe octet, rfl⟩
  | length :: first :: rest =>
    by_cases zero : length = 0
    · subst zero
      rw [fields?_zero (by simp)] at found
      match rest with
      | [] => cases found
      | [low] =>
        refine ⟨.extendedLe (Octets.toU16 first low), ?_⟩
        rw [Body.octets, Octets.ofU16_toU16]
      | low :: next :: rest =>
        have spelled : first :: low :: next :: rest =
            Octets.ofU16 (Octets.toU16 first low) ++ next :: rest := by
          rw [Octets.ofU16_toU16]
          rfl
        rw [spelled, extendedFields?_eq_some (by simp)] at found
        obtain ⟨counted, nonzero, field, same, _⟩ := found
        have bound := (Octets.toU16 first low).toNat_lt
        have nonempty : data ≠ [] := by
          intro none
          rw [none] at counted
          exact nonzero counted.symm
        refine ⟨.extendedData ⟨data, nonempty, by omega⟩ field, ?_⟩
        rw [Body.octets]
        dsimp only
        rw [counted, UInt16.ofNat_toNat, ← same, ← spelled]
    · rw [fields?_length (by simp) zero, shortFields?_eq_some] at found
      obtain ⟨counted, octet, same, _⟩ := found
      have bound := length.toNat_lt
      have nonempty : data ≠ [] := by
        intro none
        rw [none] at counted
        exact zero (UInt8.toNat_inj.mp counted.symm)
      refine ⟨.shortData ⟨data, nonempty, by omega⟩ octet, ?_⟩
      rw [Body.octets]
      dsimp only
      rw [counted, UInt8.ofNat_toNat, ← same]

theorem fields?_eq_some : fields? octets = some (data, le) ↔
    ∃ body : Body, body.octets = octets ∧ body.data = data ∧ body.le = le := by
  constructor
  · intro found
    obtain ⟨body, rfl⟩ := exists_body found
    rw [fields?_octets, Option.some.injEq, Prod.mk.injEq] at found
    exact ⟨body, rfl, found⟩
  · intro described
    obtain ⟨body, rfl, rfl, rfl⟩ := described
    exact fields?_octets body

end Command

namespace Body

/-- The first octet and the number of octets tell which of the five bodies it is. -/
theorem octets_injective : Function.Injective octets := by
  intro left right same
  have data : left.data = right.data := by
    have read := Command.fields?_octets left
    rw [same, Command.fields?_octets, Option.some.injEq, Prod.mk.injEq] at read
    exact read.1.symm
  cases left <;> cases right
  case empty.empty => rfl
  case shortLe.shortLe le le' =>
    rw [(List.cons.inj same).1]
  case extendedLe.extendedLe le le' =>
    rw [Octets.ofU16_injective (List.cons.inj same).2]
  case shortData.shortData field le field' le' =>
    obtain rfl := DataField.ext data
    have tail := List.append_cancel_left (List.cons.inj same).2
    cases le <;> cases le' <;> cases tail <;> rfl
  case extendedData.extendedData field le field' le' =>
    obtain rfl := DataField.ext data
    have tail := List.append_cancel_left (List.append_cancel_left (List.cons.inj same).2)
    cases le <;> cases le'
    case none.none => rfl
    case some.some value value' => rw [Octets.ofU16_injective tail]
    all_goals cases tail
  -- two different bodies: either only one of them has data, or only one starts with a zero
  all_goals simp [octets, Body.data, DataField.nonempty, DataField.shortLength_ne_zero,
    DataField.zero_ne_shortLength] at same data

end Body

/-- A command APDU as its octets are laid out. -/
structure Layout where
  cla : UInt8
  ins : UInt8
  p1 : UInt8
  p2 : UInt8
  body : Body

namespace Layout

def octets (layout : Layout) : Octets :=
  [layout.cla, layout.ins, layout.p1, layout.p2] ++ layout.body.octets

def command (layout : Layout) : Command :=
  ⟨layout.cla, layout.ins, layout.p1, layout.p2, layout.body.data, layout.body.le⟩

theorem octets_injective : Function.Injective octets := by
  intro left right same
  cases left
  cases right
  simp only [octets, List.cons_append, List.nil_append, List.cons.injEq] at same
  obtain ⟨rfl, rfl, rfl, rfl, same⟩ := same
  rw [Body.octets_injective same]

end Layout

namespace Command

variable {octets : Octets} {command : Command}

theorem decode?_eq_some : decode? octets = some command ↔
    ∃ layout : Layout, layout.octets = octets ∧ layout.command = command := by
  constructor
  · intro found
    unfold decode? at found
    split at found
    next cla ins p1 p2 rest =>
      obtain ⟨⟨data, le⟩, fields, rfl⟩ := Option.map_eq_some_iff.mp found
      obtain ⟨body, rfl, rfl, rfl⟩ := fields?_eq_some.mp fields
      exact ⟨⟨cla, ins, p1, p2, body⟩, rfl, rfl⟩
    next => cases found
  · intro described
    obtain ⟨layout, rfl, rfl⟩ := described
    simp only [Layout.octets, List.cons_append, List.nil_append, decode?, fields?_octets]
    rfl

theorem decode?_eq_none : decode? octets = none ↔ ¬∃ layout : Layout, layout.octets = octets := by
  constructor
  · intro nothing described
    obtain ⟨layout, same⟩ := described
    rw [decode?_eq_some.mpr ⟨layout, same, rfl⟩] at nothing
    cases nothing
  · intro undescribed
    cases found : decode? octets with
    | none => rfl
    | some command =>
      obtain ⟨layout, same, _⟩ := decode?_eq_some.mp found
      exact absurd ⟨layout, same⟩ undescribed

theorem decode_eq_ok : decode octets = .ok command ↔ decode? octets = some command := by
  unfold decode
  cases decode? octets <;> simp

theorem decode_eq_error {failure : Failure} : decode octets = .error failure ↔
    failure = ⟨.apdu, "parse", .illegalArgument⟩ ∧ decode? octets = none := by
  unfold decode
  cases decode? octets <;> simp [eq_comm]

/-- Decoding accepts exactly the octets that have a layout, which is then the only one, and gives
the command laid out in it; all other octets are refused for the same reason. -/
theorem decode_eq_ok_iff_layout (octets : Octets) :
    (∀ command, decode octets = .ok command ↔
      ∃ layout : Layout, layout.octets = octets ∧ layout.command = command) ∧
    (∀ layout layout' : Layout, layout.octets = octets → layout'.octets = octets →
      layout = layout') ∧
    ∀ failure, decode octets = .error failure ↔
      failure = ⟨.apdu, "parse", .illegalArgument⟩ ∧
        ¬∃ layout : Layout, layout.octets = octets := by
  refine ⟨fun command => decode_eq_ok.trans decode?_eq_some, ?_, ?_⟩
  · intro layout layout' described described'
    exact Layout.octets_injective (described.trans described'.symm)
  · intro failure
    rw [decode_eq_error, decode?_eq_none]

/-- Three octets behind a zero would be a length of one, but then there is no data octet. -/
example : decode [0x00, 0xD6, 0x00, 0x00, 0x00, 0x00, 0x01] =
    .ok ⟨0x00, 0xD6, 0x00, 0x00, [], some (.exact 1)⟩ := rfl

end Command
end BridgeTag.Apdu
