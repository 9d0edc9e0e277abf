import BridgeTag.Proofs.Apdu.RoundTrip

/-! Encoding again what was decoded. Whatever is decoded can be encoded, and its octets change only
where they were in the extended form and the short one will do; then they become fewer. -/
namespace BridgeTag.Apdu

namespace Le

theorem ofWire_ne_zero (value : UInt16) : ofWire value ≠ .exact 0 := by
  by_cases zero : value = 0 <;> simp [ofWire, zero]

theorem toWire_ofWire (value : UInt16) : (ofWire value).toWire = value := by
  by_cases zero : value = 0 <;> simp [ofWire, toWire, zero]

theorem ofWire_injective : Function.Injective ofWire :=
  Function.LeftInverse.injective toWire_ofWire

/-- One octet never stands for 256 or more. -/
theorem count_lt_of_octet {octet : UInt8} {count : UInt16}
    (read : ofWire octet.toUInt16 = .exact count) : count.toNat < 256 := by
  have same := congrArg toWire read
  rw [toWire_ofWire, toWire] at same
  rw [← same, UInt8.toNat_toUInt16]
  exact octet.toNat_lt

end Le

namespace Body

variable {left right : Body}

def width (short : Bool) : Nat := if short then 1 else 2

/-- The extended form has one octet more in front, and wider fields. -/
theorem length_octets (body : Body) : body.octets.length =
    (if body.short then 0 else 1) + (if body.data = [] then 0 else width body.short) +
      body.data.length + if body.le = none then 0 else width body.short := by
  cases body with
  | empty | shortLe | extendedLe => rfl
  | shortData field le =>
    cases le <;> simp [octets, data, short, Body.le, width, field.nonempty] <;> omega
  | extendedData field le =>
    cases le <;> simp [octets, data, short, Body.le, width, field.nonempty] <;> omega

/-- With the same fields the short form is the shorter one, if there is an extended one at all. -/
theorem length_lt_of_short (short : left.short = true) (long : right.short = false)
    (data : left.data = right.data) (le : left.le = none ↔ right.le = none) :
    left.octets.length < right.octets.length := by
  rw [length_octets, length_octets, short, long, data]
  simp only [le, width, Bool.false_eq_true, if_true, if_false]
  split <;> split <;> omega

/-- Form and fields make up the body. -/
theorem eq_of_fields (short : left.short = right.short) (data : left.data = right.data)
    (le : left.le = right.le) : left = right := by
  have wire := Le.ofWire_injective
  have octet : Function.Injective fun value : UInt8 => Le.ofWire value.toUInt16 :=
    wire.comp fun _ _ same => UInt8.toUInt16_inj.mp same
  cases left <;> cases right
  case empty.empty => rfl
  case shortLe.shortLe => rw [octet (Option.some.inj le)]
  case extendedLe.extendedLe => rw [wire (Option.some.inj le)]
  case shortData.shortData =>
    obtain rfl := DataField.ext data
    rw [Option.map_injective octet le]
  case extendedData.extendedData =>
    obtain rfl := DataField.ext data
    rw [Option.map_injective wire le]
  -- two different bodies: only one of them has data, or an expected length, or is short
  all_goals simp [Body.short, Body.data, Body.le, DataField.nonempty] at short data le

theorem length_data_le (body : Body) : body.data.length ≤ 65535 := by
  cases body with
  | empty | shortLe | extendedLe => exact Nat.zero_le _
  | shortData field le => exact Nat.le_trans field.fits (by decide)
  | extendedData field le => exact field.fits

theorem le_ne_zero (body : Body) : body.le ≠ some (.exact 0) := by
  cases body with
  | empty => nofun
  | shortLe | extendedLe => simp [Body.le, Le.ofWire_ne_zero]
  | shortData field le | extendedData field le =>
    cases le <;> simp [Body.le, Le.ofWire_ne_zero]

/-- Nothing in a short body is too long for it, and 256 is no more than any length there. -/
theorem fields_of_short (short : left.short = true) : left.data.length ≤ 255 ∧
    ∀ count : UInt16, left.le = some (.exact count) → count.toNat < 256 := by
  cases left with
  | empty => exact ⟨Nat.zero_le _, nofun⟩
  | shortLe le => exact ⟨Nat.zero_le _, fun _ same => Le.count_lt_of_octet (Option.some.inj same)⟩
  | shortData field le =>
    refine ⟨field.fits, ?_⟩
    intro count same
    obtain ⟨octet, rfl, read⟩ := Option.map_eq_some_iff.mp same
    exact Le.count_lt_of_octet read
  | extendedLe | extendedData => cases short

end Body

/-- Form and command make up the layout. -/
theorem Layout.eq_of_command {left right : Layout} (short : left.body.short = right.body.short)
    (same : left.command = right.command) : left = right := by
  rcases left with ⟨cla, ins, p1, p2, body⟩
  rcases right with ⟨cla', ins', p1', p2', body'⟩
  simp only [command, Command.mk.injEq] at same
  obtain ⟨rfl, rfl, rfl, rfl, data, le⟩ := same
  have body : body = body' := Body.eq_of_fields short data le
  rw [body]

namespace Command

variable {command : Command} {octets : Octets} {layout : Layout}

theorem encodable_of_layout (layout : Layout) : layout.command.encodable = true :=
  encodable_iff.mpr ⟨layout.body.length_data_le, layout.body.le_ne_zero⟩

theorem extended_of_short (short : layout.body.short = true) :
    layout.command.extended = false := by
  obtain ⟨data, counts⟩ := Body.fields_of_short short
  refine extended_eq_false.mpr ⟨data, ?_⟩
  intro count same
  exact UInt16.le_iff_toNat_le.mpr (Nat.le_of_lt (counts count same))

theorem returned_of_short (short : layout.body.short = true) :
    layout.command.returned = layout.command := by
  rw [returned_eq_self_iff]
  intro aliased
  exact absurd ((Body.fields_of_short short).2 256 aliased.1) (by decide)

theorem returned_le_eq_none : command.returned.le = none ↔ command.le = none := by
  unfold returned
  split
  next aliased => simp [aliased.2]
  next => rfl

theorem extended_iff : command.extended = true ↔ 255 < command.data.length ∨
    ∃ count, command.le = some (.exact count) ∧ 256 < count := by
  rw [← Bool.not_eq_false, extended_eq_false, Classical.not_and_iff_not_or_not, Nat.not_le]
  simp

/-- Encoding the command of a layout keeps its octets if the layout was short or the command needs
the extended form; otherwise it makes a short layout of an extended one. -/
theorem exists_encode_layout (layout : Layout) : ∃ again, layout.command.encode = .ok again ∧
    ((layout.body.short = true ∨ layout.command.extended = true) ∧ again = layout.octets ∨
      (layout.body.short = false ∧ layout.command.extended = false) ∧
        again.length < layout.octets.length) := by
  have encoded := encode_eq_ok.mpr ⟨encodable_of_layout layout, rfl⟩
  refine ⟨_, encoded, ?_⟩
  obtain ⟨written, spelled, same, form⟩ := exists_layout encoded
  rw [← spelled]
  have data : written.body.data = layout.body.data := congrArg Command.data same
  have whole (short : written.body.short = layout.body.short)
      (returned : layout.command.returned = layout.command) : written.octets = layout.octets :=
    congrArg _ (Layout.eq_of_command short (same.trans returned))
  cases short : layout.body.short with
  | true =>
    have small := extended_of_short short
    rw [small] at form
    exact .inl ⟨.inl rfl, whole (form.trans short.symm) (returned_of_short short)⟩
  | false =>
    cases extended : layout.command.extended with
    | true =>
      rw [extended] at form
      exact .inl ⟨.inr rfl, whole (form.trans short.symm) (returned_of_extended extended)⟩
    | false =>
      rw [extended] at form
      have le : written.body.le = none ↔ layout.body.le = none := by
        rw [show written.body.le = layout.command.returned.le from congrArg Command.le same]
        exact returned_le_eq_none
      have fewer := Body.length_lt_of_short form short data le
      refine .inr ⟨⟨rfl, rfl⟩, ?_⟩
      simp only [Layout.octets, List.length_append]
      exact Nat.add_lt_add_left fewer _

/-- What was decoded is encoded again, in no more octets. They are the octets it was decoded from
where these are in the short form or the command needs the extended one, and fewer otherwise; and
decoding them gives the command back, up to the alias of 256. -/
theorem exists_encode_of_decode (decoded : decode octets = .ok command) :
    ∃ again, command.encode = .ok again ∧ again.length ≤ octets.length ∧
      (∃ layout : Layout, layout.octets = octets ∧ layout.command = command ∧
        (again = octets ↔ layout.body.short = true ∨ 255 < command.data.length ∨
          ∃ count, command.le = some (.exact count) ∧ 256 < count)) ∧
      (again ≠ octets → again.length < octets.length) ∧
      decode again = .ok command.returned ∧
      (command.returned = command ↔
        ¬(command.le = some (.exact 256) ∧ command.data.length ≤ 255)) := by
  obtain ⟨layout, rfl, rfl⟩ := decode?_eq_some.mp (decode_eq_ok.mp decoded)
  obtain ⟨again, encoded, kept⟩ := exists_encode_layout layout
  have back := decode_of_encode encoded
  simp only [← extended_iff]
  refine ⟨again, encoded, ?_, ⟨layout, rfl, rfl, ?_⟩, ?_, back, returned_eq_self_iff⟩
  all_goals rcases kept with ⟨form, same⟩ | ⟨⟨long, small⟩, fewer⟩
  · exact Nat.le_of_eq (congrArg List.length same)
  · exact Nat.le_of_lt fewer
  · exact ⟨fun _ => form, fun _ => same⟩
  · have differ : again ≠ layout.octets := fun same => Nat.ne_of_lt fewer (congrArg _ same)
    simp [differ, long, small]
  · exact fun differ => absurd same differ
  · exact fun _ => fewer

/-- An expected length of 256 in the extended form: two octets fewer, and any length from then on. -/
theorem exists_encode_extendedLe : ∃ command again,
    decode [0x00, 0xB0, 0x00, 0x00, 0x00, 0x01, 0x00] = .ok command ∧
      command.encode = .ok again ∧ again.length < 7 ∧ decode again = .ok command.returned ∧
      command.le = some (.exact 256) ∧ command.returned.le = some .any := by
  have decoded : decode [0x00, 0xB0, 0x00, 0x00, 0x00, 0x01, 0x00] =
      .ok ⟨0x00, 0xB0, 0x00, 0x00, [], some (.exact 256)⟩ := rfl
  obtain ⟨again, encoded, _, _, fewer, back, _⟩ := exists_encode_of_decode decoded
  cases encoded
  exact ⟨_, _, decoded, rfl, fewer (by decide), back, rfl, rfl⟩

end Command
end BridgeTag.Apdu
