import BridgeTag.Proofs.Apdu.Layout

/-! Encoding a command APDU and decoding it again. The encoder writes a layout of the command, in
the short form where that will do. A short field has one octet for 256 and for any length, so these
two come back as the same; nothing else is lost. -/
namespace BridgeTag.Apdu

namespace Le

theorem ofWire_toWire {le : Le} (nonzero : le ≠ .exact 0) : ofWire le.toWire = le := by
  cases le with
  | any => rfl
  | exact count =>
    have : count ≠ 0 := by
      intro zero
      rw [zero] at nonzero
      exact nonzero rfl
    exact if_neg this

/-- What one octet is read as when it was written for an expected length. -/
theorem ofWire_octet {le : Le} (nonzero : le ≠ .exact 0) (short : le.long = false) :
    ofWire le.toWire.toUInt8.toUInt16 = if le = .exact 256 then .any else le := by
  cases le with
  | any => rfl
  | exact count =>
    by_cases full : count = 256
    · subst full
      rfl
    · have small : count.toNat < 256 := by
        have bound : count.toNat ≤ 256 := by simpa [long, UInt16.le_iff_toNat_le] using short
        have differ : count.toNat ≠ 256 := fun same => full (UInt16.toNat_inj.mp same)
        omega
      have same : count.toUInt8.toUInt16 = count := by
        apply UInt16.toNat_inj.mp
        rw [UInt8.toNat_toUInt16, UInt16.toNat_toUInt8]
        exact Nat.mod_eq_of_lt small
      rw [toWire, same, if_neg (by simpa using full)]
      exact ofWire_toWire nonzero

end Le

namespace Command

/-- The command that its own octets stand for: in the short form, 256 expected octets are any
number of them. -/
def returned (command : Command) : Command :=
  { command with
    le := if command.data.length ≤ 255 ∧ command.le = some (.exact 256) then some .any
      else command.le }

variable {command : Command} {octets : Octets}

theorem encodable_iff : command.encodable = true ↔
    command.data.length ≤ 65535 ∧ command.le ≠ some (.exact 0) := by
  simp only [encodable, Bool.and_eq_true, decide_eq_true_eq, bne_iff_ne]
  rfl

theorem extended_eq_false : command.extended = false ↔
    command.data.length ≤ 255 ∧ ∀ count, command.le = some (.exact count) → count ≤ 256 := by
  unfold extended lc
  rcases command.le with _ | _ | count <;> simp [Le.long]

theorem returned_le_of_short (short : command.data.length ≤ 255) :
    command.returned.le = command.le.map fun le => if le = .exact 256 then .any else le := by
  rcases command with ⟨cla, ins, p1, p2, data, le⟩
  simp only [returned]
  cases le with
  | none => simp
  | some le => by_cases full : le = .exact 256 <;> simp [full, short]

theorem returned_eq_self_iff : command.returned = command ↔
    ¬(command.le = some (.exact 256) ∧ command.data.length ≤ 255) := by
  rcases command with ⟨cla, ins, p1, p2, data, le⟩
  by_cases aliased : data.length ≤ 255 ∧ le = some (.exact 256)
  · obtain ⟨short, rfl⟩ := aliased
    simp [returned, short]
  · simp only [returned, if_neg aliased, true_iff]
    exact fun other => aliased ⟨other.2, other.1⟩

/-- Only the short form cannot tell 256 expected octets from any number of them. -/
theorem returned_of_extended (extended : command.extended = true) : command.returned = command := by
  rw [returned_eq_self_iff]
  intro aliased
  obtain ⟨full, small⟩ := aliased
  have short : command.extended = false := by
    rw [extended_eq_false]
    refine ⟨small, ?_⟩
    intro count same
    rw [full] at same
    cases same
    exact UInt16.le_refl _
  rw [short] at extended
  cases extended

theorem exists_short (encodable : command.encodable = true) (short : command.extended = false) :
    ∃ body : Body, body.octets = command.shortBody ∧ body.data = command.data ∧
      body.le = command.returned.le ∧ body.short = true := by
  rw [returned_le_of_short (extended_eq_false.mp short).1]
  obtain ⟨_, nonzero⟩ := encodable_iff.mp encodable
  obtain ⟨small, counts⟩ := extended_eq_false.mp short
  rcases command with ⟨cla, ins, p1, p2, data, le⟩
  have octet : ∀ value, le = some value → Le.ofWire value.toWire.toUInt8.toUInt16 =
      if value = .exact 256 then .any else value := by
    intro value same
    subst same
    exact Le.ofWire_octet (by simpa using nonzero) (by
      cases value with
      | any => rfl
      | exact count => simpa [Le.long] using counts count rfl)
  by_cases empty : data = []
  · subst empty
    cases le with
    | none => exact ⟨.empty, rfl, rfl, rfl, rfl⟩
    | some value =>
      exact ⟨.shortLe value.toWire.toUInt8, rfl, rfl, congrArg some (octet value rfl), rfl⟩
  · refine ⟨.shortData ⟨data, empty, small⟩ (le.map fun value => value.toWire.toUInt8), ?_, rfl,
      ?_, rfl⟩
    · cases le <;> simp [Body.octets, shortBody, lc, empty]
    · cases le with
      | none => rfl
      | some value => exact congrArg some (octet value rfl)

theorem exists_extended (encodable : command.encodable = true)
    (extended : command.extended = true) :
    ∃ body : Body, body.octets = command.extendedBody ∧ body.data = command.data ∧
      body.le = command.returned.le ∧ body.short = false := by
  rw [returned_of_extended extended]
  obtain ⟨bound, nonzero⟩ := encodable_iff.mp encodable
  rcases command with ⟨cla, ins, p1, p2, data, le⟩
  have wire : ∀ value, le = some value → Le.ofWire value.toWire = value := by
    intro value same
    subst same
    exact Le.ofWire_toWire (by simpa using nonzero)
  by_cases empty : data = []
  · subst empty
    cases le with
    | none => cases extended
    | some value => exact ⟨.extendedLe value.toWire, rfl, rfl, congrArg some (wire value rfl), rfl⟩
  · refine ⟨.extendedData ⟨data, empty, bound⟩ (le.map Le.toWire), ?_, rfl, ?_, rfl⟩
    · cases le <;> simp [Body.octets, extendedBody, lc, empty]
    · cases le with
      | none => rfl
      | some value => exact congrArg some (wire value rfl)

theorem encode_eq_ok : command.encode = .ok octets ↔ command.encodable = true ∧
    octets = command.header ++
      if command.extended then command.extendedBody else command.shortBody := by
  unfold encode
  cases command.encodable with
  | true =>
    rw [if_pos rfl, Except.ok.injEq]
    exact ⟨fun same => ⟨rfl, same.symm⟩, fun found => found.2.symm⟩
  | false => simp

theorem encode_eq_error {failure : Failure} : command.encode = .error failure ↔
    failure = ⟨.apdu, "to_bytes", .illegalArgument⟩ ∧ command.encodable = false := by
  unfold encode
  cases command.encodable with
  | true => simp
  | false =>
    rw [if_neg Bool.false_ne_true, Except.error.injEq]
    exact ⟨fun same => ⟨same.symm, rfl⟩, fun found => found.1.symm⟩

/-- The octets of a command are a layout of it, short unless data or expected length is long. -/
theorem exists_layout (encoded : command.encode = .ok octets) : ∃ layout : Layout,
    layout.octets = octets ∧ layout.command = command.returned ∧
      layout.body.short = !command.extended := by
  obtain ⟨encodable, rfl⟩ := encode_eq_ok.mp encoded
  have laid : ∀ body : Body, body.data = command.data → body.le = command.returned.le →
      Layout.command ⟨command.cla, command.ins, command.p1, command.p2, body⟩ =
        command.returned := by
    intro body data le
    rw [Layout.command, data, le]
    rfl
  cases extended : command.extended with
  | false =>
    obtain ⟨body, spelled, data, le, short⟩ := exists_short encodable extended
    exact ⟨⟨_, _, _, _, body⟩, congrArg (command.header ++ ·) spelled, laid body data le, short⟩
  | true =>
    obtain ⟨body, spelled, data, le, long⟩ := exists_extended encodable extended
    exact ⟨⟨_, _, _, _, body⟩, congrArg (command.header ++ ·) spelled, laid body data le, long⟩

theorem decode_of_encode (encoded : command.encode = .ok octets) :
    decode octets = .ok command.returned := by
  obtain ⟨layout, spelled, same, _⟩ := exists_layout encoded
  exact decode_eq_ok.mpr (decode?_eq_some.mpr ⟨layout, spelled, same⟩)

/-- A command and the one it is returned as have the same octets. -/
theorem encode_returned (command : Command) : command.returned.encode = command.encode := by
  rcases command with ⟨cla, ins, p1, p2, data, le⟩
  by_cases aliased : data.length ≤ 255 ∧ le = some (.exact 256)
  · obtain ⟨short, rfl⟩ := aliased
    have encoded : ∀ le : Le, le ≠ .exact 0 → le.long = false →
        (⟨cla, ins, p1, p2, data, some le⟩ : Command).encode =
          .ok ([cla, ins, p1, p2] ++ shortBody ⟨cla, ins, p1, p2, data, some le⟩) := by
      intro le nonzero small
      refine encode_eq_ok.mpr ⟨encodable_iff.mpr ⟨by simp only; omega, by simpa using nonzero⟩, ?_⟩
      have short : (⟨cla, ins, p1, p2, data, some le⟩ : Command).extended = false := by
        simp [extended, lc, short, small]
      rw [short]
      rfl
    have returned : (⟨cla, ins, p1, p2, data, some (.exact 256)⟩ : Command).returned =
        ⟨cla, ins, p1, p2, data, some .any⟩ := by
      simp [returned, short]
    rw [returned, encoded .any (by decide) rfl, encoded (.exact 256) (by decide) rfl]
    rfl
  · simp only [returned, if_neg aliased]

/-- Encoding fails only for data or an expected length that no form can hold, and then says so.
Otherwise decoding gives the command back up to the alias of 256, two commands share their octets
only through that alias, and the octets are in the short form wherever that can hold them. -/
theorem encode_decode_returned (command : Command) :
    (∀ failure, command.encode = .error failure ↔
      failure = ⟨.apdu, "to_bytes", .illegalArgument⟩ ∧
        (65535 < command.data.length ∨ command.le = some (.exact 0))) ∧
    (¬(65535 < command.data.length ∨ command.le = some (.exact 0)) →
      ∃ octets, command.encode = .ok octets ∧ decode octets = .ok command.returned ∧
        (decode octets = .ok command ↔
          ¬(command.le = some (.exact 256) ∧ command.data.length ≤ 255)) ∧
        (∀ other : Command, other.encode = .ok octets ↔ other.returned = command.returned) ∧
        ∃ layout : Layout, layout.octets = octets ∧ layout.command = command.returned ∧
          (layout.body.short = true ↔ command.data.length ≤ 255 ∧
            ∀ count, command.le = some (.exact count) → count ≤ 256)) := by
  have encodable : command.encodable = false ↔
      65535 < command.data.length ∨ command.le = some (.exact 0) := by
    rw [Bool.eq_false_iff, ne_eq, encodable_iff, Classical.not_and_iff_not_or_not, Nat.not_le,
      Classical.not_not]
  constructor
  · intro failure
    rw [encode_eq_error, encodable]
  · intro fits
    rw [← encodable, Bool.not_eq_false] at fits
    have encoded := encode_eq_ok.mpr ⟨fits, rfl⟩
    have decoded := decode_of_encode encoded
    refine ⟨_, encoded, decoded, ?_, ?_, ?_⟩
    · rw [decoded, Except.ok.injEq, returned_eq_self_iff]
    · intro other
      constructor
      · intro shared
        have decoded' := decode_of_encode shared
        rw [decoded] at decoded'
        exact (Except.ok.inj decoded').symm
      · intro aliased
        rw [← encode_returned, aliased, encode_returned, encoded]
    · obtain ⟨layout, spelled, laid, short⟩ := exists_layout encoded
      refine ⟨layout, spelled, laid, ?_⟩
      rw [short, Bool.not_eq_true', extended_eq_false]

end Command
end BridgeTag.Apdu
