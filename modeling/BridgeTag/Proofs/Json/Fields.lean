import BridgeTag.Json.Fields

/-! Data made of the values that stand for them: numbers, octets, options, lists and the fields of
objects, as long as there are levels for the arrays and objects that are looked into. -/
namespace BridgeTag.Json.Value

variable {α : Type} {item : Nat → Value → Option α} {toJson : α → Value} {levels : Nat}

@[simp] theorem u8?_ofNat (value : UInt8) : u8? (ofNat value.toNat) = some value := by
  have small := value.toNat_lt
  simp [u8?, natural?, ofNat, Nat.le_of_lt_succ small]

@[simp] theorem u16?_ofNat (value : UInt16) : u16? (ofNat value.toNat) = some value := by
  have small := value.toNat_lt
  simp [u16?, natural?, ofNat, Nat.le_of_lt_succ small]

@[simp] theorem text?_ofString (text : String) : text? (ofString text) = some text := rfl

@[simp] theorem plainChoice?_ofString (levels : Nat) (name : String) :
    plainChoice? levels (ofString name) = some name := by
  cases levels <;> rfl

@[simp] theorem choice?_ofFields (name : String) (value : Value) :
    choice? (ofFields [(name, value)]) = some (name, value) := rfl

theorem mapM_map (values : List α) (each : ∀ value ∈ values, item levels (toJson value) = some value) :
    (values.map toJson).mapM (item levels) = some values := by
  induction values with
  | nil => rfl
  | cons value values ih =>
    simp only [List.forall_mem_cons] at each
    simp [List.mapM_cons, each.1, ih each.2]

theorem items?_array (values : List α)
    (each : ∀ value ∈ values, item levels (toJson value) = some value) :
    items? item (levels + 1) (array (values.map toJson)) = some values :=
  mapM_map values each

@[simp] theorem octets?_ofOctets (levels : Nat) (octets : Octets) :
    octets? (levels + 1) (ofOctets octets) = some octets :=
  items?_array octets fun octet _ => u8?_ofNat octet

theorem option?_ofOption (value : Option α)
    (each : ∀ value, toJson value ≠ null ∧ item levels (toJson value) = some value) :
    option? item levels (ofOption toJson value) = some value := by
  cases value with
  | none => rfl
  | some value =>
    obtain ⟨occupied, read⟩ := each value
    simp only [ofOption]
    unfold option?
    split
    next null => exact absurd null occupied
    next => simp [read]

variable {name : String} {value : Value} {fields part : List (String × Value)}

def member (field : String × Value) : Member := ⟨some field.1, field.2⟩

theorem named_of_not_mem (absent : name ∉ fields.map Prod.fst) :
    named (fields.map member) name = [] := by
  simp only [named, List.filterMap_eq_nil_iff, List.forall_mem_map]
  intro field present
  have differ : field.1 ≠ name := fun same => absent (List.mem_map.mpr ⟨field, present, same⟩)
  simp [member, differ]

theorem named_cons (first : Member) (members : List Member) (name : String) :
    named (first :: members) name =
      if first.name = some name then first.value :: named members name
      else named members name := by
  by_cases same : first.name = some name <;> simp [named, same]

/-- Where no name comes twice, each names one value. -/
theorem named_of_mem (distinct : (fields.map Prod.fst).Nodup) (present : (name, value) ∈ fields) :
    named (fields.map member) name = [value] := by
  induction fields with
  | nil => cases present
  | cons field fields ih =>
    simp only [List.map_cons, List.nodup_cons] at distinct
    simp only [List.map_cons, named_cons]
    rcases List.mem_cons.mp present with rfl | later
    · simp [member, named_of_not_mem distinct.1]
    · have differ : field.1 ≠ name := by
        intro same
        exact distinct.1 (List.mem_map.mpr ⟨(name, value), later, same.symm⟩)
      simp [member, differ, ih distinct.2 later]

theorem select?_of_subset (distinct : (fields.map Prod.fst).Nodup)
    (inside : ∀ field ∈ part, field ∈ fields) :
    select? (fields.map member) (part.map Prod.fst) = some (part.map fun field => some field.2) := by
  induction part with
  | nil => rfl
  | cons field part ih =>
    simp only [List.forall_mem_cons] at inside
    have one := named_of_mem distinct inside.1
    simp [select?, one, ih inside.2]

/-- All fields of an object, asked for in the order in which they are written. -/
theorem fields?_ofFields {names : List String} (asked : fields.map Prod.fst = names)
    (distinct : names.Nodup) :
    fields? names (ofFields fields) = some (fields.map fun field => some field.2) := by
  subst asked
  have selected := select?_of_subset distinct fun _ present => present
  have named : (fields.map member).all (fun member => member.name.isSome) = true := by
    simp [member]
  show (if (fields.map member).all (fun member => member.name.isSome) then
    select? (fields.map member) (fields.map Prod.fst) else none) = _
  simp only [named, if_true, selected]

end BridgeTag.Json.Value
