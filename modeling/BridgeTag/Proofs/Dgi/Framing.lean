import BridgeTag.Dgi

/-! Spellings of a data group. Its length is written in one octet or, behind 255, in two more;
reading an entity succeeds exactly on its spellings, and the encoder's is the shorter one. -/
namespace BridgeTag.Dgi

def lengthSpelling (long : Bool) (length : Nat) : Octets :=
  if long then 255 :: Octets.ofU16 (UInt16.ofNat length) else [UInt8.ofNat length]

/-- The greatest length a spelling can hold; 255 in the first octet is no length. -/
def lengthLimit (long : Bool) : Nat := if long then 65535 else 254

def spelling (dgi : Dgi) (long : Bool) : Octets :=
  Octets.ofU16 dgi.tag ++ (lengthSpelling long dgi.value.length ++ dgi.value)

variable {reader after : Reader} {dgi : Dgi} {length : Nat}

theorem readLength_eq_some : readLength reader = (some length, after) ↔
    ∃ long, length ≤ lengthLimit long ∧ reader.rest = lengthSpelling long length ++ after.rest ∧
      after.position = reader.position + (lengthSpelling long length).length := by
  simp only [readLength, Reader.bind_eq_some, Reader.octet_eq_some]
  constructor
  · intro found
    obtain ⟨first, middle, ⟨rest, position⟩, found⟩ := found
    split at found
    next extended =>
      simp only [Reader.bind_eq_some, Reader.u16_eq_some, Reader.pure_eq_some] at found
      obtain ⟨value, _, ⟨rest', position'⟩, rfl, rfl⟩ := found
      have bound := value.toNat_lt
      refine ⟨true, ?_, ?_, ?_⟩
      · show value.toNat ≤ 65535
        omega
      · simp [lengthSpelling, rest, rest', extended]
      · simp [lengthSpelling]
        omega
    next short =>
      simp only [Reader.pure_eq_some] at found
      obtain ⟨rfl, rfl⟩ := found
      have bound := first.toNat_lt
      have differ : first.toNat ≠ 255 := fun same => short (UInt8.toNat_inj.mp same)
      refine ⟨false, ?_, ?_, ?_⟩
      · show first.toNat ≤ 254
        omega
      · simp [lengthSpelling, rest]
      · simp [lengthSpelling, position]
  · intro spelled
    obtain ⟨long, fits, rest, position⟩ := spelled
    cases long with
    | true =>
      have bound : length ≤ 65535 := fits
      refine ⟨255, ⟨reader.position + 1, Octets.ofU16 (UInt16.ofNat length) ++ after.rest⟩,
        ⟨rest, rfl⟩, ?_⟩
      rw [if_pos rfl]
      simp only [Reader.bind_eq_some, Reader.u16_eq_some, Reader.pure_eq_some]
      refine ⟨UInt16.ofNat length, after, ⟨rfl, position⟩, ?_, rfl⟩
      exact UInt16.toNat_ofNat_of_lt' (Nat.lt_succ_of_le bound)
    | false =>
      have bound : length ≤ 254 := fits
      have same : (UInt8.ofNat length).toNat = length := by
        rw [UInt8.toNat_ofNat']
        omega
      refine ⟨UInt8.ofNat length, after, ⟨rest, position⟩, ?_⟩
      rw [if_neg]
      · simp [Reader.pure_eq_some, same]
      · intro extended
        rw [extended] at same
        have : 255 = length := same
        omega

/-- Reading an entity succeeds exactly where one of its spellings comes next. -/
theorem read_eq_some : read reader = (some dgi, after) ↔
    ∃ long, dgi.value.length ≤ lengthLimit long ∧ reader.rest = dgi.spelling long ++ after.rest ∧
      after.position = reader.position + (dgi.spelling long).length := by
  simp only [read, Reader.bind_eq_some, Reader.u16_eq_some, readLength_eq_some,
    Reader.take_eq_some, Reader.pure_eq_some]
  constructor
  · intro found
    obtain ⟨tag, _, ⟨r₁, p₁⟩, _, _, ⟨long, fits, r₂, p₂⟩, value, _, ⟨rfl, r₃, p₃⟩, rfl, rfl⟩ :=
      found
    refine ⟨long, fits, ?_, ?_⟩
    · simp [spelling, r₁, r₂, r₃]
    · simp only [spelling, List.length_append, Octets.length_ofU16]
      omega
  · intro spelled
    obtain ⟨long, fits, rest, position⟩ := spelled
    simp only [spelling, List.append_assoc, List.length_append, Octets.length_ofU16]
      at rest position
    refine ⟨dgi.tag, ⟨reader.position + 2, _⟩, ⟨rest, rfl⟩, _, ⟨_, _⟩, ⟨long, fits, rfl, rfl⟩,
      dgi.value, after, ⟨rfl, rfl, ?_⟩, rfl, rfl⟩
    simp only
    omega

theorem octets_eq_spelling (dgi : Dgi) :
    dgi.octets = dgi.spelling (!decide (dgi.value.length < 255)) := by
  by_cases short : dgi.value.length < 255 <;>
    simp [octets, spelling, lengthField, lengthSpelling, short]

theorem length_value_le (dgi : Dgi) : dgi.value.length ≤ dgi.octets.length := by
  simp only [octets, List.length_append]
  omega

theorem length_octets (dgi : Dgi) : dgi.octets.length = dgi.encodedSize := by
  unfold octets encodedSize lengthField lengthSize
  split <;> simp <;> omega

theorem lengthLimit_le (long : Bool) : lengthLimit long ≤ 65535 := by
  cases long <;> decide

theorem length_spelling (dgi : Dgi) (long : Bool) : (dgi.spelling long).length =
    2 + (if long then 3 else 1) + dgi.value.length := by
  cases long <;> simp [spelling, lengthSpelling] <;> omega

theorem three_le_length_spelling (dgi : Dgi) (long : Bool) : 3 ≤ (dgi.spelling long).length := by
  rw [length_spelling]
  split <;> omega

theorem spelling_ne_nil (dgi : Dgi) (long : Bool) : dgi.spelling long ≠ [] := by
  simp [spelling]

/-- The encoder's choice between the two spellings holds every length that one of them holds. -/
theorem fits_octets (fits : dgi.value.length ≤ 65535) :
    dgi.value.length ≤ lengthLimit (!decide (dgi.value.length < 255)) := by
  by_cases short : dgi.value.length < 255
  · simp [lengthLimit, short]
    omega
  · simpa [lengthLimit, short] using fits

variable {long : Bool} {rest : Octets}

theorem read_spelling (fits : dgi.value.length ≤ lengthLimit long) (position : Nat)
    (rest : Octets) : read ⟨position, dgi.spelling long ++ rest⟩ =
      (some dgi, ⟨position + (dgi.spelling long).length, rest⟩) :=
  read_eq_some.mpr ⟨long, fits, rfl, rfl⟩

/-- An encoded entity is read back, whatever follows it. -/
theorem read_octets (fits : dgi.value.length ≤ 65535) (position : Nat) (rest : Octets) :
    read ⟨position, dgi.octets ++ rest⟩ = (some dgi, ⟨position + dgi.octets.length, rest⟩) := by
  rw [octets_eq_spelling]
  exact read_spelling (fits_octets fits) position rest

/-- A spelling that lacks its last octets is read as no entity. -/
theorem read_cut_spelling (fits : dgi.value.length ≤ lengthLimit long) {part missing : Octets}
    (nonempty : missing ≠ []) (cut : dgi.spelling long = part ++ missing) (position : Nat) :
    (read ⟨position, part⟩).1 = none := by
  cases found : read ⟨position, part⟩ with
  | mk value after =>
    cases value with
    | none => rfl
    | some other =>
      obtain ⟨long', fits', spelled, _⟩ := read_eq_some.mp found
      have spelled : part = other.spelling long' ++ after.rest := spelled
      have whole : dgi.spelling long ++ [] = other.spelling long' ++ (after.rest ++ missing) := by
        rw [List.append_nil, cut, spelled, List.append_assoc]
      have read := read_spelling fits 0 []
      rw [whole, read_spelling fits' 0] at read
      simp only [Prod.mk.injEq, Reader.mk.injEq, List.append_eq_nil_iff] at read
      exact absurd read.2.2.2 nonempty

variable {entities : List Dgi} {octets : Octets}

theorem encode_eq_ok : encode entities = .ok octets ↔
    (∀ dgi ∈ entities, dgi.value.length ≤ 65535) ∧ octets = entities.flatMap Dgi.octets := by
  unfold encode
  by_cases fits : ∀ dgi ∈ entities, dgi.value.length ≤ 65535
  · have accepted : entities.any (fun dgi => dgi.value.length > 65535) = false := by
      simpa using fits
    rw [accepted, if_neg Bool.false_ne_true, Except.ok.injEq]
    exact ⟨fun same => ⟨fits, same.symm⟩, fun found => found.2.symm⟩
  · have refused : entities.any (fun dgi => dgi.value.length > 65535) = true := by
      simpa using fits
    rw [refused]
    simp [fits]

theorem encode_eq_error {failure : Failure} : encode entities = .error failure ↔
    failure = ⟨.dgi, "encode", .illegalArgument⟩ ∧ ∃ dgi ∈ entities, 65535 < dgi.value.length := by
  unfold encode
  by_cases long : ∃ dgi ∈ entities, 65535 < dgi.value.length
  · have refused : entities.any (fun dgi => dgi.value.length > 65535) = true := by
      simpa using long
    rw [refused]
    simp only [long, and_true]
    simp [eq_comm]
  · have accepted : entities.any (fun dgi => dgi.value.length > 65535) = false := by
      simpa using long
    rw [accepted]
    simp [long]

theorem encode_singleton : encode [dgi] = .ok octets ↔
    dgi.value.length ≤ 65535 ∧ octets = dgi.octets := by
  rw [encode_eq_ok, List.forall_mem_singleton, List.flatMap_singleton]

end BridgeTag.Dgi
