import BridgeTag.Ndef.Frame

/-! Spellings of a frame. A header says how the lengths of its frame are written; reading a frame
succeeds exactly on its spellings, and the encoder's spelling is the shortest of them. -/
namespace BridgeTag.Ndef.Frame

def payloadLength (short : Bool) (frame : Frame) : Octets :=
  if short then [UInt8.ofNat frame.payload.length]
  else Octets.ofU32 (UInt32.ofNat frame.payload.length)

def idLength (identified : Bool) (frame : Frame) : Octets :=
  if identified then [UInt8.ofNat frame.id.length] else []

def spelling (frame : Frame) (header : Header) : Octets :=
  header.octet :: UInt8.ofNat frame.type.length :: payloadLength header.short frame ++
    idLength header.identified frame ++ frame.type ++ frame.id ++ frame.payload

/-- The lengths fit the fields that the header leaves for them. -/
structure Fits (header : Header) (frame : Frame) : Prop where
  tnf : header.tnf = frame.tnf
  whole : header.chunked = false
  type : frame.type.length ≤ 255
  id : frame.id.length ≤ if header.identified then 255 else 0
  payload : frame.payload.length ≤ if header.short then 255 else 4294967295

variable {header header' : Header} {frame frame' : Frame} {reader after : Reader}
  {octets rest rest' : Octets}

theorem length_spelling : (frame.spelling header).length =
    2 + (if header.short then 1 else 4) + (if header.identified then 1 else 0) +
      frame.type.length + frame.id.length + frame.payload.length := by
  unfold spelling payloadLength idLength
  cases header.short <;> cases header.identified <;> simp <;> omega

/-- Header and lengths take three octets at least. -/
theorem payload_le_spelling (header : Header) (frame : Frame) :
    frame.payload.length + 3 ≤ (frame.spelling header).length := by
  have length : (frame.spelling header).length = _ := length_spelling
  split at length <;> omega

theorem octet_of_length {length : Nat} (small : length ≤ 255) :
    (UInt8.ofNat length).toNat = length := by
  rw [UInt8.toNat_ofNat']
  omega

/-- A length in one octet, as all lengths are but that of a long payload. -/
theorem octetLength_eq_some {length : Nat} :
    (do return (← Reader.octet).toNat : Read Nat) reader = (some length, after) ↔
      length ≤ 255 ∧ reader.rest = UInt8.ofNat length :: after.rest ∧
        after.position = reader.position + 1 := by
  simp only [Reader.bind_eq_some, Reader.octet_eq_some, Reader.pure_eq_some]
  constructor
  · intro found
    obtain ⟨value, _, ⟨rest, position⟩, rfl, rfl⟩ := found
    have := value.toNat_lt
    exact ⟨by omega, by simpa using rest, position⟩
  · intro found
    obtain ⟨small, rest, position⟩ := found
    exact ⟨UInt8.ofNat length, after, ⟨rest, position⟩, octet_of_length small, rfl⟩

theorem readPayloadLength_eq_some {short : Bool} {length : Nat} :
    readPayloadLength short reader = (some length, after) ↔
      length ≤ (if short then 255 else 4294967295) ∧
        reader.rest = (if short then [UInt8.ofNat length]
          else Octets.ofU32 (UInt32.ofNat length)) ++ after.rest ∧
        after.position = reader.position + if short then 1 else 4 := by
  unfold readPayloadLength
  cases short with
  | false =>
    simp only [Bool.false_eq_true, if_false, Reader.bind_eq_some, Reader.u32_eq_some,
      Reader.pure_eq_some]
    constructor
    · intro found
      obtain ⟨value, _, ⟨rest, position⟩, rfl, rfl⟩ := found
      have := value.toNat_lt
      exact ⟨by omega, by simpa using rest, position⟩
    · intro found
      obtain ⟨small, rest, position⟩ := found
      refine ⟨UInt32.ofNat length, after, ⟨rest, position⟩, ?_, rfl⟩
      rw [UInt32.toNat_ofNat']
      omega
  | true =>
    simp only [if_true]
    exact octetLength_eq_some

theorem readIdLength_eq_some {identified : Bool} {length : Nat} :
    readIdLength identified reader = (some length, after) ↔
      length ≤ (if identified then 255 else 0) ∧
        reader.rest = (if identified then [UInt8.ofNat length] else []) ++ after.rest ∧
        after.position = reader.position + if identified then 1 else 0 := by
  unfold readIdLength
  cases identified with
  | false =>
    simp only [Bool.false_eq_true, if_false, Reader.pure_eq_some, Reader.eq_iff_rest_eq,
      Nat.le_zero, List.nil_append, Nat.add_zero]
    exact and_congr_left' eq_comm
  | true =>
    simp only [if_true]
    exact octetLength_eq_some

/-- Reading a frame succeeds exactly where one of its spellings comes next. -/
theorem read_eq_some : read reader = (some frame, after) ↔
    ∃ header, Fits header frame ∧ reader.rest = frame.spelling header ++ after.rest ∧
      after.position = reader.position + (frame.spelling header).length := by
  simp only [read, Reader.bind_eq_some, Reader.octet_eq_some, Reader.require_eq_some,
    Reader.take_eq_some, Reader.pure_eq_some, readPayloadLength_eq_some, readIdLength_eq_some]
  constructor
  · intro found
    obtain ⟨first, _, ⟨r₁, p₁⟩, _, _, ⟨whole, rfl⟩, typeLength, _, ⟨r₂, p₂⟩, _, _, ⟨l₃, r₃, p₃⟩,
      _, _, ⟨l₄, r₄, p₄⟩, type, _, ⟨l₅, r₅, p₅⟩, id, _, ⟨rfl, r₆, p₆⟩, payload, _,
      ⟨rfl, r₇, p₇⟩, rfl, rfl⟩ := found
    have bound := typeLength.toNat_lt
    refine ⟨Header.ofOctet first, ⟨rfl, by simpa using whole, ?_, l₄, l₃⟩, ?_, ?_⟩
    · show type.length ≤ 255
      omega
    · simp [spelling, payloadLength, idLength, Header.octet_ofOctet, l₅, r₁, r₂, r₃, r₄, r₅, r₆, r₇]
    · rw [length_spelling]
      show _ = _ + (2 + _ + _ + type.length + id.length + payload.length)
      omega
  · intro spelled
    obtain ⟨header, fits, rest, position⟩ := spelled
    simp only [spelling, List.cons_append, List.append_assoc] at rest
    rw [length_spelling] at position
    refine ⟨header.octet, ⟨_, _⟩, ⟨rest, rfl⟩, ?_⟩
    rw [Header.ofOctet_octet]
    refine ⟨(), _, ⟨by simp [fits.whole], rfl⟩, _, ⟨_, _⟩, ⟨rfl, rfl⟩, ?_⟩
    rw [octet_of_length fits.type]
    refine ⟨_, ⟨_, _⟩, ⟨fits.payload, rfl, rfl⟩, _, ⟨_, _⟩, ⟨fits.id, rfl, rfl⟩, ?_⟩
    refine ⟨_, ⟨_, _⟩, ⟨rfl, rfl, rfl⟩, _, ⟨_, _⟩, ⟨rfl, rfl, rfl⟩, _, after, ⟨rfl, rfl, ?_⟩, ?_⟩
    · show _ = _ + 1 + 1 + _ + _ + _ + _ + _
      omega
    · rw [fits.tnf]
      exact ⟨rfl, rfl⟩

theorem read_spelling (fits : Fits header frame) (position : Nat) (rest : Octets) :
    read ⟨position, frame.spelling header ++ rest⟩ =
      (some frame, ⟨position + (frame.spelling header).length, rest⟩) :=
  read_eq_some.mpr ⟨header, fits, rfl, rfl⟩

/-- An octet string starts with at most one spelling of at most one frame. -/
theorem spelling_inj (fits : Fits header frame) (fits' : Fits header' frame')
    (same : frame.spelling header ++ rest = frame'.spelling header' ++ rest') :
    header = header' ∧ frame = frame' ∧ rest = rest' := by
  have first : header.octet = header'.octet := (List.cons.inj same).1
  have headers : header = header' := by
    rw [← Header.ofOctet_octet header, first, Header.ofOctet_octet]
  have found := read_spelling fits 0 rest
  rw [same, read_spelling fits' 0 rest'] at found
  simp only [Prod.mk.injEq, Option.some.injEq, Reader.mk.injEq] at found
  exact ⟨headers, found.1.symm, found.2.2.symm⟩

/-- A spelling that lacks its last octets is read as no frame. -/
theorem read_cut_spelling (fits : Fits header frame) {missing : Octets} (nonempty : missing ≠ [])
    (cut : frame.spelling header = octets ++ missing) (position : Nat) :
    (read ⟨position, octets⟩).1 = none := by
  cases found : read ⟨position, octets⟩ with
  | mk value after =>
    cases value with
    | none => rfl
    | some frame' =>
      obtain ⟨header', fits', spelled, _⟩ := read_eq_some.mp found
      simp only at spelled
      have same : frame.spelling header ++ [] = frame'.spelling header' ++ (after.rest ++ missing) := by
        rw [List.append_nil, cut, spelled, List.append_assoc]
      have left := (spelling_inj fits fits' same).2.2
      simp only [List.nil_eq, List.append_eq_nil_iff] at left
      exact absurd left.2 nonempty

theorem octets_eq_spelling (frame : Frame) (begins ends : Bool) :
    frame.octets begins ends = frame.spelling (frame.header begins ends) := by
  cases frame.id <;> simp [octets, spelling, header, payloadLength, idLength]

theorem fits_header (type : frame.type.length ≤ 255) (id : frame.id.length ≤ 255)
    (payload : frame.payload.length ≤ 4294967295) (begins ends : Bool) :
    Fits (frame.header begins ends) frame := by
  refine ⟨rfl, rfl, type, ?_, ?_⟩
  · cases named : frame.id with
    | nil => simp
    | cons first rest =>
      rw [named] at id
      simpa [header, named] using id
  · by_cases short : frame.payload.length ≤ 255
    · simp [header, short]
    · simp [header, short, payload]

end BridgeTag.Ndef.Frame
