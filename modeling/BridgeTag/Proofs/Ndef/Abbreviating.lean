import BridgeTag.Ndef.Uri

/-! What abbreviating a URI keeps of it, and that nothing abbreviates it further. The search goes
through the beginnings that have a code; whatever it has found so far is one of them, begins the
text, and is as long as any that it has met. -/
namespace BridgeTag.Ndef.Uri

structure Starts (text : List Char) (found : String × Nat) : Prop where
  coded : stems[found.2]? = some found.1
  starts : found.1.toList <+: text

def taken (text : String) : String × Nat :=
  stems.zipIdx.foldl (longer text.toList) ("", 0)

variable {text : List Char} {best candidate : String × Nat}

theorem ofText_eq (text : String) : ofText text =
    ⟨UInt8.ofNat (taken text).2, String.ofList (text.toList.drop (taken text).1.length)⟩ := rfl

theorem starts_longer (soFar : Starts text best) (coded : stems[candidate.2]? = some candidate.1) :
    Starts text (longer text best candidate) := by
  unfold longer
  split
  next better =>
    simp only [Bool.and_eq_true, List.isPrefixOf_iff_prefix] at better
    exact ⟨coded, better.1⟩
  next => exact soFar

theorem starts_taken (text : String) : Starts text.toList (taken text) := by
  apply List.foldlRecOn
  · exact ⟨rfl, List.nil_prefix⟩
  · intro best soFar candidate member
    exact starts_longer soFar (List.mk_mem_zipIdx_iff_getElem?.mp member)

theorem taken_listed (text : String) : (taken text).2 < 36 :=
  (List.getElem?_eq_some_iff.mp (starts_taken text).coded).1

/-- The codes of the list fit an octet, so that writing one as an octet loses nothing. -/
theorem toNat_code_ofText (text : String) : (ofText text).code.toNat = (taken text).2 := by
  have listed := taken_listed text
  rw [ofText_eq, UInt8.toNat_ofNat']
  omega

theorem code_ofText_le (text : String) : (ofText text).code ≤ 0x23 := by
  rw [UInt8.le_iff_toNat_le, toNat_code_ofText]
  exact Nat.le_of_lt_succ (taken_listed text)

theorem stem_ofText (text : String) : stem (ofText text).code = (taken text).1 := by
  rw [stem, toNat_code_ofText, (starts_taken text).coded, Option.getD_some]

@[simp] theorem toText_ofText (text : String) : (ofText text).toText = text := by
  obtain ⟨rest, split⟩ := (starts_taken text).starts
  apply String.toList_inj.mp
  rw [toText, stem_ofText, ofText_eq]
  simp [← split, List.drop_left' String.length_toList]

theorem utf8ByteSize_rest_le (text : String) :
    (ofText text).rest.utf8ByteSize ≤ text.utf8ByteSize := by
  have total := congrArg String.utf8ByteSize (toText_ofText text)
  simp only [toText, String.utf8ByteSize_append] at total
  omega

theorem length_encode (uri : Uri) : uri.encode.length = 1 + uri.rest.utf8ByteSize := by
  simp [encode, Nat.add_comm]

/-- After a step of the search what it has is no shorter than before, nor than the candidate if this
begins the text. -/
theorem length_le_longer (text : List Char) (best candidate : String × Nat) :
    best.1.length ≤ (longer text best candidate).1.length ∧
      (candidate.1.toList <+: text →
        candidate.1.length ≤ (longer text best candidate).1.length) := by
  unfold longer
  split
  next better =>
    simp only [Bool.and_eq_true, decide_eq_true_eq] at better
    exact ⟨Nat.le_of_lt better.2, fun _ => Nat.le_refl _⟩
  next worse =>
    refine ⟨Nat.le_refl _, ?_⟩
    intro starts
    simpa [List.isPrefixOf_iff_prefix, starts] using worse

theorem length_le_foldl_longer (text : List Char) (candidates : List (String × Nat))
    (best : String × Nat) :
    best.1.length ≤ (candidates.foldl (longer text) best).1.length ∧
      ∀ candidate ∈ candidates, candidate.1.toList <+: text →
        candidate.1.length ≤ (candidates.foldl (longer text) best).1.length := by
  induction candidates generalizing best with
  | nil => exact ⟨Nat.le_refl _, nofun⟩
  | cons candidate candidates ih =>
    obtain ⟨kept, met⟩ := length_le_longer text best candidate
    obtain ⟨kept', met'⟩ := ih (longer text best candidate)
    refine ⟨Nat.le_trans kept kept', ?_⟩
    intro other member starts
    rcases List.mem_cons.mp member with rfl | later
    · exact Nat.le_trans (met starts) kept'
    · exact met' other later starts

theorem stem_isPrefix (uri : Uri) : (stem uri.code).toList <+: uri.toText.toList :=
  ⟨uri.rest.toList, by rw [toText, String.toList_append]⟩

/-- What a code stands for is no longer than the beginning taken off the whole URI. -/
theorem length_stem_le (uri : Uri) : (stem uri.code).length ≤ (taken uri.toText).1.length := by
  have starts := stem_isPrefix uri
  unfold stem at starts ⊢
  cases coded : stems[uri.code.toNat]? with
  | none => exact Nat.zero_le _
  | some listed =>
    rw [coded] at starts
    exact (length_le_foldl_longer _ _ _).2 (listed, uri.code.toNat)
      (List.mk_mem_zipIdx_iff_getElem?.mpr coded) starts

/-- Abbreviating takes off what the record's own code stands for, and maybe more. -/
theorem exists_more (uri : Uri) : ∃ more,
    stem (ofText uri.toText).code = stem uri.code ++ more ∧
      uri.rest = more ++ (ofText uri.toText).rest := by
  have length : (stem uri.code).toList.length ≤ (taken uri.toText).1.toList.length := by
    rw [String.length_toList, String.length_toList]
    exact length_stem_le uri
  obtain ⟨more, split⟩ := List.prefix_of_prefix_length_le (stem_isPrefix uri)
    (starts_taken uri.toText).starts length
  have longest : stem (ofText uri.toText).code = stem uri.code ++ String.ofList more := by
    apply String.toList_inj.mp
    rw [stem_ofText, String.toList_append, String.toList_ofList, split]
  refine ⟨String.ofList more, longest, ?_⟩
  have whole := toText_ofText uri.toText
  rw [toText, longest, toText, String.append_assoc] at whole
  exact ((String.append_right_inj _).mp whole).symm

theorem length_encode_of_rest {uri short : Uri} {more : String}
    (rest : uri.rest = more ++ short.rest) :
    uri.encode.length = more.utf8ByteSize + short.encode.length := by
  rw [length_encode, length_encode, rest, String.utf8ByteSize_append]
  omega

theorem length_encode_ofText_le (uri : Uri) :
    (ofText uri.toText).encode.length ≤ uri.encode.length := by
  obtain ⟨more, _, rest⟩ := exists_more uri
  rw [length_encode_of_rest rest]
  exact Nat.le_add_left _ _

/-- No two codes stand for the same beginning, so the search never has to choose. -/
theorem nodup_stems : stems.Nodup := by decide

/-- Only a reserved code can be as short as the abbreviation without being it. -/
theorem eq_ofText_of_length {uri : Uri} (unreserved : uri.code ≤ 0x23)
    (short : uri.encode.length = (ofText uri.toText).encode.length) :
    uri = ofText uri.toText := by
  obtain ⟨more, longest, rest⟩ := exists_more uri
  have nothing : more = "" := by
    rw [length_encode_of_rest rest] at short
    exact String.utf8ByteSize_eq_zero_iff.mp (by omega)
  rw [nothing, String.append_empty] at longest
  rw [nothing, String.empty_append] at rest
  have listed : uri.code.toNat < stems.length :=
    Nat.lt_succ_of_le (UInt8.le_iff_toNat_le.mp unreserved)
  have code : uri.code.toNat = (ofText uri.toText).code.toNat := by
    apply (List.getElem?_inj listed nodup_stems).mp
    rw [toNat_code_ofText, (starts_taken uri.toText).coded, ← stem_ofText, longest, stem,
      List.getElem?_eq_getElem listed, Option.getD_some]
  exact congr (congrArg mk (UInt8.toNat_inj.mp code)) rest

/-- A URI is written in the shortest way there is: its abbreviation stands for it, under one of the
listed codes, and of the records that stand for it none is shorter, and none but a reserved code is
as short. So abbreviating what any record stands for keeps the URI, never lengthens the record, and
changes nothing the second time. -/
theorem ofText_shortest (text : String) :
    (ofText text).toText = text ∧ (ofText text).code ≤ 0x23 ∧
    (∀ uri : Uri, uri.toText = text → (ofText text).encode.length ≤ uri.encode.length ∧
      (uri.code ≤ 0x23 → uri.encode.length = (ofText text).encode.length → uri = ofText text)) ∧
    ∀ uri : Uri, (ofText uri.toText).toText = uri.toText ∧
      (ofText uri.toText).encode.length ≤ uri.encode.length ∧
      ofText (ofText uri.toText).toText = ofText uri.toText := by
  refine ⟨toText_ofText text, code_ofText_le text, ?_, ?_⟩
  · intro uri same
    subst same
    exact ⟨length_encode_ofText_le uri, eq_ofText_of_length⟩
  · intro uri
    refine ⟨toText_ofText _, length_encode_ofText_le uri, ?_⟩
    rw [toText_ofText]

/-- Three listed beginnings begin this text. -/
example : ofText "urn:epc:id:sgln:1" = ⟨0x1E, "sgln:1"⟩ := by decide

end BridgeTag.Ndef.Uri
