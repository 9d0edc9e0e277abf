import BridgeTag.Proofs.Ndef.RoundTrip

/-! Decoding one record looks at the octets of this record and at no others. What follows may be
anything, nothing less will do, and the marks of its place in a message make no difference. -/
namespace BridgeTag.Ndef

variable {registry : Registry} {header : Header} {frame : Frame} {record : Record} {octets : Octets}

namespace Header

def remark (header : Header) (begins ends : Bool) : Header :=
  { header with begins := begins, ends := ends }

/-- Octets with the same low six bits are headers that differ in their marks only. -/
theorem ofOctet_of_same_low {first first' : UInt8} (same : first' &&& 0x3F = first &&& 0x3F) :
    ofOctet first' = (ofOctet first).remark (ofOctet first').begins (ofOctet first').ends := by
  have masked (octet : UInt8) : (octet &&& 0x3F).toNat = octet.toNat % 2 ^ 6 :=
    Nat.and_two_pow_sub_one_eq_mod octet.toNat 6
  have low : first'.toNat % 2 ^ 6 = first.toNat % 2 ^ 6 := by
    rw [← masked, same, masked]
  have bit (place : Nat) (small : place < 6) :
      first'.toNat.testBit place = first.toNat.testBit place := by
    have bits := congrArg (Nat.testBit · place) low
    simpa only [Nat.testBit_mod_two_pow, small, decide_true, Bool.true_and] using bits
  have format : first'.toNat % 8 = first.toNat % 8 := by omega
  simp [ofOctet, remark, Tnf.ofOctet, bit, format]

end Header

namespace Frame

theorem Fits.remark (fits : frame.Fits header) (begins ends : Bool) :
    frame.Fits (header.remark begins ends) :=
  ⟨fits.tnf, fits.whole, fits.type, fits.id, fits.payload⟩

/-- The marks stand in the first octet and nowhere else. -/
theorem spelling_remark (frame : Frame) (header : Header) (begins ends : Bool) :
    frame.spelling (header.remark begins ends) =
      (header.remark begins ends).octet :: (frame.spelling header).tail := rfl

end Frame

namespace Record

/-- Decoding a record is local. It takes three octets at least and no more than there are; after
these any others may follow; with any of them missing the framing is refused; and the two highest
bits of the first, which say where in a message the record stands, do not count. -/
theorem decode_local {taken : Nat} (decoded : decode registry octets = .ok (record, taken)) :
    (3 ≤ taken ∧ taken ≤ octets.length) ∧
    (∀ rest, decode registry (octets.take taken ++ rest) = .ok (record, taken)) ∧
    (∀ length < taken, decode registry (octets.take length) =
      .error ⟨.record, "decode", .invalidMessage⟩) ∧
    ∀ first first' rest, octets = first :: rest → first' &&& 0x3F = first &&& 0x3F →
      decode registry (first' :: rest) = .ok (record, taken) := by
  have bounds := taken_of_decode decoded
  obtain ⟨header, frame, behind, fits, opened, rfl, rfl⟩ := decode_eq_ok.mp decoded
  refine ⟨bounds, ?_, ?_, ?_⟩
  · intro rest
    rw [List.take_left]
    exact decode_eq_ok.mpr ⟨header, frame, rest, fits, opened, rfl, rfl⟩
  · intro length short
    rw [List.take_append_of_le_length (by omega)]
    have missing : (frame.spelling header).drop length ≠ [] := by
      simpa using short
    have cut := (List.take_append_drop length (frame.spelling header)).symm
    exact decode_unread (Frame.read_cut_spelling fits missing cut 0)
  · intro first first' rest spelled same
    have octet : header.octet = first := (List.cons.inj spelled).1
    have others : (frame.spelling header).tail ++ behind = rest := (List.cons.inj spelled).2
    have marked := Header.ofOctet_of_same_low same
    rw [← octet, Header.ofOctet_octet] at marked
    refine decode_eq_ok.mpr ⟨Header.ofOctet first', frame, behind, ?_, opened, ?_, ?_⟩
    · rw [marked]
      exact fits.remark _ _
    · rw [marked, Frame.spelling_remark, ← marked, Header.octet_ofOctet, List.cons_append, others]
    · rw [marked, Frame.length_spelling, Frame.length_spelling]
      rfl

/-- Of 23 octets, with two records inside: followed by other octets, one octet short, and without
the mark that it begins a message. -/
theorem decode_sampleFrame : ∃ record ∈ Message.handoverSample,
    decode .builtIn Message.handoverOctets = .ok (record, 23) ∧
    decode .builtIn (Message.handoverOctets.take 23 ++ [0xFF, 0x00]) = .ok (record, 23) ∧
    decode .builtIn (Message.handoverOctets.take 22) =
      .error ⟨.record, "decode", .invalidMessage⟩ ∧
    (0x11 : UInt8) &&& 0x3F = 0x91 &&& 0x3F ∧
    decode .builtIn (0x11 :: Message.handoverOctets.tail) = .ok (record, 23) := by
  have decoded := Message.decode_record_handoverOctets
  obtain ⟨_, behind, cut, marks⟩ := decode_local decoded
  exact ⟨_, List.head_mem _, decoded, behind [0xFF, 0x00], cut 22 (by decide), by decide,
    marks 0x91 0x11 _ rfl (by decide)⟩

end Record
end BridgeTag.Ndef
