import ProbeWatch.Proofs.Text.Letters
import ProbeWatch.Text.Percent

/-!
# Faithful path segments

An encoded segment is written in unreserved characters and triplets alone, and the bytes that it
stands for are those of the segment.  Encoding works byte by byte, so each fact comes down to one
byte, with anything behind it.
-/

namespace ProbeWatch.Text

/-! ## The alphabet of a segment -/

/-- The unreserved characters of RFC 3986. -/
def unreservedAlphabet : List Char :=
  "ABCDEFGHIJKLMNOPQRSTUVWXYZabcdefghijklmnopqrstuvwxyz0123456789-._~".toList

/-- The hexadecimal digits in upper case. -/
def upperHexAlphabet : List Char := "0123456789ABCDEF".toList

/-- Whether a text has only unreserved characters and triplets of a percent sign and two
hexadecimal digits in upper case. -/
inductive IsEncoded : List Char → Prop
  | nil : IsEncoded []
  | unreserved {c : Char} {rest : List Char} (known : c ∈ unreservedAlphabet)
      (later : IsEncoded rest) : IsEncoded (c :: rest)
  | triplet {high low : Char} {rest : List Char} (upper : high ∈ upperHexAlphabet)
      (lower : low ∈ upperHexAlphabet) (later : IsEncoded rest) :
      IsEncoded ('%' :: high :: low :: rest)

theorem forall_of_bytes (holds : UInt8 → Prop) (codes : ∀ code < 256, holds (UInt8.ofNat code))
    (byte : UInt8) : holds byte := by
  have known := codes byte.toNat byte.toNat_lt
  rwa [UInt8.ofNat_toNat] at known

theorem mem_unreservedAlphabet {byte : UInt8} (kept : isUnreserved byte = true) :
    Char.ofNat byte.toNat ∈ unreservedAlphabet :=
  forall_of_bytes
    (fun byte => isUnreserved byte = true → Char.ofNat byte.toNat ∈ unreservedAlphabet)
    (by decide +kernel) byte kept

theorem upperHexDigit_mem : ∀ value < 16, upperHexDigit value ∈ upperHexAlphabet := by
  decide

theorem isEncoded_percentByte (byte : UInt8) {rest : List Char} (later : IsEncoded rest) :
    IsEncoded (percentByte isUnreserved byte ++ rest) := by
  have narrow := byte.toNat_lt
  rw [percentByte]
  split
  · rename_i kept
    exact .unreserved (mem_unreservedAlphabet kept) later
  · exact .triplet (upperHexDigit_mem _ (by omega)) (upperHexDigit_mem _ (by omega)) later

theorem isEncoded_percentEncode (segment : List Char) : IsEncoded (percentEncode segment) := by
  rw [percentEncode]
  induction utf8Bytes segment with
  | nil => exact .nil
  | cons byte bytes ih =>
      rw [List.flatMap_cons]
      exact isEncoded_percentByte byte ih

theorem IsEncoded.forall_mem {text : List Char} (encoded : IsEncoded text) :
    ∀ c ∈ text, c = '%' ∨ c ∈ unreservedAlphabet ∨ c ∈ upperHexAlphabet := by
  induction encoded with
  | nil => exact nofun
  | unreserved known later ih => exact List.forall_mem_cons.mpr ⟨.inr (.inl known), ih⟩
  | triplet upper lower later ih =>
      have digits := List.forall_mem_cons.mpr
        ⟨.inr (.inr upper), List.forall_mem_cons.mpr ⟨.inr (.inr lower), ih⟩⟩
      exact List.forall_mem_cons.mpr ⟨.inl rfl, digits⟩

theorem ne_delimiter_of_mem {alphabet : List Char}
    (plain : alphabet.all (fun c => c != '/' && c != '?' && c != '#') = true) {c : Char}
    (among : c ∈ alphabet) : c ≠ '/' ∧ c ≠ '?' ∧ c ≠ '#' := by
  have none := List.all_eq_true.mp plain c among
  simpa only [Bool.and_eq_true, bne_iff_ne, and_assoc] using none

theorem IsEncoded.ne_delimiter {text : List Char} (encoded : IsEncoded text) {c : Char}
    (among : c ∈ text) : c ≠ '/' ∧ c ≠ '?' ∧ c ≠ '#' := by
  rcases encoded.forall_mem c among with rfl | unreserved | digit
  · decide
  · exact ne_delimiter_of_mem (by decide +kernel) unreserved
  · exact ne_delimiter_of_mem (by decide +kernel) digit

/-! ## Segments that stay as they are -/

/-- A segment is encoded as itself if each of its characters is. -/
theorem percentEncode_eq_self {segment : List Char}
    (plain : ∀ c ∈ segment, percentEncode [c] = [c]) : percentEncode segment = segment := by
  induction segment with
  | nil => rfl
  | cons c rest ih =>
      obtain ⟨first, later⟩ := List.forall_mem_cons.mp plain
      rw [← List.singleton_append, percentEncode_append, first, ih later]

theorem percentEncode_of_isUnreserved {c : Char} (ascii : c.toNat < 128)
    (kept : isUnreserved (UInt8.ofNat c.toNat) = true) : percentEncode [c] = [c] := by
  have byte : String.utf8EncodeChar c = [UInt8.ofNat c.toNat] :=
    if_pos (Nat.le_of_lt_succ ascii)
  have code : (UInt8.ofNat c.toNat).toNat = c.toNat :=
    UInt8.toNat_ofNat_of_lt (Nat.lt_trans ascii (by decide))
  simp [percentEncode, utf8Bytes, byte, percentByte, kept, code]

/-! ## Reading a segment back -/

theorem percentDecode_of_ne {c : Char} (other : c ≠ '%') (rest : List Char) :
    percentDecode (c :: rest) = String.utf8EncodeChar c ++ percentDecode rest := by
  rw [percentDecode.eq_def]
  split
  · contradiction
  · rename_i same
    exact absurd (List.cons.inj same).1 other
  · rename_i same
    obtain ⟨rfl, rfl⟩ := List.cons.inj same
    rfl

theorem percentDecode_triplet {high low : Char} {upper lower : Nat}
    (first : hexValue? high = some upper) (second : hexValue? low = some lower)
    (rest : List Char) :
    percentDecode ('%' :: high :: low :: rest) =
      UInt8.ofNat (upper * 16 + lower) :: percentDecode rest := by
  rw [percentDecode, first, second]

theorem hexValue?_upperHexDigit : ∀ value < 16, hexValue? (upperHexDigit value) = some value := by
  decide

/-- An unreserved character is no percent sign, and is encoded in UTF-8 as its byte. -/
theorem utf8EncodeChar_of_isUnreserved {byte : UInt8} (kept : isUnreserved byte = true) :
    Char.ofNat byte.toNat ≠ '%' ∧ String.utf8EncodeChar (Char.ofNat byte.toNat) = [byte] :=
  forall_of_bytes
    (fun byte => isUnreserved byte = true →
      Char.ofNat byte.toNat ≠ '%' ∧ String.utf8EncodeChar (Char.ofNat byte.toNat) = [byte])
    (by decide +kernel) byte kept

theorem percentDecode_percentByte (byte : UInt8) (rest : List Char) :
    percentDecode (percentByte isUnreserved byte ++ rest) = byte :: percentDecode rest := by
  rw [percentByte]
  split
  · rename_i kept
    obtain ⟨other, single⟩ := utf8EncodeChar_of_isUnreserved kept
    rw [List.singleton_append, percentDecode_of_ne other, single, List.singleton_append]
  · have narrow := byte.toNat_lt
    have first := hexValue?_upperHexDigit (byte.toNat / 16) (by omega)
    have second := hexValue?_upperHexDigit (byte.toNat % 16) (by omega)
    have whole : byte.toNat / 16 * 16 + byte.toNat % 16 = byte.toNat := by omega
    rw [percentTriplet, List.cons_append, List.cons_append, List.singleton_append,
      percentDecode_triplet first second, whole, UInt8.ofNat_toNat]

/-- An encoded segment stands for the UTF-8 bytes of the segment. -/
theorem percentDecode_percentEncode (segment : List Char) :
    percentDecode (percentEncode segment) = utf8Bytes segment := by
  rw [percentEncode]
  induction utf8Bytes segment with
  | nil => rfl
  | cons byte bytes ih => rw [List.flatMap_cons, percentDecode_percentByte, ih]

theorem toByteArray_utf8Bytes (text : String) :
    (utf8Bytes text.toList).toByteArray = text.toUTF8 := by
  have encoded := String.toByteArray_ofList (l := text.toList)
  rw [String.ofList_toList] at encoded
  exact encoded.symm

theorem encodeSegment_injective : Function.Injective encodeSegment := by
  intro left right same
  have texts : percentEncode left.toList = percentEncode right.toList := String.ofList_inj.mp same
  have bytes := congrArg percentDecode texts
  rw [percentDecode_percentEncode, percentDecode_percentEncode] at bytes
  rw [← String.toByteArray_inj]
  exact (toByteArray_utf8Bytes left).symm.trans
    ((congrArg List.toByteArray bytes).trans (toByteArray_utf8Bytes right))

/-- An encoded segment has only unreserved characters and triplets, and stands for the UTF-8 bytes
of the segment.  So no segment brings a delimiter into a path, different segments are encoded
differently, and a segment of two parts is encoded as the two encoded parts. -/
theorem encoded_segments_are_faithful (segment : String) :
    IsEncoded (encodeSegment segment).toList ∧
      (percentDecode (encodeSegment segment).toList).toByteArray = segment.toUTF8 ∧
      (∀ other, encodeSegment other = encodeSegment segment → other = segment) ∧
      (∀ c ∈ (encodeSegment segment).toList, c ≠ '/' ∧ c ≠ '?' ∧ c ≠ '#') ∧
      ∀ other, encodeSegment (segment ++ other) = encodeSegment segment ++ encodeSegment other := by
  have encoded : IsEncoded (encodeSegment segment).toList := by
    rw [encodeSegment, String.toList_ofList]
    exact isEncoded_percentEncode segment.toList
  refine ⟨encoded, ?_, fun other same => encodeSegment_injective same,
    fun c => encoded.ne_delimiter, fun other => ?_⟩
  · rw [encodeSegment, String.toList_ofList, percentDecode_percentEncode, toByteArray_utf8Bytes]
  · rw [encodeSegment, String.toList_append, percentEncode_append, String.ofList_append]
    rfl

/-- A percent sign is no exception: what looks like a triplet in a segment is encoded again. -/
example : encodeSegment "%2F é~" = "%252F%20%C3%A9~" := by
  decide +kernel

end ProbeWatch.Text
