import ProbeWatch.Proofs.Text.Blank
import ProbeWatch.Text.Lowercase

/-!
# ASCII letters and digits

Facts about the ASCII characters are found by going through their codes.  Lower-casing changes
neither what is blank nor what is a hexadecimal digit.
-/

namespace ProbeWatch.Text

theorem forall_of_codes {bound : Nat} (holds : Char → Prop)
    (codes : ∀ code < bound, holds (Char.ofNat code)) {c : Char} (low : c.toNat < bound) :
    holds c := by
  have known := codes c.toNat low
  rwa [Char.ofNat_toNat] at known

/-- What ASCII characters have in common with their lower-case forms, all characters have. -/
theorem apply_toLower {α : Type} (property : Char → α)
    (ascii : ∀ code < 128, property (Char.ofNat code).toLower = property (Char.ofNat code))
    (c : Char) : property c.toLower = property c := by
  by_cases low : c.toNat < 128
  · exact forall_of_codes (fun c => property c.toLower = property c) ascii low
  · have beyond : ¬ (c.val ≥ 'A'.val ∧ c.val ≤ 'Z'.val) := fun upper =>
      low (Nat.lt_of_le_of_lt (UInt32.le_iff_toNat_le.mp upper.2) (by decide))
    have same : c.toLower = c := dif_neg beyond
    rw [same]

theorem isBlank_toLower (c : Char) : isBlank c.toLower = isBlank c :=
  apply_toLower isBlank (by decide +kernel) c

theorem isHexDigit_toLower (c : Char) : isHexDigit c.toLower = isHexDigit c :=
  apply_toLower isHexDigit (by decide +kernel) c

theorem bne_dot_toLower (c : Char) : (c.toLower != '.') = (c != '.') :=
  apply_toLower (· != '.') (by decide +kernel) c

theorem asciiLowerChars_asciiLowerChars (text : List Char) :
    asciiLowerChars (asciiLowerChars text) = asciiLowerChars text := by
  have twice : Char.toLower ∘ Char.toLower = Char.toLower :=
    funext (apply_toLower Char.toLower (by decide +kernel))
  rw [asciiLowerChars, asciiLowerChars, List.map_map, twice]

/-- A text is trimmed in the same places in lower case. -/
theorem trimChars_asciiLowerChars (text : List Char) :
    trimChars (asciiLowerChars text) = asciiLowerChars (trimChars text) := by
  have same : isBlank ∘ Char.toLower = isBlank := funext isBlank_toLower
  simp only [trimChars, trimStart, dropEndWhile, asciiLowerChars, List.dropWhile_map,
    ← List.map_reverse, same]

/-- The hexadecimal digits of both cases. -/
def hexAlphabet : List Char := "0123456789abcdefABCDEF".toList

theorem isHexDigit_iff_mem {c : Char} : isHexDigit c = true ↔ c ∈ hexAlphabet := by
  constructor
  · intro digit
    have low := Nat.lt_succ_of_le (toNat_of_isHexDigit digit).2
    exact forall_of_codes (fun c => isHexDigit c = true → c ∈ hexAlphabet) (by decide +kernel) low
      digit
  · exact fun among => List.all_eq_true.mp (by decide : hexAlphabet.all isHexDigit = true) c among

theorem bne_dot_of_isHexDigit {c : Char} (digit : isHexDigit c = true) : (c != '.') = true := by
  rw [bne_iff_ne]
  rintro rfl
  cases digit

end ProbeWatch.Text
