import Mathlib.Data.List.TakeWhile
import ProbeWatch.Text.Blank
import ProbeWatch.Text.Hex

/-!
# Blank texts

A text is trimmed to nothing exactly when it has only blanks.  What has no blanks stays whole where
a text is trimmed around it.
-/

namespace ProbeWatch.Text

theorem dropEndWhile_eq_nil_iff {drop : Char → Bool} {text : List Char} :
    dropEndWhile drop text = [] ↔ ∀ c ∈ text, drop c = true := by
  rw [dropEndWhile, List.reverse_eq_nil_iff, List.dropWhile_eq_nil_iff]
  simp only [List.mem_reverse]

theorem dropEndWhile_append (drop : Char → Bool) (front back : List Char) :
    dropEndWhile drop (front ++ back) =
      if dropEndWhile drop back = [] then dropEndWhile drop front
      else front ++ dropEndWhile drop back := by
  simp only [dropEndWhile, List.reverse_append, List.dropWhile_append, List.isEmpty_iff,
    List.reverse_eq_nil_iff]
  split <;> simp

theorem dropEndWhile_eq_self_iff {drop : Char → Bool} {text : List Char} :
    dropEndWhile drop text = text ↔ ∀ c ∈ text.getLast?, drop c = false := by
  rw [dropEndWhile, List.reverse_eq_iff, ← List.head?_reverse]
  cases text.reverse with
  | nil => simp
  | cons last rest =>
      rw [List.dropWhile_eq_self_iff]
      simp

theorem dropEndWhile_append_of_eq {drop : Char → Bool} {front : List Char}
    (whole : dropEndWhile drop front = front) (back : List Char) :
    dropEndWhile drop (front ++ back) = front ++ dropEndWhile drop back := by
  rw [dropEndWhile_append, whole]
  split
  · rename_i nothing
    rw [nothing, List.append_nil]
  · rfl

theorem dropEndWhile_append_of_forall {drop : Char → Bool} {front : List Char}
    (kept : ∀ c ∈ front, drop c = false) (back : List Char) :
    dropEndWhile drop (front ++ back) = front ++ dropEndWhile drop back := by
  refine dropEndWhile_append_of_eq (dropEndWhile_eq_self_iff.mpr fun c last => ?_) back
  exact kept c (List.mem_of_getLast? last)

theorem dropEndWhile_isPrefix (drop : Char → Bool) (text : List Char) :
    dropEndWhile drop text <+: text := by
  rw [dropEndWhile, ← List.reverse_suffix, List.reverse_reverse]
  exact List.dropWhile_suffix drop

theorem toNat_of_isHexDigit {c : Char} (digit : isHexDigit c = true) :
    48 ≤ c.toNat ∧ c.toNat ≤ 102 := by
  simp only [isHexDigit, Bool.or_eq_true, Bool.and_eq_true, decide_eq_true_eq] at digit
  rcases digit with (⟨low, high⟩ | ⟨low, high⟩) | ⟨low, high⟩ <;>
    exact ⟨Nat.le_trans (by decide) (UInt32.le_iff_toNat_le.mp low),
      Nat.le_trans (UInt32.le_iff_toNat_le.mp high) (by decide)⟩

theorem isBlank_of_isHexDigit {c : Char} (digit : isHexDigit c = true) : isBlank c = false := by
  have := toNat_of_isHexDigit digit
  simp only [isBlank, Bool.or_eq_false_iff, Bool.and_eq_false_iff, decide_eq_false_iff_not,
    beq_eq_false_iff_ne]
  omega

theorem trimChars_eq_nil_iff {text : List Char} :
    trimChars text = [] ↔ ∀ c ∈ text, isBlank c = true := by
  rw [trimChars, dropEndWhile_eq_nil_iff, trimStart]
  constructor
  · intro blank c found
    rw [← List.takeWhile_append_dropWhile (p := isBlank) (l := text), List.mem_append] at found
    rcases found with leading | later
    · exact List.mem_takeWhile_imp leading
    · exact blank c later
  · intro blank c found
    exact blank c ((List.dropWhile_sublist isBlank).subset found)

theorem trimStart_eq_self_iff {text : List Char} :
    trimStart text = text ↔ ∀ c ∈ text.head?, isBlank c = false := by
  rw [trimStart]
  cases text with
  | nil => simp
  | cons first rest =>
      rw [List.dropWhile_eq_self_iff]
      simp

theorem trimChars_eq_self_iff {text : List Char} :
    trimChars text = text ↔
      (∀ c ∈ text.head?, isBlank c = false) ∧ ∀ c ∈ text.getLast?, isBlank c = false := by
  rw [← trimStart_eq_self_iff, ← dropEndWhile_eq_self_iff, trimChars]
  constructor
  · intro whole
    -- Neither cut makes a text longer, so none of them took anything away.
    have shorter := (dropEndWhile_isPrefix isBlank (trimStart text)).length_le
    rw [whole] at shorter
    have start : trimStart text = text :=
      (List.dropWhile_suffix isBlank).eq_of_length_le shorter
    rw [start] at whole
    exact ⟨start, whole⟩
  · rintro ⟨start, finish⟩
    rw [start, finish]

theorem trimChars_padded {front back : List Char} (leading : ∀ c ∈ front, isBlank c = true)
    (trailing : ∀ c ∈ back, isBlank c = true) (text : List Char) :
    trimChars (front ++ text ++ back) = trimChars text := by
  have nothing : dropEndWhile isBlank back = [] := dropEndWhile_eq_nil_iff.mpr trailing
  rw [trimChars, trimChars, trimStart, trimStart, List.append_assoc,
    List.dropWhile_append_of_pos leading, List.dropWhile_append]
  split
  · rename_i blank
    rw [List.isEmpty_iff.mp blank]
    refine dropEndWhile_eq_nil_iff.mpr fun c found => ?_
    exact trailing c ((List.dropWhile_sublist isBlank).subset found)
  · rw [dropEndWhile_append, if_pos nothing]

/-- What has no blanks is kept with all behind it but the blanks at the end. -/
theorem trimChars_of_forall {front solid : List Char} (leading : ∀ c ∈ front, isBlank c = true)
    (filled : ∀ c ∈ solid, isBlank c = false) (nonempty : solid ≠ []) (rest : List Char) :
    trimChars (front ++ solid ++ rest) = solid ++ dropEndWhile isBlank rest := by
  have start : trimStart (front ++ solid ++ rest) = solid ++ rest := by
    rw [trimStart, List.append_assoc, List.dropWhile_append_of_pos leading]
    refine trimStart_eq_self_iff.mpr fun c first => ?_
    cases solid with
    | nil => exact absurd rfl nonempty
    | cons head tail => exact filled c (List.mem_of_head? first)
  rw [trimChars, start, dropEndWhile_append_of_forall filled]

theorem exists_eq_padded (text : List Char) :
    ∃ front back, text = front ++ trimChars text ++ back ∧
      (∀ c ∈ front, isBlank c = true) ∧ ∀ c ∈ back, isBlank c = true := by
  have cut : trimStart text =
      trimChars text ++ ((trimStart text).reverse.takeWhile isBlank).reverse := by
    rw [trimChars, dropEndWhile, ← List.reverse_append, List.takeWhile_append_dropWhile,
      List.reverse_reverse]
  refine ⟨text.takeWhile isBlank, ((trimStart text).reverse.takeWhile isBlank).reverse, ?_,
    fun c => List.mem_takeWhile_imp, fun c last => ?_⟩
  · rw [List.append_assoc, ← cut, trimStart, List.takeWhile_append_dropWhile]
  · exact List.mem_takeWhile_imp (List.mem_reverse.mp last)

/-- What is left of a text once it is trimmed is what stands in it between blanks and neither begins
nor ends with one. -/
theorem trimChars_eq_iff {text kept : List Char} :
    trimChars text = kept ↔ trimChars kept = kept ∧ ∃ front back, text = front ++ kept ++ back ∧
      (∀ c ∈ front, isBlank c = true) ∧ ∀ c ∈ back, isBlank c = true := by
  constructor
  · rintro rfl
    obtain ⟨front, back, padded, leading, trailing⟩ := exists_eq_padded text
    have trimmed := trimChars_padded leading trailing (trimChars text)
    rw [← padded] at trimmed
    exact ⟨trimmed.symm, front, back, padded, leading, trailing⟩
  · rintro ⟨whole, front, back, rfl, leading, trailing⟩
    rw [trimChars_padded leading trailing, whole]

theorem isAllBlank_iff {text : String} :
    isAllBlank text = true ↔ ∀ c ∈ text.toList, isBlank c = true := by
  rw [isAllBlank, String.isEmpty_iff, ← String.toList_eq_nil_iff, toList_trim,
    trimChars_eq_nil_iff]

theorem isSome_trimmed?_iff {text : String} :
    (trimmed? text).isSome ↔ isAllBlank text = false := by
  rw [trimmed?, isAllBlank]
  cases (trim text).isEmpty <;> simp

theorem trimmed?_eq_some_iff {text kept : String} :
    trimmed? text = some kept ↔ kept = trim text ∧ kept ≠ "" := by
  rw [trimmed?]
  constructor
  · intro found
    split at found
    · cases found
    · rename_i filled
      cases found
      exact ⟨rfl, mt String.isEmpty_iff.mpr filled⟩
  · rintro ⟨rfl, filled⟩
    exact if_neg (mt String.isEmpty_iff.mp filled)

theorem ne_empty_of_trimmed? {text kept : String} (trimmed : trimmed? text = some kept) :
    kept ≠ "" :=
  (trimmed?_eq_some_iff.mp trimmed).2

theorem afterLast?_append {separator : Char} {rest : List Char} (last : separator ∉ rest)
    (front : List Char) : afterLast? separator (front ++ separator :: rest) = some rest := by
  have other : ∀ c ∈ rest.reverse, (c != separator) = true := by
    intro c found
    rw [bne_iff_ne]
    rintro rfl
    exact last (List.mem_reverse.mp found)
  rw [afterLast?, if_pos (by simp), List.reverse_append, List.reverse_cons, List.append_assoc,
    List.takeWhile_append_of_pos other]
  simp

theorem afterLast?_eq_some_iff {separator : Char} {text rest : List Char} :
    afterLast? separator text = some rest ↔
      ∃ front, text = front ++ separator :: rest ∧ separator ∉ rest := by
  constructor
  · intro found
    by_cases among : separator ∈ text
    · obtain ⟨behind, before, cut, first⟩ :=
        List.eq_append_cons_of_mem (List.mem_reverse.mpr among)
      have cut' : text = before.reverse ++ separator :: behind.reverse := by
        rw [← List.reverse_reverse text, cut]
        simp
      have last : separator ∉ behind.reverse := mt List.mem_reverse.mp first
      rw [cut', afterLast?_append last] at found
      cases found
      exact ⟨before.reverse, cut', last⟩
    · rw [afterLast?, if_neg among] at found
      cases found
  · rintro ⟨front, rfl, last⟩
    exact afterLast?_append last front

end ProbeWatch.Text
