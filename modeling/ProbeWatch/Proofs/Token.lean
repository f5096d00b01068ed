import ProbeWatch.Proofs.Text.Letters
import ProbeWatch.Text.Percent
import ProbeWatch.Watch.Poll

/-!
# The grammar of probe tokens

A domain starts with a token if ten hexadecimal digits stand in front of its first dot, or alone
between blanks.  Reading a token accepts just these domains; the token that is read is again a
domain that starts with itself, and neither blanks around a domain nor the case of its letters make
a difference.
-/

namespace ProbeWatch.Token

open Text (isBlank isHexDigit hexAlphabet trimChars asciiLowerChars)

/-! ## Domains that start with a token -/

/-- Whether a domain starts with these digits of a token: they stand behind blanks alone, and behind
them comes a dot, or else blanks alone. -/
def StartsWith (domain : String) (digits : List Char) : Prop :=
  (digits.length = 10 ∧ ∀ c ∈ digits, c ∈ hexAlphabet) ∧
    ∃ front rest, domain.toList = front ++ digits ++ rest ∧ (∀ c ∈ front, isBlank c = true) ∧
      ((∀ c ∈ rest, isBlank c = true) ∨ ∃ labels, rest = '.' :: labels)

variable {domain : String} {digits : List Char}

theorem isDigits_iff {label : List Char} :
    isDigits label = true ↔ label.length = 10 ∧ ∀ c ∈ label, isHexDigit c = true := by
  rw [isDigits, Bool.and_eq_true, beq_iff_eq, List.all_eq_true]
  exact Iff.rfl

/-- It makes no difference whether the characters of a label are counted or its bytes. -/
theorem isDigits_iff_utf8Bytes {label : List Char} :
    isDigits label = true ↔
      (Text.utf8Bytes label).length = 10 ∧ ∀ c ∈ label, isHexDigit c = true := by
  rw [isDigits_iff]
  refine and_congr_left fun digit => ?_
  have single : ∀ c ∈ label, (String.utf8EncodeChar c).length = 1 := fun c among => by
    have ascii := (Text.toNat_of_isHexDigit (digit c among)).2
    rw [String.length_utf8EncodeChar, Char.utf8Size_eq_one_iff]
    exact UInt32.le_iff_toNat_le.mpr (Nat.le_trans ascii (by decide))
  rw [Text.utf8Bytes, List.length_flatMap, List.map_congr_left single, List.map_const',
    List.sum_replicate_nat, Nat.mul_one]

theorem label_of_startsWith (starts : StartsWith domain digits) :
    label domain.toList = digits := by
  obtain ⟨⟨count, known⟩, front, rest, text, leading, behind⟩ := starts
  have digit : ∀ c ∈ digits, isHexDigit c = true := fun c among =>
    Text.isHexDigit_iff_mem.mpr (known c among)
  have solid : ∀ c ∈ digits, isBlank c = false := fun c among =>
    Text.isBlank_of_isHexDigit (digit c among)
  have dotless : ∀ c ∈ digits, (c != '.') = true := fun c among =>
    Text.bne_dot_of_isHexDigit (digit c among)
  have nonempty : digits ≠ [] := List.ne_nil_of_length_pos (by omega)
  rw [label, text, Text.trimChars_of_forall leading solid nonempty,
    List.takeWhile_append_of_pos dotless]
  rcases behind with trailing | ⟨labels, rfl⟩
  · rw [Text.dropEndWhile_eq_nil_iff.mpr trailing, List.takeWhile_nil, List.append_nil]
  · -- The dot stays where the end is cut, so the label ends in front of it.
    have stays : ∀ c ∈ ['.'], isBlank c = false := List.forall_mem_singleton.mpr (by decide)
    have kept := Text.dropEndWhile_append_of_forall stays labels
    rw [List.singleton_append] at kept
    rw [kept]
    simp

theorem startsWith_label (digit : isDigits (label domain.toList) = true) :
    StartsWith domain (label domain.toList) := by
  obtain ⟨count, each⟩ := isDigits_iff.mp digit
  obtain ⟨front, back, text, leading, trailing⟩ := Text.exists_eq_padded domain.toList
  let rest := (trimChars domain.toList).dropWhile (· != '.')
  have cut : trimChars domain.toList = label domain.toList ++ rest :=
    List.takeWhile_append_dropWhile.symm
  refine ⟨⟨count, fun c among => Text.isHexDigit_iff_mem.mp (each c among)⟩, front, rest ++ back,
    ?_, leading, ?_⟩
  · rw [← List.append_assoc, List.append_assoc front, ← cut]
    exact text
  · cases dotted : rest with
    | nil => exact .inl trailing
    | cons first labels =>
        have stops := List.head?_dropWhile_not (· != '.') (trimChars domain.toList)
        rw [show List.dropWhile _ _ = first :: labels from dotted] at stops
        have dot : first = '.' := bne_eq_false_iff_eq.mp stops
        exact .inr ⟨labels ++ back, by rw [dot, List.cons_append]⟩

/-- The token of some digits. -/
def ofDigits (digits : List Char) : Token := ⟨String.ofList (asciiLowerChars digits)⟩

theorem parse?_eq (domain : String) :
    parse? domain =
      if isDigits (label domain.toList) then some (ofDigits (label domain.toList)) else none := rfl

theorem parse?_of_startsWith (starts : StartsWith domain digits) :
    parse? domain = some (ofDigits digits) := by
  have digit : isDigits digits = true :=
    isDigits_iff.mpr ⟨starts.1.1, fun c among => Text.isHexDigit_iff_mem.mpr (starts.1.2 c among)⟩
  rw [parse?_eq, label_of_startsWith starts, if_pos digit]

theorem parse?_eq_some_iff {token : Token} :
    parse? domain = some token ↔ ∃ digits, StartsWith domain digits ∧ token = ofDigits digits := by
  constructor
  · intro read
    by_cases digit : isDigits (label domain.toList) = true
    · rw [parse?_eq, if_pos digit] at read
      exact ⟨_, startsWith_label digit, (Option.some.inj read).symm⟩
    · rw [parse?_eq, if_neg digit] at read
      cases read
  · rintro ⟨digits, starts, rfl⟩
    exact parse?_of_startsWith starts

/-! ## What makes no difference -/

theorem label_asciiLowerChars (text : List Char) :
    label (asciiLowerChars text) = asciiLowerChars (label text) := by
  have same : (· != '.') ∘ Char.toLower = (· != '.') := funext Text.bne_dot_toLower
  rw [label, Text.trimChars_asciiLowerChars, asciiLowerChars, List.takeWhile_map, same]
  rfl

theorem isDigits_asciiLowerChars (label : List Char) :
    isDigits (asciiLowerChars label) = isDigits label := by
  have same : isHexDigit ∘ Char.toLower = isHexDigit := funext Text.isHexDigit_toLower
  rw [isDigits, isDigits, asciiLowerChars, List.length_map, List.all_map, same]

theorem ofDigits_asciiLowerChars (digits : List Char) :
    ofDigits (asciiLowerChars digits) = ofDigits digits := by
  rw [ofDigits, Text.asciiLowerChars_asciiLowerChars, ofDigits]

theorem parse?_asciiLowerChars (domain : String) :
    parse? (String.ofList (asciiLowerChars domain.toList)) = parse? domain := by
  rw [parse?_eq, String.toList_ofList, label_asciiLowerChars, isDigits_asciiLowerChars,
    ofDigits_asciiLowerChars, parse?_eq]

theorem parse?_padded {front back : String} (leading : ∀ c ∈ front.toList, isBlank c = true)
    (trailing : ∀ c ∈ back.toList, isBlank c = true) (domain : String) :
    parse? (front ++ domain ++ back) = parse? domain := by
  have same : label (front ++ domain ++ back).toList = label domain.toList := by
    rw [String.toList_append, String.toList_append, label, Text.trimChars_padded leading trailing,
      label]
  rw [parse?_eq, same, parse?_eq]

/-- A token that was read is read again from itself, and from every domain below it. -/
theorem parse?_text {token : Token} (read : parse? domain = some token) {rest : String}
    (behind : rest = "" ∨ ∃ labels, rest.toList = '.' :: labels) :
    parse? (token.text ++ rest) = some token := by
  obtain ⟨digits, ⟨⟨count, known⟩, -⟩, rfl⟩ := parse?_eq_some_iff.mp read
  have lowered : ∀ c ∈ asciiLowerChars digits, c ∈ hexAlphabet := by
    intro c among
    obtain ⟨digit, found, rfl⟩ := List.mem_map.mp among
    rw [← Text.isHexDigit_iff_mem, Text.isHexDigit_toLower]
    exact Text.isHexDigit_iff_mem.mpr (known digit found)
  have starts : StartsWith ((ofDigits digits).text ++ rest) (asciiLowerChars digits) := by
    refine ⟨⟨by rw [asciiLowerChars, List.length_map, count], lowered⟩, [], rest.toList, ?_, nofun,
      ?_⟩
    · rw [String.toList_append, ofDigits, String.toList_ofList, List.nil_append]
    · exact behind.imp_left fun none => by simp [none]
  rw [parse?_of_startsWith starts, ofDigits_asciiLowerChars]

/-- A token is read from a domain if and only if the domain starts with its digits, and it is these
digits in lower case; a person whose domain is rejected is told why.  The token is read again from
itself and from every domain below it, and nothing changes with the case of letters or with blanks
around the domain. -/
theorem reading_is_exact_and_canonical (domain : String) :
    ((∃ token, parse? domain = some token) ↔ ∃ digits, StartsWith domain digits) ∧
      (∀ digits, StartsWith domain digits →
        parse? domain = some ⟨String.ofList (digits.map Char.toLower)⟩) ∧
      (parse? domain = none → ∀ session : Session, session.text.domain = domain →
        (Poll.start .token session).2.results.error = hint) ∧
      hint ≠ "" ∧
      (∀ token, parse? domain = some token →
        parse? token.text = some token ∧
          ∀ rest, parse? (token.text ++ "." ++ rest) = some token) ∧
      (∀ other : String,
        other.toList.map Char.toLower = domain.toList.map Char.toLower →
          parse? other = parse? domain) ∧
      ∀ front back : String,
        (∀ c ∈ front.toList, isBlank c = true) → (∀ c ∈ back.toList, isBlank c = true) →
          parse? (front ++ domain ++ back) = parse? domain := by
  refine ⟨⟨fun ⟨token, read⟩ => ?_, fun ⟨digits, starts⟩ => ⟨_, parse?_of_startsWith starts⟩⟩,
    fun digits => parse?_of_startsWith, ?_, by decide, fun token read => ⟨?_, fun rest => ?_⟩,
    fun other same => ?_, fun front back leading trailing => parse?_padded leading trailing domain⟩
  · obtain ⟨digits, starts, -⟩ := parse?_eq_some_iff.mp read
    exact ⟨digits, starts⟩
  · rintro rejected session rfl
    rw [Poll.start, rejected]
    rfl
  · have again := parse?_text read (.inl rfl : "" = "" ∨ _)
    rwa [String.append_empty] at again
  · rw [String.append_assoc]
    exact parse?_text read (.inr ⟨rest.toList, by rw [String.toList_append]; rfl⟩)
  · rw [← parse?_asciiLowerChars other, ← parse?_asciiLowerChars domain]
    exact congrArg (fun text => parse? (String.ofList text)) same

/-- Ten bytes are not enough: five letters of two bytes each are no token, and a blank in front of
the first dot belongs to the label. -/
example : parse? "ééééé" = none ∧ parse? "a1b2c3d4e5 .example" = none ∧
    parse? "\u3000A1b2C3d4E5.\u0000 " = some ⟨"a1b2c3d4e5"⟩ := by
  decide +kernel

end ProbeWatch.Token
