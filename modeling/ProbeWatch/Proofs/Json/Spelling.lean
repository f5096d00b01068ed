import ProbeWatch.Json.Lexeme
import ProbeWatch.Json.Printer
import ProbeWatch.Json.Record

/-!
# Spelling of lexemes

What the reader makes of the characters that the printers write for strings, integers and words.
A numeral ends only where another character begins, so a spelling speaks of what follows it.
-/

namespace ProbeWatch.Json

/-! ## Reading on -/

/-- The lexemes of a text that begins where a reader stands. -/
def Reader.read (reader : Reader) (text : List Char) : Option (List Lexeme) :=
  text.foldlM Reader.step? reader >>= Reader.finish?

theorem Reader.read_cons {reader next : Reader} {c : Char} (step : reader.step? c = some next)
    (text : List Char) : reader.read (c :: text) = next.read text := by
  rw [read, List.foldlM_cons, step]
  rfl

/-- Whether a numeral ends in front of a text. -/
def Stops (text : List Char) : Prop :=
  ∀ c ∈ text.head?, Text.isDigit c = false ∧ c ≠ '.' ∧ c ≠ 'e' ∧ c ≠ 'E'

theorem stops_nil : Stops [] := by simp [Stops]

theorem stops_cons {c : Char} (stop : Text.isDigit c = false ∧ c ≠ '.' ∧ c ≠ 'e' ∧ c ≠ 'E')
    (text : List Char) : Stops (c :: text) := by
  intro first found
  cases found
  exact stop

/-- A text spells lexemes if the reader finds them in front of any text that ends a numeral. -/
def Spells (text : List Char) (lexemes : List Lexeme) : Prop :=
  ∀ found rest, Stops rest →
    Reader.read ⟨.between, found⟩ (text ++ rest) =
      Reader.read ⟨.between, lexemes.reverse ++ found⟩ rest

theorem Spells.nil : Spells [] [] := fun _ _ _ => rfl

theorem Spells.append {first second : List Char} {lexemes more : List Lexeme}
    (former : Spells first lexemes) (latter : Spells second more)
    (stops : ∀ rest, Stops rest → Stops (second ++ rest)) :
    Spells (first ++ second) (lexemes ++ more) := by
  intro found rest ends
  rw [List.append_assoc, former found (second ++ rest) (stops rest ends), latter _ rest ends,
    List.reverse_append, List.append_assoc]

/-- A character that opens and ends a lexeme at once needs no care about what follows. -/
theorem Spells.cons {c : Char} {lexeme : Lexeme} {text : List Char} {lexemes : List Lexeme}
    (opens : ∀ found, Reader.open? c found = some (Reader.emit lexeme found))
    (latter : Spells text lexemes) : Spells (c :: text) (lexeme :: lexemes) := by
  intro found rest ends
  have step : Reader.step? ⟨.between, found⟩ c = some (Reader.emit lexeme found) := opens found
  rw [List.cons_append, Reader.read_cons step, Reader.emit, latter _ rest ends,
    List.reverse_cons, List.append_assoc]
  rfl

theorem Spells.space {c : Char} (blank : Reader.isSpace c = true) {text : List Char}
    {lexemes : List Lexeme} (latter : Spells text lexemes) : Spells (c :: text) lexemes := by
  intro found rest ends
  have opens : Reader.step? ⟨.between, found⟩ c = some ⟨.between, found⟩ := by
    simp [Reader.step?, Reader.open?, blank]
  rw [List.cons_append, Reader.read_cons opens, latter _ rest ends]

theorem Spells.lexemes? {text : List Char} {lexemes : List Lexeme} (spells : Spells text lexemes) :
    Json.lexemes? text = some lexemes := by
  have whole := spells [] [] stops_nil
  rw [List.append_nil, List.append_nil] at whole
  have ended : Reader.read ⟨.between, lexemes.reverse⟩ [] = some lexemes.reverse.reverse := rfl
  rw [List.reverse_reverse] at ended
  exact whole.trans ended

/-! ## Words -/

theorem spells_null : Spells ['n', 'u', 'l', 'l'] [.null] := fun _ _ _ => rfl

theorem spells_true : Spells ['t', 'r', 'u', 'e'] [.bool true] := fun _ _ _ => rfl

theorem spells_false : Spells ['f', 'a', 'l', 's', 'e'] [.bool false] := fun _ _ _ => rfl

/-! ## Strings -/

/-- The piece that the printers write for a character. -/
def pieceOf (c : Char) : Piece :=
  if c = '\x08' ∨ c = '\x0c' ∨ c = '\n' ∨ c = '\r' ∨ c = '\t' then .char c
  else if c.toNat < 32 then .unit c.toNat
  else .char c

/-- The pieces that the printers write for a text. -/
def piecesOf (text : String) : List Piece := text.toList.map pieceOf

theorem hexDigits_of_lt : ∀ code < 32,
    Text.isHexDigit (Text.lowerHexDigit (code / 16)) = true ∧
      Text.isHexDigit (Text.lowerHexDigit (code % 16)) = true ∧
      Text.hexNumber? ['0', '0', Text.lowerHexDigit (code / 16), Text.lowerHexDigit (code % 16)] =
        some code := by
  decide

theorem read_escapeChar (c : Char) (pieces : List Piece) (found : List Lexeme) (rest : List Char) :
    Reader.read ⟨.text pieces, found⟩ (escapeChar c ++ rest) =
      Reader.read ⟨.text (pieceOf c :: pieces), found⟩ rest := by
  by_cases quote : c = '"'
  · subst quote
    rfl
  by_cases backslash : c = '\\'
  · subst backslash
    rfl
  by_cases short : c = '\x08' ∨ c = '\x0c' ∨ c = '\n' ∨ c = '\r' ∨ c = '\t'
  · rcases short with rfl | rfl | rfl | rfl | rfl <;> rfl
  have escaped : escapeChar c = if c.toNat < 32 then
      ['\\', 'u', '0', '0', Text.lowerHexDigit (c.toNat / 16), Text.lowerHexDigit (c.toNat % 16)]
      else [c] := by
    simp_all [escapeChar]
  rw [escaped, pieceOf, if_neg short]
  by_cases control : c.toNat < 32
  · obtain ⟨high, low, number⟩ := hexDigits_of_lt c.toNat control
    rw [if_pos control, if_pos control]
    have backslashed : Reader.step? ⟨.text pieces, found⟩ '\\' = some ⟨.escape pieces, found⟩ := rfl
    have named : Reader.step? ⟨.escape pieces, found⟩ 'u' = some ⟨.unit [] pieces, found⟩ := rfl
    have first : Reader.step? ⟨.unit [] pieces, found⟩ '0' =
        some ⟨.unit ['0'] pieces, found⟩ := rfl
    have second : Reader.step? ⟨.unit ['0'] pieces, found⟩ '0' =
        some ⟨.unit ['0', '0'] pieces, found⟩ := rfl
    have third : Reader.step? ⟨.unit ['0', '0'] pieces, found⟩
          (Text.lowerHexDigit (c.toNat / 16)) =
        some ⟨.unit ['0', '0', Text.lowerHexDigit (c.toNat / 16)] pieces, found⟩ := by
      simp [Reader.step?, high]
    have fourth : Reader.step?
          ⟨.unit ['0', '0', Text.lowerHexDigit (c.toNat / 16)] pieces, found⟩
          (Text.lowerHexDigit (c.toNat % 16)) =
        some ⟨.text (.unit c.toNat :: pieces), found⟩ := by
      simp [Reader.step?, low, number]
    exact (Reader.read_cons backslashed _).trans <| (Reader.read_cons named _).trans <|
      (Reader.read_cons first _).trans <| (Reader.read_cons second _).trans <|
        (Reader.read_cons third _).trans (Reader.read_cons fourth rest)
  · rw [if_neg control, if_neg control]
    refine Reader.read_cons ?_ rest
    simp [Reader.step?, quote, backslash, control]

theorem read_escaped (text : List Char) (pieces : List Piece) (found : List Lexeme)
    (rest : List Char) :
    Reader.read ⟨.text pieces, found⟩ (text.flatMap escapeChar ++ rest) =
      Reader.read ⟨.text ((text.map pieceOf).reverse ++ pieces), found⟩ rest := by
  induction text generalizing pieces with
  | nil => rfl
  | cons c text ih =>
      rw [List.flatMap_cons, List.append_assoc, read_escapeChar, ih, List.map_cons,
        List.reverse_cons, List.append_assoc]
      rfl

/-- A quoted text is one lexeme, whatever follows. -/
theorem spells_quoted (text : String) : Spells (quoted text.toList) [.text (piecesOf text)] := by
  intro found rest _
  have opened : Reader.step? ⟨.between, found⟩ '"' = some ⟨.text [], found⟩ := rfl
  have closed : ∀ pieces, Reader.step? ⟨.text pieces, found⟩ '"' =
      some (Reader.emit (.text pieces.reverse) found) := fun _ => rfl
  rw [quoted, List.cons_append, Reader.read_cons opened, List.append_assoc, read_escaped,
    List.append_nil, List.cons_append, Reader.read_cons (closed _), List.reverse_reverse]
  rfl

theorem piecesText?_unit_of_lt {code : Nat} (low : code < 32) (rest : List Piece) :
    piecesText? (.unit code :: rest) = (piecesText? rest).map (Char.ofNat code :: ·) := by
  have below : ¬ 0xD800 ≤ code := by omega
  have below' : ¬ 0xDC00 ≤ code := by omega
  cases rest with
  | nil => simp [piecesText?, below]
  | cons piece rest => cases piece <;> simp [piecesText?, below, below']

theorem piecesText?_map_pieceOf (text : List Char) :
    piecesText? (text.map pieceOf) = some text := by
  induction text with
  | nil => rfl
  | cons c text ih =>
      rw [List.map_cons, pieceOf]
      split
      · rw [piecesText?, ih]
        rfl
      split
      · rename_i control
        rw [piecesText?_unit_of_lt control, ih, Char.ofNat_toNat]
        rfl
      · rw [piecesText?, ih]
        rfl

theorem piecesText?_piecesOf (text : String) : piecesText? (piecesOf text) = some text.toList := by
  rw [piecesOf, piecesText?_map_pieceOf]

/-! ## Integers -/

/-- The numeral that the printers write for an integer. -/
def numeralOf (value : Int) : Numeral :=
  ⟨decide (value < 0), Nat.toDigits 10 value.natAbs, [], none⟩

theorem toList_render (value : Int) :
    (Number.integer value).render.toList =
      (if value < 0 then ['-'] else []) ++ Nat.toDigits 10 value.natAbs := by
  rw [Number.render, Int.toString_eq_repr, Int.repr_eq_if]
  by_cases negative : value < 0
  · rw [if_neg (by omega), if_pos negative, String.toList_append, Nat.toList_repr]
    have magnitude : (-value).toNat = value.natAbs := by omega
    rw [magnitude]
    rfl
  · rw [if_pos (by omega), if_neg negative, Nat.toList_repr, List.nil_append]
    have magnitude : value.toNat = value.natAbs := by omega
    rw [magnitude]

theorem isDigit_of_mem_toDigits {n : Nat} {c : Char} (found : c ∈ Nat.toDigits 10 n) :
    Text.isDigit c = true := by
  have digit := Nat.isDigit_of_mem_toDigits (by decide) (by decide) found
  simpa [Text.isDigit, Char.isDigit, Char.le_def, UInt32.le_iff_toNat_le] using digit

theorem exists_toDigits {n : Nat} (positive : 0 < n) :
    ∃ first rest, Nat.toDigits 10 n = first :: rest ∧ first ≠ '0' := by
  induction n using Nat.strongRecOn with
  | _ n ih =>
      by_cases small : n < 10
      · refine ⟨n.digitChar, [], Nat.toDigits_of_lt_base small, ?_⟩
        have bounded : ∀ digit < 10, 0 < digit → Nat.digitChar digit ≠ '0' := by decide
        exact bounded n small positive
      · obtain ⟨first, rest, digits, nonzero⟩ := ih (n / 10) (by omega) (by omega)
        exact ⟨first, rest ++ [Nat.digitChar (n % 10)], by
          rw [Nat.toDigits_of_base_le (by decide) (by omega), digits]
          rfl, nonzero⟩

theorem open?_digit {c : Char} (digit : Text.isDigit c = true) (nonzero : c ≠ '0')
    (found : List Lexeme) :
    Reader.open? c found = some ⟨.numeral .whole ⟨false, [c], [], none⟩, found⟩ := by
  have other : ∀ d, Text.isDigit d = false → c ≠ d := by
    intro d no same
    rw [← same, digit] at no
    cases no
  simp [Reader.open?, Reader.isSpace, digit, nonzero, other ' ' rfl, other '\t' rfl, other '\n' rfl,
    other '\r' rfl, other '\x7b' rfl, other '\x7d' rfl, other '[' rfl, other ']' rfl,
    other ',' rfl, other ':' rfl, other 'n' rfl, other 't' rfl, other 'f' rfl, other '"' rfl,
    other '-' rfl]

theorem read_digits {digits : List Char} (all : ∀ c ∈ digits, Text.isDigit c = true)
    (held : Numeral) (found : List Lexeme) (rest : List Char) :
    Reader.read ⟨.numeral .whole held, found⟩ (digits ++ rest) =
      Reader.read ⟨.numeral .whole { held with whole := digits.reverse ++ held.whole }, found⟩
        rest := by
  induction digits generalizing held with
  | nil => rfl
  | cons c digits ih =>
      have step : Reader.step? ⟨.numeral .whole held, found⟩ c =
          some ⟨.numeral .whole { held with whole := c :: held.whole }, found⟩ := by
        simp [Reader.step?, Reader.continue?, all c (by simp)]
      rw [List.cons_append, Reader.read_cons step,
        ih (fun d later => all d (List.mem_cons_of_mem _ later)), List.reverse_cons,
        List.append_assoc]
      rfl

/-- A numeral without point and exponent ends in front of what cannot go on with it. -/
theorem read_numeral_end {part : NumeralPart} (ends : part = .zero ∨ part = .whole)
    (held : Numeral) (found : List Lexeme) {rest : List Char} (stops : Stops rest) :
    Reader.read ⟨.numeral part held, found⟩ rest =
      Reader.read ⟨.between, Reader.numeralLexeme held :: found⟩ rest := by
  cases rest with
  | nil => rcases ends with rfl | rfl <;> rfl
  | cons c rest =>
      obtain ⟨digit, point, mark, mark'⟩ := stops c rfl
      have refused : Reader.continue? part held c = none := by
        rcases ends with rfl | rfl <;> simp [Reader.continue?, digit, point, mark, mark']
      have complete : part.isComplete = true := by rcases ends with rfl | rfl <;> rfl
      have step : Reader.step? ⟨.numeral part held, found⟩ c =
          Reader.step? ⟨.between, Reader.numeralLexeme held :: found⟩ c := by
        simp [Reader.step?, refused, complete]
      rw [Reader.read, Reader.read, List.foldlM_cons, List.foldlM_cons, step]

theorem spells_integer (value : Int) :
    Spells (Number.integer value).render.toList [.numeral (numeralOf value)] := by
  intro found rest stops
  rw [toList_render]
  by_cases zero : value = 0
  · subst zero
    have opened : Reader.step? ⟨.between, found⟩ '0' =
        some ⟨.numeral .zero ⟨false, ['0'], [], none⟩, found⟩ := rfl
    refine (Reader.read_cons opened rest).trans ?_
    exact read_numeral_end (.inl rfl) _ found stops
  · obtain ⟨first, digits, split, nonzero⟩ := exists_toDigits (n := value.natAbs) (by omega)
    have all : ∀ c ∈ first :: digits, Text.isDigit c = true := by
      rw [← split]
      exact fun c found => isDigit_of_mem_toDigits found
    have others := fun c later => all c (List.mem_cons_of_mem _ later)
    rw [numeralOf, split]
    by_cases negative : value < 0
    · have opened : Reader.step? ⟨.between, found⟩ '-' =
          some ⟨.numeral .sign ⟨true, [], [], none⟩, found⟩ := rfl
      have begun : Reader.step? ⟨.numeral .sign ⟨true, [], [], none⟩, found⟩ first =
          some ⟨.numeral .whole ⟨true, [first], [], none⟩, found⟩ := by
        simp [Reader.step?, Reader.continue?, nonzero, all first (by simp)]
      rw [if_pos negative, List.append_assoc]
      refine (Reader.read_cons opened _).trans ((Reader.read_cons begun _).trans ?_)
      refine (read_digits others _ found rest).trans ?_
      rw [read_numeral_end (.inr rfl) _ found stops]
      simp [Reader.numeralLexeme, negative]
    · have opened : Reader.step? ⟨.between, found⟩ first =
          some ⟨.numeral .whole ⟨false, [first], [], none⟩, found⟩ :=
        open?_digit (all first (by simp)) nonzero found
      rw [if_neg negative, List.nil_append]
      refine (Reader.read_cons opened _).trans ((read_digits others _ found rest).trans ?_)
      rw [read_numeral_end (.inr rfl) _ found stops]
      simp [Reader.numeralLexeme, negative]

theorem gather_cons (limit total : Nat) (digit : Char) (rest : List Char) :
    Numeral.gather limit total (digit :: rest) =
      if limit < total * 10 + (digit.toNat - '0'.toNat) then (total, digit :: rest)
      else Numeral.gather limit (total * 10 + (digit.toNat - '0'.toNat)) rest := rfl

theorem le_ofDigitChars (digits : List Char) (total : Nat) :
    total ≤ Nat.ofDigitChars 10 digits total := by
  rw [Nat.ofDigitChars_eq_ofDigitChars_zero]
  have positive : 0 < 10 ^ digits.length := Nat.pow_pos (by decide)
  have scaled := Nat.le_mul_of_pos_left total positive
  omega

theorem gather_of_le {limit : Nat} (digits : List Char) (total : Nat)
    (le : Nat.ofDigitChars 10 digits total ≤ limit) :
    Numeral.gather limit total digits = (Nat.ofDigitChars 10 digits total, []) := by
  induction digits generalizing total with
  | nil => rfl
  | cons digit rest ih =>
      rw [Nat.ofDigitChars_cons, Nat.mul_comm] at le ⊢
      have here := le_ofDigitChars rest (total * 10 + (digit.toNat - '0'.toNat))
      rw [gather_cons, if_neg (by omega), ih _ le]

/-- Whether an integer is one of a signed or of an unsigned word. -/
def IsWord (value : Int) : Prop := -int64Bound ≤ value ∧ value < UInt64.size

instance (value : Int) : Decidable (IsWord value) := inferInstanceAs (Decidable (_ ∧ _))

/-- The numeral of an integer denotes the integer. -/
theorem number?_numeralOf {value : Int} (word : IsWord value) :
    (numeralOf value).number? = some (.integer value) := by
  obtain ⟨lower, upper⟩ := word
  rw [int64Bound] at lower
  rw [UInt64.size] at upper
  have gathered : Numeral.gather Numeral.wordMax 0 (Nat.toDigits 10 value.natAbs) =
      (value.natAbs, []) := by
    have number := Nat.ofDigitChars_ten_toDigits (n := value.natAbs)
    have bounded : value.natAbs ≤ Numeral.wordMax := by
      rw [Numeral.wordMax, UInt64.size]
      omega
    rw [gather_of_le _ 0 (number.symm ▸ bounded), number]
  have nothing : Numeral.gather Numeral.wordMax value.natAbs [] = (value.natAbs, []) := rfl
  have parts : (numeralOf value).significand = (value.natAbs, 0) := by
    simp only [Numeral.significand, numeralOf, gathered, nothing]
    rfl
  rw [Numeral.number?, parts]
  by_cases negative : value < 0
  · have signed : (numeralOf value).negative = true := decide_eq_true negative
    have nonzero : (value.natAbs != 0) = true := bne_iff_ne.mpr (by omega)
    have least : decide (value.natAbs ≤ 9223372036854775808) = true := decide_eq_true (by omega)
    have magnitude : -(value.natAbs : Int) = value := by omega
    simp only [signed, nonzero, least, magnitude, Bool.and_self, Bool.not_true,
      Bool.false_eq_true, if_false, if_true]
    rfl
  · have signed : (numeralOf value).negative = false := decide_eq_false negative
    have magnitude : (value.natAbs : Int) = value := by omega
    simp only [signed, magnitude, Bool.not_false, if_true]
    rfl

end ProbeWatch.Json
