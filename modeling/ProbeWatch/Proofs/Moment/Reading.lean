import Mathlib.Data.List.TakeWhile
import ProbeWatch.Moment.Reader
import ProbeWatch.Proofs.Moment.Calendar
import ProbeWatch.Proofs.Text.Digits

/-!
# Moments that are read back

Every moment that a clock can show is read from its own text, and every moment that is read is one
that a clock can show.  Each part of the text is a number of fixed width in front of a character that
is no digit, so it is read alone.
-/

namespace ProbeWatch

open Text (isBlank isDigit trimStart decimalValue)

/-! ## Numbers of fixed width -/

/-- Whether no number goes on at the start of a text. -/
def EndsNumber (text : List Char) : Prop := ∀ c ∈ text.head?, isDigit c = false

theorem endsNumber_cons {c : Char} (other : isDigit c = false) (text : List Char) :
    EndsNumber (c :: text) := by
  intro first found
  cases found
  exact other

theorem toList_padded (width value : Nat) :
    (Duration.padded width value).toList =
      List.replicate (width - (Nat.toDigits 10 value).length) '0' ++ Nat.toDigits 10 value := by
  have digits : (toString value).toList = Nat.toDigits 10 value := Nat.toList_repr
  rw [Duration.padded, String.toList_ofList, digits]

theorem denotes_padded (width value : Nat) :
    Denotes (Duration.padded width value).toList value := by
  rw [toList_padded]
  refine ⟨?_, fun c found => ?_, ?_⟩
  · exact List.append_ne_nil_of_right_ne_nil _ (Nat.toDigits_ne_nil)
  · rcases List.mem_append.mp found with zero | digit
    · rw [List.eq_of_mem_replicate zero]
      rfl
    · have digit := Nat.isDigit_of_mem_toDigits (by decide) (by decide) digit
      simpa [isDigit, Char.isDigit, Char.le_def, UInt32.le_iff_toNat_le] using digit
  · rw [decimalValue_eq, Nat.ofDigitChars_append, Nat.ofDigitChars_replicate_zero]
    simp

theorem length_padded {width value : Nat} (fits : value < 10 ^ width) (wide : 0 < width) :
    (Duration.padded width value).toList.length = width := by
  have short := (Nat.length_toDigits_le_iff (by decide) wide).mpr fits
  rw [toList_padded, List.length_append, List.length_replicate]
  omega

theorem isBlank_of_isDigit {c : Char} (digit : isDigit c = true) : isBlank c = false := by
  simp only [isDigit, Bool.and_eq_true, decide_eq_true_eq, Char.le_def,
    UInt32.le_iff_toNat_le] at digit
  have lower : 48 ≤ c.toNat := digit.1
  have upper : c.toNat ≤ 57 := digit.2
  simp only [isBlank, Bool.or_eq_false_iff, Bool.and_eq_false_iff, decide_eq_false_iff_not,
    beq_eq_false_iff_ne]
  omega

section

variable {digits : List Char} {value : Nat}

theorem Denotes.trimStart_append (denotes : Denotes digits value) (rest : List Char) :
    trimStart (digits ++ rest) = digits ++ rest := by
  cases digits with
  | nil => exact absurd rfl denotes.nonempty
  | cons c digits =>
      have solid := isBlank_of_isDigit (denotes.digit c List.mem_cons_self)
      rw [trimStart, List.cons_append, List.dropWhile_cons, solid]
      rfl

theorem Denotes.takeWhile_append (denotes : Denotes digits value) {rest : List Char}
    (ends : EndsNumber rest) : (digits ++ rest).takeWhile isDigit = digits := by
  have stopped : rest.takeWhile isDigit = [] := by
    cases rest with
    | nil => rfl
    | cons c rest => rw [List.takeWhile_cons, ends c rfl]; rfl
  rw [List.takeWhile_append_of_pos denotes.digit, stopped, List.append_nil]

end

namespace Moment

/-! ## Parts of a text -/

section

variable {digits : List Char} {value : Nat}

theorem readNumber?_append (denotes : Denotes digits value) {width : Nat}
    (narrow : digits.length ≤ width) {rest : List Char} (ends : EndsNumber rest) :
    readNumber? width (digits ++ rest) = some (value, rest) := by
  have nonempty : digits.isEmpty = false := List.isEmpty_eq_false_iff.mpr denotes.nonempty
  simp only [readNumber?, denotes.trimStart_append, denotes.takeWhile_append ends,
    List.take_of_length_le narrow, nonempty, denotes.value_eq, List.drop_left, Bool.false_eq_true,
    if_false]

theorem readNumber?_padded {value : Nat} (fits : value < 100) {rest : List Char}
    (ends : EndsNumber rest) :
    readNumber? 2 ((Duration.padded 2 value).toList ++ rest) = some (value, rest) :=
  readNumber?_append (denotes_padded 2 value)
    (Nat.le_of_eq (length_padded fits (by decide))) ends

theorem readMark?_cons {mark : Char} (solid : isBlank mark = false) (rest : List Char) :
    readMark? mark (mark :: rest) = some rest := by
  simp [readMark?, trimStart, solid]

theorem readFraction?_cons (denotes : Denotes digits value) (narrow : digits.length ≤ 9)
    {rest : List Char} (ends : EndsNumber rest) :
    readFraction? ('.' :: (digits ++ rest)) = some (value * 10 ^ (9 - digits.length), rest) := by
  have nonempty : digits.isEmpty = false := List.isEmpty_eq_false_iff.mpr denotes.nonempty
  simp only [readFraction?, denotes.takeWhile_append ends, List.take_of_length_le narrow, nonempty,
    denotes.value_eq, List.drop_left, Bool.false_eq_true, if_false]
  rfl

end

theorem readFraction?_fractionText {nanos : Nat} (below : nanos < 1000000000) :
    readFraction? ((fractionText nanos).toList ++ ['Z']) = some (nanos, ['Z']) := by
  have ends : EndsNumber ['Z'] := endsNumber_cons rfl []
  have read {width value : Nat} (fits : value < 10 ^ width) (wide : 0 < width) (narrow : width ≤ 9) :
      readFraction? (("." ++ Duration.padded width value).toList ++ ['Z']) =
        some (value * 10 ^ (9 - width), ['Z']) := by
    have length := length_padded fits wide
    have fraction := readFraction?_cons (denotes_padded width value) (length.trans_le narrow) ends
    rw [length] at fraction
    rw [String.toList_append]
    exact fraction
  rw [fractionText]
  split
  · rename_i none
    rw [eq_of_beq none]
    rfl
  split
  · rename_i millis
    have whole := eq_of_beq millis
    rw [read (by omega) (by decide) (by decide)]
    congr 2
    omega
  split
  · rename_i micros
    have whole := eq_of_beq micros
    rw [read (by omega) (by decide) (by decide)]
    congr 2
    omega
  · rw [read (by omega) (by decide) (by decide)]
    congr 2
    omega

theorem readYear?_signed (sign : Char) (isSign : sign = '-' ∨ sign = '+') {digits : List Char}
    {value : Nat} (denotes : Denotes digits value) {rest : List Char} (ends : EndsNumber rest) :
    readYear? (sign :: (digits ++ rest)) =
      some (if sign = '-' then -(value : Int) else value, rest) := by
  have nonempty : digits.isEmpty = false := List.isEmpty_eq_false_iff.mpr denotes.nonempty
  have solid : isBlank sign = false := by rcases isSign with rfl | rfl <;> rfl
  have start : trimStart (sign :: (digits ++ rest)) = sign :: (digits ++ rest) := by
    simp [trimStart, solid]
  rw [readYear?, start]
  rcases isSign with rfl | rfl <;>
    simp [denotes.takeWhile_append ends, nonempty, denotes.value_eq]

theorem readYear?_plain {digits : List Char} {value : Nat} (denotes : Denotes digits value)
    (narrow : digits.length ≤ 4) {rest : List Char} (ends : EndsNumber rest) :
    readYear? (digits ++ rest) = some ((value : Int), rest) := by
  have number := readNumber?_append denotes narrow ends
  rw [readYear?, denotes.trimStart_append]
  split
  · rename_i signed
    cases digits with
    | nil => exact absurd rfl denotes.nonempty
    | cons c digits =>
        cases signed
        cases denotes.digit '-' List.mem_cons_self
  · rename_i signed
    cases digits with
    | nil => exact absurd rfl denotes.nonempty
    | cons c digits =>
        cases signed
        cases denotes.digit '+' List.mem_cons_self
  · rw [number]
    rfl

/-! ## Whole moments -/

/-- Whether a clock can show a moment: in a year that moments can have, and with a leap second only
at the end of a minute. -/
structure IsValid (moment : Moment) : Prop where
  inRange : moment.isInRange = true
  nanos_lt : moment.nanos < 2000000000
  leap : 1000000000 ≤ moment.nanos → moment.seconds % 60 = 59

/-- The text of a year: four digits, or a sign and at least as many. -/
def yearText (year : Int) : String :=
  if 0 ≤ year ∧ year ≤ 9999 then Duration.padded 4 year.toNat
  else (if year < 0 then "-" else "+") ++ Duration.padded 4 year.natAbs

theorem readYear?_yearText (year : Int) {rest : List Char} (ends : EndsNumber rest) :
    readYear? ((yearText year).toList ++ rest) = some (year, rest) := by
  rw [yearText]
  split
  · rename_i plain
    have length : (Duration.padded 4 year.toNat).toList.length = 4 :=
      length_padded (by omega) (by decide)
    have value : (year.toNat : Int) = year := by omega
    rw [readYear?_plain (denotes_padded 4 _) (Nat.le_of_eq length) ends, value]
  · have signed := denotes_padded 4 year.natAbs
    rw [String.toList_append]
    split
    · have value : -(year.natAbs : Int) = year := by omega
      refine (readYear?_signed '-' (.inl rfl) signed ends).trans ?_
      rw [if_pos rfl, value]
    · have value : (year.natAbs : Int) = year := by omega
      refine (readYear?_signed '+' (.inr rfl) signed ends).trans ?_
      rw [if_neg (by decide), value]

theorem toList_render (date : CivilDate) :
    date.render.toList = (yearText date.year).toList ++
      '-' :: ((Duration.padded 2 date.month).toList ++
        '-' :: (Duration.padded 2 date.day).toList) := by
  have split (year : String) :
      (year ++ "-" ++ Duration.padded 2 date.month ++ "-" ++ Duration.padded 2 date.day).toList =
        year.toList ++ '-' :: ((Duration.padded 2 date.month).toList ++
          '-' :: (Duration.padded 2 date.day).toList) := by
    simp [String.toList_append]
  exact split (yearText date.year)

/-- The seconds that a clock shows: a leap second counts as the sixtieth. -/
def shownSecond (moment : Moment) : Nat :=
  (moment.seconds % secondsPerDay).toNat % 60 + if 1000000000 ≤ moment.nanos then 1 else 0

/-- The nanoseconds that a clock shows. -/
def shownNanos (moment : Moment) : Nat :=
  if 1000000000 ≤ moment.nanos then moment.nanos - 1000000000 else moment.nanos

theorem toList_zuluText (moment : Moment) :
    moment.zuluText.toList =
      (yearText moment.date.year).toList ++
        '-' :: ((Duration.padded 2 moment.date.month).toList ++
          '-' :: ((Duration.padded 2 moment.date.day).toList ++
            'T' :: ((Duration.padded 2 ((moment.seconds % secondsPerDay).toNat / 3600)).toList ++
              ':' :: ((Duration.padded 2 ((moment.seconds % secondsPerDay).toNat / 60 % 60)).toList ++
                ':' :: ((Duration.padded 2 moment.shownSecond).toList ++
                  ((fractionText moment.shownNanos).toList ++ ['Z'])))))) := by
  have split (leap nanos : Nat) :
      (moment.date.render ++ "T" ++
          Duration.padded 2 ((moment.seconds % secondsPerDay).toNat / 3600) ++ ":" ++
          Duration.padded 2 ((moment.seconds % secondsPerDay).toNat / 60 % 60) ++ ":" ++
          Duration.padded 2 ((moment.seconds % secondsPerDay).toNat % 60 + leap) ++
          fractionText nanos ++ "Z").toList =
        moment.date.render.toList ++
          'T' :: ((Duration.padded 2 ((moment.seconds % secondsPerDay).toNat / 3600)).toList ++
            ':' :: ((Duration.padded 2 ((moment.seconds % secondsPerDay).toNat / 60 % 60)).toList ++
              ':' :: ((Duration.padded 2
                  ((moment.seconds % secondsPerDay).toNat % 60 + leap)).toList ++
                ((fractionText nanos).toList ++ ['Z'])))) := by
    simp [String.toList_append]
  rw [zuluText, localText, shownSecond, shownNanos]
  by_cases leap : 1000000000 ≤ moment.nanos
  · simp only [if_pos leap, split, toList_render, List.append_assoc, List.cons_append]
  · simp only [if_neg leap, split, toList_render, List.append_assoc, List.cons_append]

theorem IsValid.shown {moment : Moment} (valid : moment.IsValid) :
    moment.shownSecond ≤ 60 ∧ moment.shownNanos < 1000000000 ∧
      (moment.shownSecond = 60 ↔ 1000000000 ≤ moment.nanos) := by
  obtain ⟨-, nanos_lt, leap⟩ := valid
  rw [shownSecond, shownNanos, secondsPerDay]
  split
  · have last := leap ‹_›
    omega
  · omega

theorem endsNumber_fractionText (nanos : Nat) :
    EndsNumber ((fractionText nanos).toList ++ ['Z']) := by
  have point (digits : String) : EndsNumber (("." ++ digits).toList ++ ['Z']) := by
    rw [String.toList_append]
    exact endsNumber_cons rfl _
  rw [fractionText]
  split
  · exact endsNumber_cons rfl _
  split
  · exact point _
  split
  · exact point _
  · exact point _

theorem readSeparator?_cons (rest : List Char) : readSeparator? ('T' :: rest) = some rest := rfl

theorem readZone?_zulu : readZone? ['Z'] = some (0, []) := rfl

theorem secondOfDay_lt (moment : Moment) :
    (moment.seconds % secondsPerDay).toNat < 86400 := by
  rw [secondsPerDay]
  omega

theorem ofParts?_shown {moment : Moment} (valid : moment.IsValid) :
    ofParts? moment.date ((moment.seconds % secondsPerDay).toNat / 3600)
      ((moment.seconds % secondsPerDay).toNat / 60 % 60) moment.shownSecond moment.shownNanos 0 =
      some moment := by
  obtain ⟨second_le, nanos_lt, isLeap⟩ := valid.shown
  obtain ⟨⟨one_le, le_twelve⟩, day⟩ : moment.date.IsDay := CivilDate.isDay_ofDays _
  have days : moment.date.toDays = moment.seconds / secondsPerDay := CivilDate.toDays_ofDays _
  have inRange := valid.inRange
  simp only [isInRange, Bool.and_eq_true, decide_eq_true_eq] at inRange
  have isDate : isDate moment.date = true := by
    simp only [isDate, Bool.and_eq_true, decide_eq_true_eq]
    exact ⟨⟨⟨⟨inRange, one_le⟩, le_twelve⟩, day.1⟩, day.2⟩
  have isTime : (decide ((moment.seconds % secondsPerDay).toNat / 3600 ≤ 23) &&
      decide ((moment.seconds % secondsPerDay).toNat / 60 % 60 ≤ 59) &&
      decide (moment.shownSecond ≤ 60) && decide ((0 : Int).natAbs < 86400)) = true := by
    have clock := secondOfDay_lt moment
    simp only [Bool.and_eq_true, decide_eq_true_eq]
    exact ⟨⟨⟨by omega, by omega⟩, second_le⟩, by decide⟩
  have shown : moment.date.toDays * secondsPerDay +
      (((moment.seconds % secondsPerDay).toNat / 3600 : Nat) * 3600 +
        ((moment.seconds % secondsPerDay).toNat / 60 % 60 : Nat) * 60 +
        (if moment.shownSecond == 60 then 59 else moment.shownSecond : Nat)) - 0 = moment.seconds ∧
      (if moment.shownSecond == 60 then moment.shownNanos + 1000000000 else moment.shownNanos) =
        moment.nanos := by
    rw [days]
    by_cases long : 1000000000 ≤ moment.nanos
    · have last := valid.leap long
      have sixty : (moment.shownSecond == 60) = true := beq_iff_eq.mpr (isLeap.mpr long)
      simp only [sixty, if_true, shownNanos, if_pos long, secondsPerDay]
      omega
    · have other : (moment.shownSecond == 60) = false :=
        beq_eq_false_iff_ne.mpr fun sixty => long (isLeap.mp sixty)
      simp only [other, Bool.false_eq_true, if_false, shownNanos, if_neg long]
      simp only [shownSecond, if_neg long, secondsPerDay, and_true]
      omega
  rw [ofParts?, isDate, isTime, Bool.and_self, if_pos rfl]
  dsimp only
  rw [shown.1, shown.2]
  exact if_pos valid.inRange

/-- What is shown of a moment is a moment that is read, and it comes back to the moment. -/
theorem read?_zuluText {moment : Moment} (valid : moment.IsValid) :
    read? moment.zuluText = some moment := by
  obtain ⟨second_le, nanos_lt, -⟩ := valid.shown
  obtain ⟨month, day⟩ := CivilDate.isDay_ofDays (moment.seconds / secondsPerDay)
  change (1 ≤ moment.date.month ∧ moment.date.month ≤ 12) at month
  change (1 ≤ moment.date.day ∧ moment.date.day ≤
    CivilDate.daysInMonth moment.date.year moment.date.month) at day
  have short : CivilDate.daysInMonth moment.date.year moment.date.month ≤ 31 := by
    simp only [CivilDate.daysInMonth]
    split
    · split <;> omega
    · split <;> omega
  have clock := secondOfDay_lt moment
  have hyphen (rest : List Char) : EndsNumber ('-' :: rest) := endsNumber_cons rfl rest
  have colon (rest : List Char) : EndsNumber (':' :: rest) := endsNumber_cons rfl rest
  have letter (rest : List Char) : EndsNumber ('T' :: rest) := endsNumber_cons rfl rest
  have next {α β : Type} {first : Option α} {value : α} {rest : α → Option β}
      (found : first = some value) : (first >>= rest) = rest value := by
    rw [found]
    rfl
  rw [read?, toList_zuluText]
  refine (next (readYear?_yearText _ (hyphen _))).trans ?_
  refine (next (readMark?_cons rfl _)).trans ?_
  refine (next (readNumber?_padded (by omega) (hyphen _))).trans ?_
  refine (next (readMark?_cons rfl _)).trans ?_
  refine (next (readNumber?_padded (by omega) (letter _))).trans ?_
  refine (next (readSeparator?_cons _)).trans ?_
  refine (next (readNumber?_padded (by omega) (colon _))).trans ?_
  refine (next (readMark?_cons rfl _)).trans ?_
  refine (next (readNumber?_padded (by omega) (colon _))).trans ?_
  refine (next (readMark?_cons rfl _)).trans ?_
  refine (next (readNumber?_padded (by omega) (endsNumber_fractionText _))).trans ?_
  refine (next (readFraction?_fractionText nanos_lt)).trans ?_
  exact (next readZone?_zulu).trans (ofParts?_shown valid)

/-! ## What is read -/

theorem ofDigitChars_lt {digits : List Char} (digit : ∀ c ∈ digits, isDigit c = true) (start : Nat) :
    Nat.ofDigitChars 10 digits start < (start + 1) * 10 ^ digits.length := by
  induction digits generalizing start with
  | nil => simp
  | cons c digits ih =>
      have below : c.toNat - '0'.toNat < 10 := by
        have digit := digit c List.mem_cons_self
        simp only [isDigit, Bool.and_eq_true, decide_eq_true_eq, Char.le_def,
          UInt32.le_iff_toNat_le] at digit
        have upper : c.toNat ≤ 57 := digit.2
        have zero : '0'.toNat = 48 := rfl
        omega
      have rest := ih (fun c found => digit c (List.mem_cons_of_mem _ found))
        (10 * start + (c.toNat - '0'.toNat))
      rw [Nat.ofDigitChars_cons, List.length_cons, Nat.pow_succ]
      calc _ < (10 * start + (c.toNat - '0'.toNat) + 1) * 10 ^ digits.length := rest
        _ ≤ (10 * (start + 1)) * 10 ^ digits.length := Nat.mul_le_mul_right _ (by omega)
        _ = (start + 1) * (10 ^ digits.length * 10) := by
            rw [Nat.mul_comm 10, Nat.mul_assoc, Nat.mul_comm 10]

theorem decimalValue_lt {digits : List Char} (digit : ∀ c ∈ digits, isDigit c = true) :
    decimalValue digits < 10 ^ digits.length := by
  have below := ofDigitChars_lt digit 0
  rwa [← decimalValue_eq, Nat.zero_add, Nat.one_mul] at below

theorem nanos_lt_of_readFraction? {text rest : List Char} {nanos : Nat}
    (read : readFraction? text = some (nanos, rest)) : nanos < 1000000000 := by
  rw [readFraction?.eq_def] at read
  split at read
  · dsimp only at read
    split at read
    · cases read
    · rename_i tail _
      cases read
      have digit : ∀ c ∈ (tail.takeWhile isDigit).take 9, isDigit c = true := fun c found =>
        List.mem_takeWhile_imp (List.mem_of_mem_take found)
      have narrow : ((tail.takeWhile isDigit).take 9).length ≤ 9 := List.length_take_le _ _
      have below := decimalValue_lt digit
      generalize (tail.takeWhile isDigit).take 9 = kept at narrow below
      calc decimalValue kept * 10 ^ (9 - kept.length)
          < 10 ^ kept.length * 10 ^ (9 - kept.length) :=
            Nat.mul_lt_mul_of_pos_right below (Nat.pow_pos (by decide))
        _ = 10 ^ 9 := by rw [← Nat.pow_add, Nat.add_sub_cancel' narrow]
        _ = 1000000000 := by decide
  · cases read
    decide

theorem offset_of_readZone? {text rest : List Char} {offset : Int}
    (read : readZone? text = some (offset, rest)) : offset % 60 = 0 := by
  rw [readZone?] at read
  split at read
  · cases read
    rfl
  · cases read
    rfl
  · split at read
    · cases read
      rfl
    · simp only [Option.bind_eq_bind, Option.bind_eq_some_iff, Prod.exists] at read
      obtain ⟨negative, digits, -, read⟩ := read
      split at read
      · rename_i tens units rest
        split at read
        · split at read
          · rename_i minuteTens minuteUnits rest
            split at read
            · cases read
              split <;> omega
            · cases read
          · cases read
        · cases read
      · cases read

theorem isValid_of_ofParts? {date : CivilDate} {hour minute second nanos : Nat} {offset : Int}
    {moment : Moment} (short : nanos < 1000000000) (minutes : offset % 60 = 0)
    (made : ofParts? date hour minute second nanos offset = some moment) : moment.IsValid := by
  simp only [ofParts?, Option.ite_none_right_eq_some, Option.some.injEq] at made
  obtain ⟨-, inRange, rfl⟩ := made
  refine ⟨inRange, ?_, fun long => ?_⟩
  · dsimp only
    split <;> omega
  · dsimp only at long ⊢
    split at long
    · rename_i sixty
      rw [if_pos sixty, secondsPerDay]
      omega
    · omega

/-- Every moment that is read is one that a clock can show. -/
theorem isValid_of_read? {text : String} {moment : Moment} (read : read? text = some moment) :
    moment.IsValid := by
  rw [read?] at read
  obtain ⟨⟨year, text⟩, -, read⟩ := Option.bind_eq_some_iff.mp read
  obtain ⟨text, -, read⟩ := Option.bind_eq_some_iff.mp read
  obtain ⟨⟨month, text⟩, -, read⟩ := Option.bind_eq_some_iff.mp read
  obtain ⟨text, -, read⟩ := Option.bind_eq_some_iff.mp read
  obtain ⟨⟨day, text⟩, -, read⟩ := Option.bind_eq_some_iff.mp read
  obtain ⟨text, -, read⟩ := Option.bind_eq_some_iff.mp read
  obtain ⟨⟨hour, text⟩, -, read⟩ := Option.bind_eq_some_iff.mp read
  obtain ⟨text, -, read⟩ := Option.bind_eq_some_iff.mp read
  obtain ⟨⟨minute, text⟩, -, read⟩ := Option.bind_eq_some_iff.mp read
  obtain ⟨text, -, read⟩ := Option.bind_eq_some_iff.mp read
  obtain ⟨⟨second, text⟩, -, read⟩ := Option.bind_eq_some_iff.mp read
  obtain ⟨⟨nanos, text⟩, fraction, read⟩ := Option.bind_eq_some_iff.mp read
  obtain ⟨⟨offset, text⟩, zone, read⟩ := Option.bind_eq_some_iff.mp read
  obtain ⟨-, made⟩ := Option.ite_none_right_eq_some.mp read
  exact isValid_of_ofParts? (nanos_lt_of_readFraction? fraction) (offset_of_readZone? zone) made

end Moment
end ProbeWatch
