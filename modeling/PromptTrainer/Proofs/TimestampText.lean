import PromptTrainer.Proofs.Calendar
/-!
# Timestamps read back from their text

`Timestamp.text` writes an instant as RFC 3339 text in UTC, and `Timestamp.ofText` reads such
text.  This module shows that reading the text of a valid instant gives the instant back
(`Timestamp.ofText_text`).  An instant is valid (`Timestamp.Valid`) when its day lies in the
range of dates the reader accepts and its nanoseconds exceed a billion only on the last second
of a minute, where the text writes the leap second `60`.

The text is read piece by piece.  Each number of the text is written with at least as many
digits as its field needs and stops at a character that is no digit, so each reader takes
exactly the digits written (`Timestamp.number_digits`); the year's sign and width, the
fraction's three, six or nine digits and the offset `Z` each have a lemma.  The calendar
lemmas of `PromptTrainer.Proofs.Calendar` then turn the date read back into the day written.
-/

namespace PromptTrainer

namespace Timestamp

/-- An instant that RFC 3339 text carries exactly: its day lies in the range of dates, from
-262143-01-01 to 262142-12-31, and its nanoseconds are below a billion, or below two billion
on the last second of a minute (a leap second). -/
structure Valid (t : Timestamp) : Prop where
  after_first : daysFromCivil minYear 1 1 * 86400 ≤ t.seconds
  before_last : t.seconds < (daysFromCivil maxYear 12 31 + 1) * 86400
  nanos_lt : t.nanos < 1000000000 ∨ (t.nanos < 2000000000 ∧ t.seconds % 60 = 59)

/-! ### Digits -/

/-- A digit is no blank. -/
theorem isSpace_of_isDigit {c : Char} (digit : c.isDigit = true) : Text.isSpace c = false := by
  have range := Char.isDigit_iff_toNat.mp digit
  simp only [Char.reduceToNat] at range
  simp only [Text.isSpace, Bool.or_eq_false_iff, Bool.and_eq_false_iff, decide_eq_false_iff_not,
    beq_eq_false_iff_ne, ne_eq]
  omega

/-- Blanks are skipped up to the first character that is no blank. -/
theorem skipBlanks_of_not_space {c : Char} {rest : List Char} (notBlank : Text.isSpace c = false) :
    skipBlanks (c :: rest) = c :: rest := by
  simp [skipBlanks, notBlank]

/-- Reading between `least` and `most` digits takes a run of digits that stops at a character
that is no digit. -/
theorem number_digits {least most : Nat} {ds rest : List Char} {c : Char}
    (digits : ∀ d ∈ ds, d.isDigit = true) (stop : c.isDigit = false)
    (enough : least ≤ ds.length) (fits : ds.length ≤ most) :
    number least most (ds ++ c :: rest) = .ok (digitsValue ds, c :: rest) := by
  have taken : ((ds ++ c :: rest).take most).takeWhile Char.isDigit = ds := by
    rw [List.take_append, List.take_of_length_le fits, List.takeWhile_append_of_pos digits]
    cases more : most - ds.length with
    | zero => simp
    | succ k => simp [stop]
  unfold number
  rw [if_neg (by simp; omega)]
  dsimp only
  rw [taken, if_neg (by omega), List.drop_left]

/-- The characters of a number padded with zeros to a width. -/
theorem toList_padded (width n : Nat) :
    (padded width n).toList =
      List.replicate (width - (Nat.toDigits 10 n).length) '0' ++ Nat.toDigits 10 n := by
  simp [padded, String.toList_append, String.toList_ofList, ← String.length_toList]

theorem isDigit_of_mem_padded {width n : Nat} {c : Char} (member : c ∈ (padded width n).toList) :
    c.isDigit = true := by
  rw [toList_padded, List.mem_append, List.mem_replicate] at member
  rcases member with ⟨-, rfl⟩ | digit
  · rfl
  · exact Nat.isDigit_of_mem_toDigits (by decide) (by decide) digit

theorem digitsValue_padded (width n : Nat) : digitsValue (padded width n).toList = n := by
  show Nat.ofDigitChars 10 (padded width n).toList 0 = n
  rw [toList_padded, Nat.ofDigitChars_append, Nat.ofDigitChars_replicate_zero, Nat.mul_zero,
    Nat.ofDigitChars_ten_toDigits]

/-- A number below `10 ^ width` is padded to exactly `width` digits. -/
theorem length_padded {width n : Nat} (positive : 0 < width) (small : n < Nat.pow 10 width) :
    (padded width n).toList.length = width := by
  have digits : (Nat.toDigits 10 n).length ≤ width := by
    rw [Nat.pow_eq] at small
    exact (Nat.length_toDigits_le_iff (by decide) positive).mpr small
  rw [toList_padded, List.length_append, List.length_replicate]
  omega

theorem padded_ne_nil (width n : Nat) : (padded width n).toList ≠ [] := by
  simp [toList_padded]

/-- Padded digits start with no blank. -/
theorem skipBlanks_padded (width n : Nat) (rest : List Char) :
    skipBlanks ((padded width n).toList ++ rest) = (padded width n).toList ++ rest := by
  obtain ⟨d, ds, chars⟩ := List.exists_cons_of_ne_nil (padded_ne_nil width n)
  have digit : d.isDigit = true := isDigit_of_mem_padded (by rw [chars]; exact List.mem_cons_self)
  rw [chars, List.cons_append, skipBlanks_of_not_space (isSpace_of_isDigit digit)]

/-- Reading a padded number takes exactly its digits. -/
theorem number_padded {least most width n : Nat} {c : Char} {rest : List Char}
    (positive : 0 < width) (small : n < Nat.pow 10 width) (stop : c.isDigit = false)
    (enough : least ≤ width) (fits : width ≤ most) :
    number least most ((padded width n).toList ++ c :: rest) = .ok (n, c :: rest) := by
  have length := length_padded positive small
  rw [number_digits (fun _ => isDigit_of_mem_padded) stop (by rw [length]; exact enough)
    (by rw [length]; exact fits), digitsValue_padded]

/-! ### The fields of the text -/

/-- Reading a two-digit field within its bounds. -/
theorem field_padded {bottom top n : Nat} {c : Char} {rest : List Char} (low : bottom ≤ n)
    (high : n ≤ top) (small : n < 100) (stop : c.isDigit = false) :
    field bottom top ((padded 2 n).toList ++ c :: rest) = .ok (n, c :: rest) := by
  unfold field
  rw [skipBlanks_padded, number_padded (by decide) small stop (by decide) (by decide)]
  simp only [bind, Except.bind]
  rw [if_neg (by omega)]

/-- Reading a year of at most four digits written without a sign. -/
theorem year_unsigned {y : Nat} {rest : List Char} (small : y ≤ 9999) :
    year ((padded 4 y).toList ++ '-' :: rest) = .ok (y, '-' :: rest) := by
  obtain ⟨d, ds, chars⟩ := List.exists_cons_of_ne_nil (padded_ne_nil 4 y)
  have digit : d.isDigit = true := isDigit_of_mem_padded (by rw [chars]; exact List.mem_cons_self)
  have unsigned : ∀ sign more, d :: (ds ++ '-' :: rest) = sign :: more → sign.isDigit = true :=
    fun _ _ heq => (List.cons.inj heq).1 ▸ digit
  unfold year
  rw [skipBlanks_padded, chars, List.cons_append]
  split
  · rename_i heq
    exact absurd (unsigned _ _ heq) (by decide)
  · rename_i heq
    exact absurd (unsigned _ _ heq) (by decide)
  · rw [← List.cons_append, ← chars]
    have fourDigits : y < Nat.pow 10 4 := by show y < 10000; omega
    rw [number_padded (by decide) fourDigits (by decide) (by decide) (by decide)]
    rfl

/-- Reading the digits of a signed year. -/
theorem longNumber_padded {y : Nat} {rest : List Char} (large : y ≤ 262143) :
    longNumber ((padded 4 y).toList ++ '-' :: rest) = .ok (y, '-' :: rest) := by
  unfold longNumber
  rw [number_digits (fun _ => isDigit_of_mem_padded) (by decide)
    (List.length_pos_iff.mpr (padded_ne_nil 4 y)) (by simp), digitsValue_padded]
  simp only [bind, Except.bind]
  rw [if_neg (by unfold int64Max; omega)]

/-- Reading a year written with a minus sign. -/
theorem year_negative {y : Nat} {rest : List Char} (large : y ≤ 262143) :
    year ('-' :: ((padded 4 y).toList ++ '-' :: rest)) = .ok (-(y : Int), '-' :: rest) := by
  unfold year
  rw [skipBlanks_of_not_space (by decide)]
  split
  · rename_i heq
    obtain ⟨-, tail⟩ := List.cons.inj heq
    subst tail
    rw [longNumber_padded large]
    simp only [bind, Except.bind, yearInRange]
    rw [if_neg (by omega)]
  · rename_i heq
    exact absurd (List.cons.inj heq).1 (by decide)
  · rename_i notMinus _
    exact (notMinus _ rfl).elim

/-- Reading a year written with a plus sign. -/
theorem year_positive {y : Nat} {rest : List Char} (large : y ≤ 262142) :
    year ('+' :: ((padded 4 y).toList ++ '-' :: rest)) = .ok ((y : Int), '-' :: rest) := by
  unfold year
  rw [skipBlanks_of_not_space (by decide)]
  split
  · rename_i heq
    exact absurd (List.cons.inj heq).1 (by decide)
  · rename_i heq
    obtain ⟨-, tail⟩ := List.cons.inj heq
    subst tail
    rw [longNumber_padded (by omega)]
    simp only [bind, Except.bind, yearInRange]
    rw [if_neg (by omega)]
  · rename_i _ notPlus
    exact (notPlus _ rfl).elim

/-- A fraction of a second is absent when no point follows the seconds. -/
theorem fraction_absent {c : Char} {rest : List Char} (notPoint : c ≠ '.') :
    fraction (c :: rest) = .ok (0, c :: rest) := by
  unfold fraction
  split
  · rename_i heq
    exact absurd (List.cons.inj heq).1 notPoint
  · rfl

/-- Reading a fraction of `k` digits, as nanoseconds. -/
theorem fraction_padded {k v : Nat} (positive : 0 < k) (fits : k ≤ 9) (small : v < Nat.pow 10 k) :
    fraction ('.' :: ((padded k v).toList ++ ['Z'])) = .ok (v * Nat.pow 10 (9 - k), ['Z']) := by
  unfold fraction
  split
  · rename_i heq
    obtain ⟨-, tail⟩ := List.cons.inj heq
    subst tail
    rw [number_padded positive small (by decide) (by omega) fits]
    simp only [bind, Except.bind, List.length_append, length_padded positive small,
      List.length_singleton, Nat.add_sub_cancel]
    rfl
  · rename_i notPoint
    exact (notPoint _ rfl).elim

/-- The offset `Z` is no offset. -/
theorem offset_utc : offset (skipBlanks ['Z']) = .ok (0, []) := by
  rfl

/-- A literal character after no blanks. -/
theorem literal_self {c : Char} {rest : List Char} (notBlank : Text.isSpace c = false) :
    literal c (c :: rest) = .ok rest := by
  simp [literal, skipBlanks_of_not_space notBlank]

/-- Reading a date and time in UTC whose fields are written as `Timestamp.text` writes them:
a year, two digits each for the month, day, hour, minute and second, an optional fraction and
`Z`. -/
theorem ofText_fields {s : String} {yearChars : List Char} {y : Int}
    {month day hour minute second nanos : Nat} {c : Char} {more : List Char}
    (readYear : ∀ rest, year (yearChars ++ '-' :: rest) = .ok (y, '-' :: rest))
    (stop : c.isDigit = false) (readFraction : fraction (c :: more) = .ok (nanos, ['Z']))
    (chars : s.toList = yearChars ++ '-' :: ((padded 2 month).toList ++ '-' ::
      ((padded 2 day).toList ++ 'T' :: ((padded 2 hour).toList ++ ':' ::
      ((padded 2 minute).toList ++ ':' :: ((padded 2 second).toList ++ c :: more))))))
    (yearRange : minYear ≤ y ∧ y ≤ maxYear) (monthRange : 1 ≤ month ∧ month ≤ 12)
    (dayRange : 1 ≤ day ∧ day ≤ monthLength y month) (hourHigh : hour ≤ 23)
    (minuteHigh : minute ≤ 59) (secondHigh : second ≤ 60)
    (inRange : daysFromCivil minYear 1 1 * 86400 ≤ daysFromCivil y month day * 86400 +
        (hour * 3600 + minute * 60 + (if second = 60 then 59 else second) : Nat) ∧
      daysFromCivil y month day * 86400 +
        (hour * 3600 + minute * 60 + (if second = 60 then 59 else second) : Nat) <
          (daysFromCivil maxYear 12 31 + 1) * 86400) :
    ofText s = .ok ⟨daysFromCivil y month day * 86400 +
      (hour * 3600 + minute * 60 + (if second = 60 then 59 else second) : Nat),
      if second = 60 then nanos + 1000000000 else nanos⟩ := by
  have dash : Text.isSpace '-' = false := by decide
  have colon : Text.isSpace ':' = false := by decide
  have lengths : day ≤ 31 := by
    have := dayRange.2
    unfold monthLength at this
    split at this <;> (try split at this) <;> omega
  unfold ofText
  rw [chars]
  simp only [bind, Except.bind, readYear, literal_self dash]
  rw [field_padded monthRange.1 monthRange.2 (by omega) (by decide)]
  simp only [literal_self dash]
  rw [field_padded dayRange.1 lengths (by omega) (by decide)]
  simp only []
  rw [field_padded (Nat.zero_le hour) hourHigh (by omega) (by decide)]
  simp only [literal_self colon]
  rw [field_padded (Nat.zero_le minute) minuteHigh (by omega) (by decide)]
  simp only [literal_self colon]
  rw [field_padded (Nat.zero_le second) secondHigh (by omega) stop]
  simp only [readFraction, offset_utc]
  rw [if_neg (by decide), if_neg (by omega), if_neg (by decide), if_neg (by omega)]
  simp only [Int.sub_zero, Int.natCast_add, Int.natCast_mul]
  rfl

/-- The year as `Timestamp.text` writes it: at least four digits, with a sign outside 0 to
9999. -/
def yearText (year : Int) : String :=
  if 0 ≤ year ∧ year ≤ 9999 then padded 4 year.toNat
  else (if year < 0 then "-" else "+") ++ padded 4 year.natAbs

/-- The fraction of a second as `Timestamp.text` writes it: nothing for none, else three, six
or nine digits. -/
def fractionText (nanos : Nat) : String :=
  if nanos = 0 then ""
  else if nanos % 1000000 = 0 then "." ++ padded 3 (nanos / 1000000)
  else if nanos % 1000 = 0 then "." ++ padded 6 (nanos / 1000)
  else "." ++ padded 9 nanos

/-- The text of an instant, field by field. -/
theorem text_eq (t : Timestamp) : t.text =
    yearText (civilFromDays (t.seconds / 86400)).1 ++ "-" ++
      padded 2 (civilFromDays (t.seconds / 86400)).2.1 ++ "-" ++
      padded 2 (civilFromDays (t.seconds / 86400)).2.2 ++ "T" ++
      padded 2 ((t.seconds % 86400).toNat / 3600) ++ ":" ++
      padded 2 ((t.seconds % 86400).toNat / 60 % 60) ++ ":" ++
      padded 2 ((t.seconds % 86400).toNat % 60 + (if t.nanos ≥ 1000000000 then 1 else 0)) ++
      fractionText (if t.nanos ≥ 1000000000 then t.nanos - 1000000000 else t.nanos) ++ "Z" :=
  rfl

theorem toList_text (t : Timestamp) : t.text.toList =
    (yearText (civilFromDays (t.seconds / 86400)).1).toList ++ '-' ::
      ((padded 2 (civilFromDays (t.seconds / 86400)).2.1).toList ++ '-' ::
      ((padded 2 (civilFromDays (t.seconds / 86400)).2.2).toList ++ 'T' ::
      ((padded 2 ((t.seconds % 86400).toNat / 3600)).toList ++ ':' ::
      ((padded 2 ((t.seconds % 86400).toNat / 60 % 60)).toList ++ ':' ::
      ((padded 2 ((t.seconds % 86400).toNat % 60 + (if t.nanos ≥ 1000000000 then 1 else 0))).toList ++
      ((fractionText (if t.nanos ≥ 1000000000 then t.nanos - 1000000000 else t.nanos)).toList ++
        ['Z'])))))) := by
  rw [text_eq]
  simp only [String.toList_append, List.append_assoc, String.reduceToList, List.cons_append,
    List.nil_append]

/-- Reading the year the text writes. -/
theorem year_yearText {y : Int} (low : minYear ≤ y) (high : y ≤ maxYear) (rest : List Char) :
    year ((yearText y).toList ++ '-' :: rest) = .ok (y, '-' :: rest) := by
  unfold minYear at low
  unfold maxYear at high
  unfold yearText
  split
  · rename_i plain
    rw [year_unsigned (by omega), Int.toNat_of_nonneg plain.1]
  · split
    · rename_i _ negative
      simp only [String.toList_append, String.reduceToList, List.cons_append, List.nil_append]
      rw [year_negative (by omega), Int.ofNat_natAbs_of_nonpos (Int.le_of_lt negative), Int.neg_neg]
    · rename_i outside nonnegative
      simp only [String.toList_append, String.reduceToList, List.cons_append, List.nil_append]
      rw [year_positive (by omega), Int.natAbs_of_nonneg (by omega)]

/-- The fraction the text writes is followed by `Z`, and starts with no digit. -/
theorem fractionText_stop (n : Nat) :
    ∃ c more, (fractionText n).toList ++ ['Z'] = c :: more ∧ c.isDigit = false := by
  unfold fractionText
  split
  · exact ⟨'Z', [], rfl, rfl⟩
  · split <;> (try split) <;>
      simp only [String.toList_append, String.reduceToList, List.cons_append, List.nil_append] <;>
      exact ⟨_, _, rfl, rfl⟩

/-- Reading a point and `k` digits of `v` gives `v` scaled to nanoseconds. -/
theorem fraction_scaled {k v n : Nat} (positive : 0 < k) (fits : k ≤ 9) (small : v < Nat.pow 10 k)
    (scaled : v * Nat.pow 10 (9 - k) = n) :
    fraction (("." ++ padded k v).toList ++ ['Z']) = .ok (n, ['Z']) := by
  simp only [String.toList_append, String.reduceToList, List.cons_append, List.nil_append]
  rw [fraction_padded positive fits small, scaled]

/-- Reading the fraction the text writes gives the nanoseconds back. -/
theorem fraction_fractionText {n : Nat} (small : n < 1000000000) :
    fraction ((fractionText n).toList ++ ['Z']) = .ok (n, ['Z']) := by
  unfold fractionText
  split
  · rename_i zero
    subst zero
    exact fraction_absent (by decide)
  · -- milliseconds, microseconds or nanoseconds, as the trailing zeros allow
    split
    · exact fraction_scaled (by decide) (by decide) (show n / 1000000 < 1000 by omega)
        (show n / 1000000 * 1000000 = n by omega)
    · split
      · exact fraction_scaled (by decide) (by decide) (show n / 1000 < 1000000 by omega)
          (show n / 1000 * 1000 = n by omega)
      · exact fraction_scaled (by decide) (by decide) (show n < 1000000000 from small)
          (show n * 1 = n by omega)

/-- Two instants are equal when their seconds and nanoseconds are. -/
theorem mk_eq_iff {seconds : Int} {nanos : Nat} {t : Timestamp} :
    (⟨seconds, nanos⟩ : Timestamp) = t ↔ seconds = t.seconds ∧ nanos = t.nanos := by
  cases t
  simp

/-- Reading the text of a valid instant gives the instant back. -/
theorem ofText_text {t : Timestamp} (valid : t.Valid) : ofText t.text = .ok t := by
  obtain ⟨afterFirst, beforeLast, nanosBound⟩ := valid
  have dayLow : daysFromCivil minYear 1 1 ≤ t.seconds / 86400 := by omega
  have dayHigh : t.seconds / 86400 ≤ daysFromCivil maxYear 12 31 := by omega
  obtain ⟨yearLow, yearHigh⟩ := civilFromDays_year_mem dayLow dayHigh
  obtain ⟨monthLow, monthHigh, dayOfMonthLow, dayOfMonthHigh⟩ :=
    civilFromDays_valid (t.seconds / 86400)
  have back := daysFromCivil_civilFromDays (t.seconds / 86400)
  obtain ⟨sod, sodOf⟩ : ∃ sod, (t.seconds % 86400).toNat = sod := ⟨_, rfl⟩
  have sodBound : sod < 86400 := by omega
  have sodSplit : t.seconds = t.seconds / 86400 * 86400 + sod := by omega
  have leapLast : t.nanos ≥ 1000000000 → sod % 60 = 59 := by omega
  have secondRead : (if sod % 60 + (if t.nanos ≥ 1000000000 then 1 else 0) = 60 then 59
      else sod % 60 + (if t.nanos ≥ 1000000000 then 1 else 0)) = sod % 60 := by
    split <;> split <;> omega
  have timeOfDay : sod / 3600 * 3600 + sod / 60 % 60 * 60 + sod % 60 = sod := by omega
  obtain ⟨c, more, after, stop⟩ :=
    fractionText_stop (if t.nanos ≥ 1000000000 then t.nanos - 1000000000 else t.nanos)
  have fractionRead := fraction_fractionText
    (show (if t.nanos ≥ 1000000000 then t.nanos - 1000000000 else t.nanos) < 1000000000 by
      split <;> omega)
  rw [after] at fractionRead
  have chars := toList_text t
  rw [after, sodOf] at chars
  have read := ofText_fields (year_yearText yearLow yearHigh) stop fractionRead chars
    ⟨yearLow, yearHigh⟩ ⟨monthLow, monthHigh⟩ ⟨dayOfMonthLow, dayOfMonthHigh⟩ (by omega) (by omega)
    (by split <;> omega)
    (by rw [secondRead, timeOfDay, back]; omega)
  rw [read, secondRead, timeOfDay, back]
  exact congrArg Except.ok (mk_eq_iff.mpr ⟨by omega, by split <;> split <;> omega⟩)

/-! ### Instants read from text -/

/-- Folding digits into a number below `10 ^ k` gives a number below `10 ^ (k + n)` after `n`
digits. -/
theorem foldl_digits_lt (ds : List Char) (digits : ∀ d ∈ ds, d.isDigit = true) :
    ∀ {acc k : Nat}, acc < Nat.pow 10 k →
      ds.foldl (fun n d => 10 * n + (d.toNat - '0'.toNat)) acc < Nat.pow 10 (k + ds.length) := by
  induction ds with
  | nil => intro acc k small; simpa using small
  | cons d rest ih =>
    intro acc k small
    have digit := Char.isDigit_iff_toNat.mp (digits d List.mem_cons_self)
    simp only [Char.reduceToNat] at digit
    have next : 10 * acc + (d.toNat - '0'.toNat) < Nat.pow 10 (k + 1) := by
      show 10 * acc + (d.toNat - 48) < Nat.pow 10 k * 10
      omega
    have := ih (fun e member => digits e (List.mem_cons_of_mem d member)) next
    simpa [Nat.add_assoc, Nat.add_comm 1] using this

/-- A run of `n` digits has a value below `10 ^ n`. -/
theorem digitsValue_lt {ds : List Char} (digits : ∀ d ∈ ds, d.isDigit = true) :
    digitsValue ds < Nat.pow 10 ds.length := by
  have bound := foldl_digits_lt ds digits (show 0 < Nat.pow 10 0 by decide)
  rwa [Nat.zero_add] at bound

/-- What a number read takes: a run of digits, no longer than allowed, from the front of the
text. -/
theorem number_eq_ok {least most v : Nat} {cs rest : List Char}
    (read : number least most cs = .ok (v, rest)) :
    ∃ ds, (∀ d ∈ ds, d.isDigit = true) ∧ ds.length ≤ most ∧ v = digitsValue ds ∧
      rest = cs.drop ds.length ∧ ds.length ≤ cs.length := by
  unfold number at read
  split at read
  · cases read
  · dsimp only at read
    split at read
    · cases read
    · cases read
      refine ⟨_, fun d member => ?_, ?_, rfl, rfl, ?_⟩
      · exact List.all_eq_true.mp List.all_takeWhile d member
      · exact Nat.le_trans (List.takeWhile_sublist _).length_le (List.length_take_le _ _)
      · exact Nat.le_trans (List.takeWhile_sublist _).length_le (List.length_take_le' _ _)

/-- A fraction of a second read is below a second. -/
theorem fraction_lt {cs rest : List Char} {nanos : Nat} (read : fraction cs = .ok (nanos, rest)) :
    nanos < 1000000000 := by
  unfold fraction at read
  split at read
  · rename_i after
    cases taken : number 1 9 after with
    | error e => rw [taken] at read; cases read
    | ok pair =>
      obtain ⟨v, left⟩ := pair
      rw [taken] at read
      cases read
      obtain ⟨ds, digits, fits, rfl, rfl, within⟩ := number_eq_ok taken
      have used : after.length - (after.drop ds.length).length = ds.length := by
        simp only [List.length_drop]
        omega
      rw [used]
      have small := digitsValue_lt digits
      have scale : Nat.pow 10 ds.length * Nat.pow 10 (9 - ds.length) = 1000000000 := by
        rw [Nat.pow_eq, Nat.pow_eq, ← Nat.pow_add, Nat.add_sub_cancel' fits]
      calc digitsValue ds * Nat.pow 10 (9 - ds.length)
          _ < Nat.pow 10 ds.length * Nat.pow 10 (9 - ds.length) :=
            Nat.mul_lt_mul_of_pos_right small (Nat.pow_eq ▸ Nat.pow_pos (by decide))
          _ = 1000000000 := scale
  · cases read
    decide

/-- A signed offset is a whole number of minutes. -/
theorem offset_signed_minutes {cs rest : List Char} {shift : Int}
    (read : offset.signed cs = .ok (shift, rest)) : shift % 60 = 0 := by
  simp only [offset.signed, bind, Except.bind] at read
  repeat' split at read
  all_goals try cases read
  all_goals omega

/-- Every offset read is a whole number of minutes. -/
theorem offset_minutes {cs rest : List Char} {shift : Int} (read : offset cs = .ok (shift, rest)) :
    shift % 60 = 0 := by
  unfold offset at read
  split at read
  · cases read; rfl
  · cases read; rfl
  · split at read
    · cases read; rfl
    · exact offset_signed_minutes read
  · exact offset_signed_minutes read

/-- Every instant read from text is valid: the reader checks the range of the instant itself,
reads fewer than a billion nanoseconds, and, as offsets are whole minutes, takes a leap second
to the last second of a minute in UTC. -/
theorem ofText_valid {s : String} {t : Timestamp} (read : ofText s = .ok t) : t.Valid := by
  unfold ofText at read
  simp only [bind, Except.bind] at read
  repeat' split at read
  all_goals try cases read
  all_goals
    have small := fraction_lt ‹fraction _ = .ok _›
    have whole := offset_minutes ‹offset _ = .ok _›
    refine ⟨?_, ?_, ?_⟩ <;> dsimp only <;> omega

end Timestamp

end PromptTrainer
