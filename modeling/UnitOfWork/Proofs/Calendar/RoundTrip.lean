import UnitOfWork.Calendar.Reader
import UnitOfWork.Calendar.Timestamp
import UnitOfWork.Proofs.Text.Digits

namespace UnitOfWork.Timestamp

open Text

theorem month_le (t : Timestamp) : t.month ≤ 12 := by
  obtain ⟨-, -, hday, hlength⟩ := t.isDate
  apply Nat.le_of_not_lt
  intro hm
  have hnone : Calendar.monthLength t.year t.month = 0 := by
    obtain ⟨m, hm'⟩ : ∃ m, t.month = m + 1 := ⟨t.month - 1, by omega⟩
    rw [hm', Calendar.monthLength, List.getElem?_eq_none]
    · rfl
    · simp only [Calendar.monthLengths, List.length_cons, List.length_nil]
      omega
  omega

theorem day_le (t : Timestamp) : t.day ≤ 31 := by
  obtain ⟨-, -, -, hlength⟩ := t.isDate
  apply Nat.le_trans hlength
  cases t.month with
  | zero => simp [Calendar.monthLength]
  | succ m =>
    have hmost : ∀ n ∈ Calendar.monthLengths t.year, n ≤ 31 := by
      intro n hn
      simp only [Calendar.monthLengths, List.mem_cons, List.not_mem_nil, or_false] at hn
      split at hn <;> omega
    rw [Calendar.monthLength]
    cases hm : (Calendar.monthLengths t.year)[m]? with
    | none => simp
    | some n => exact hmost n (List.mem_of_getElem? hm)

theorem clockSecond_le (t : Timestamp) : t.clockSecond ≤ 60 := by
  obtain ⟨-, -, hsecond, hnano⟩ := t.isTime
  unfold clockSecond
  omega

theorem clockNano_lt (t : Timestamp) : t.clockNano < 1000000000 := Nat.mod_lt _ (by decide)

/-- It is in a leap second only at the end of a minute. -/
def IsShown (t : Timestamp) : Prop := t.second < 59 → t.nano < 1000000000

instance (t : Timestamp) : Decidable t.IsShown := inferInstanceAs (Decidable (_ → _))

/-- What a clock can show that shows the same. -/
def shown (t : Timestamp) : Timestamp :=
  { t with
    second := min t.clockSecond 59
    nano := if t.clockSecond = 60 then t.clockNano + 1000000000 else t.clockNano
    isTime := by
      obtain ⟨hhour, hminute, -, -⟩ := t.isTime
      have hrest := t.clockNano_lt
      refine ⟨hhour, hminute, by omega, ?_⟩
      split <;> omega }

theorem second_shown (t : Timestamp) : t.shown.second = min t.clockSecond 59 := rfl

theorem nano_shown (t : Timestamp) :
    t.clockSecond = 60 ∧ t.shown.nano = t.clockNano + 1000000000 ∨
      t.clockSecond < 60 ∧ t.shown.nano = t.clockNano := by
  have hmost := t.clockSecond_le
  by_cases h : t.clockSecond = 60
  · exact .inl ⟨h, if_pos h⟩
  · exact .inr ⟨by omega, if_neg h⟩

theorem shown_eq_self_iff {t : Timestamp} : t.shown = t ↔ t.IsShown := by
  obtain ⟨-, -, hsecond, hnano⟩ := t.isTime
  have hfields : t.shown = t ↔ t.shown.second = t.second ∧ t.shown.nano = t.nano := by
    cases t
    simp [shown]
  have hshown := t.nano_shown
  rw [hfields, second_shown, IsShown]
  unfold clockSecond clockNano at *
  omega

theorem clock_shown (t : Timestamp) :
    t.shown.clockSecond = t.clockSecond ∧ t.shown.clockNano = t.clockNano := by
  have hmost := t.clockSecond_le
  have hrest := t.clockNano_lt
  have hshown := t.nano_shown
  rw [clockSecond, clockNano, second_shown]
  omega

theorem print_shown (t : Timestamp) (separator : Char) :
    t.shown.print separator = t.print separator := by
  rw [print, (clock_shown t).1, (clock_shown t).2]
  rfl

theorem ofClock?_clock (t : Timestamp) :
    ofClock? t.year t.month t.day t.hour t.minute t.clockSecond t.clockNano = some t.shown := by
  have hmost := t.clockSecond_le
  have hrest := t.clockNano_lt
  rw [ofClock?, if_pos hrest, ← ofFields?_fields t.shown]
  by_cases h : t.clockSecond = 60
  · simp [shown, h]
  · have hsecond : min t.clockSecond 59 = t.clockSecond := by omega
    simp [shown, h, hsecond]

theorem readYear_yearText (year : Int) (rest : List Char) :
    readYear (yearText year ++ '-' :: rest) = some (year, '-' :: rest) := by
  have hsigned : ∀ r, r = padded 4 year.natAbs ++ '-' :: rest →
      readDigits r.length r = some (year.natAbs, '-' :: rest) := by
    rintro r rfl
    rw [readDigits_append (padded_ne_nil 4 year.natAbs) (fun _ => isDigit_of_mem_padded)
      (by simp) (.inr (by simp)), digitsValue_padded]
  unfold yearText
  split
  · have hdrop : dropBlanks ('-' :: padded 4 year.natAbs ++ '-' :: rest) =
        '-' :: (padded 4 year.natAbs ++ '-' :: rest) := dropBlanks_of_head (by simp; decide)
    simp only [readYear, hdrop, hsigned _ rfl, Option.map_some, Option.some.injEq, Prod.mk.injEq,
      and_true]
    omega
  · split
    · have hread : readDigits 4 (padded 4 year.natAbs ++ '-' :: rest) =
          some (year.natAbs, '-' :: rest) := readDigits_padded (by decide) (by omega) _
      have hdigit : ∀ c ∈ (padded 4 year.natAbs ++ '-' :: rest).head?, c.isDigit = true :=
        fun _ => head?_padded_append
      rw [readYear, dropBlanks_padded_append]
      split
      · rename_i r hr
        rw [hr] at hdigit
        exact absurd (hdigit '-' rfl) (by decide)
      · rename_i r hr
        rw [hr] at hdigit
        exact absurd (hdigit '+' rfl) (by decide)
      · simp only [hread, Option.map_some, Option.some.injEq, Prod.mk.injEq, and_true]
        omega
    · have hdrop : dropBlanks ('+' :: padded 4 year.natAbs ++ '-' :: rest) =
          '+' :: (padded 4 year.natAbs ++ '-' :: rest) := dropBlanks_of_head (by simp; decide)
      simp only [readYear, hdrop, hsigned _ rfl, Option.map_some, Option.some.injEq, Prod.mk.injEq,
        and_true]
      omega

theorem readNumber_padded {n : Nat} (h : n < 100) (rest : List Char) :
    readNumber 2 (padded 2 n ++ rest) = some (n, rest) := by
  rw [readNumber, dropBlanks_padded_append]
  exact readDigits_padded (by decide) h rest

theorem nanosOfDigits_padded {width n : Nat} (hw : 0 < width) (hw9 : width ≤ 9)
    (h : n < 10 ^ width) : nanosOfDigits (padded width n) = n * 10 ^ (9 - width) := by
  have hlength := length_padded hw h
  rw [nanosOfDigits, List.take_of_length_le (by omega), List.rightpad, hlength, digitsValue,
    Nat.ofDigitChars_append, Nat.ofDigitChars_replicate_zero, Nat.mul_comm]
  exact congrArg (· * 10 ^ (9 - width)) (digitsValue_padded width n)

theorem readFraction_padded {width n : Nat} (hw : 0 < width) (hw9 : width ≤ 9)
    (h : n < 10 ^ width) :
    readFraction ('.' :: padded width n) = some (n * 10 ^ (9 - width), []) := by
  have htaken : (padded width n).takeWhile Char.isDigit = padded width n := by
    have happend : (padded width n ++ []).takeWhile Char.isDigit = padded width n :=
      takeWhile_run (fun _ => isDigit_of_mem_padded) (by simp)
    rwa [List.append_nil] at happend
  have hvalue := nanosOfDigits_padded hw hw9 h
  rw [readFraction, htaken]
  cases hp : padded width n with
  | nil => exact absurd hp (padded_ne_nil width n)
  | cons d ds =>
    rw [hp] at hvalue
    simp [hvalue]

theorem readFraction_fractionText {nano : Nat} (h : nano < 1000000000) :
    readFraction (fractionText nano) = some (nano, []) := by
  unfold fractionText
  split
  · simp [readFraction, *]
  · split
    · rw [readFraction_padded (by decide) (by decide) (by omega)]
      simp only [Option.some.injEq, Prod.mk.injEq, and_true]
      omega
    · split
      · rw [readFraction_padded (by decide) (by decide) (by omega)]
        simp only [Option.some.injEq, Prod.mk.injEq, and_true]
        omega
      · rw [readFraction_padded (by decide) (by decide) (by omega)]
        simp

namespace Style

theorem readMark_cons (style : Style) {c : Char} (hc : isBlank c = false) (rest : List Char) :
    style.readMark c (c :: rest) = some rest := by
  have hslack : style.slack (c :: rest) = c :: rest := by
    unfold slack
    split
    · exact dropBlanks_of_head (by simp [hc])
    · rfl
  rw [readMark, hslack, readChar, if_pos rfl]

theorem slack_nil (style : Style) : style.slack [] = [] := by
  unfold slack
  split <;> rfl

theorem read_print (style : Style) (separator : Char) (t : Timestamp)
    (hseparator : ∀ s, (∀ c ∈ s.head?, c.isDigit = true) →
      style.readSeparator (separator :: s) = some s) :
    style.read (t.print separator) = some t.shown := by
  have hmonth := t.month_le
  have hday := t.day_le
  have hsecond := t.clockSecond_le
  obtain ⟨hhour, hminute, -⟩ := t.isTime
  have hdash : isBlank '-' = false := by decide
  have hcolon : isBlank ':' = false := by decide
  have hrest := t.clockNano_lt
  have hsep := hseparator (padded 2 t.hour ++ ':' :: (padded 2 t.minute ++ ':' ::
    (padded 2 t.clockSecond ++ fractionText t.clockNano))) fun _ => head?_padded_append
  simp only [read, print, List.append_assoc, List.cons_append, Option.bind_eq_bind,
    readYear_yearText, readMark_cons style hdash, readMark_cons style hcolon, hsep,
    readNumber_padded (show t.month < 100 by omega), readNumber_padded (show t.day < 100 by omega),
    readNumber_padded (show t.hour < 100 by omega),
    readNumber_padded (show t.minute < 100 by omega),
    readNumber_padded (show t.clockSecond < 100 by omega), Option.bind_some,
    readFraction_fractionText hrest, slack_nil, ofClock?_clock]

end Style

theorem read_spaced (t : Timestamp) : Style.spaced.read t.spaced.toList = some t.shown := by
  rw [Timestamp.spaced, String.toList_ofList]
  apply Style.read_print
  intro s hs
  have hdrop : dropBlanks (' ' :: s) = dropBlanks s := List.dropWhile_cons_of_pos (by decide)
  simp only [Style.readSeparator, Style.spaced, hdrop]
  rw [dropBlanks_of_head fun c hc => isBlank_of_isDigit (hs c hc)]

theorem ofText?_spaced (t : Timestamp) : ofText? t.spaced = some t.shown := by
  rw [ofText?, read_spaced]
  rfl

theorem IsShown.ofText?_spaced {t : Timestamp} (h : t.IsShown) : ofText? t.spaced = some t := by
  rw [Timestamp.ofText?_spaced, shown_eq_self_iff.mpr h]

theorem read_lettered (t : Timestamp) : Style.relaxed.read t.lettered.toList = some t.shown := by
  rw [Timestamp.lettered, String.toList_ofList]
  apply Style.read_print
  intro s _
  exact Style.readMark_cons Style.relaxed (by decide) s

end UnitOfWork.Timestamp
