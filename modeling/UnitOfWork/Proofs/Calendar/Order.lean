import UnitOfWork.Proofs.Calendar.RoundTrip
import UnitOfWork.Proofs.Text.Order
import UnitOfWork.Statement.Clause

namespace UnitOfWork

namespace Timestamp

open Text

variable {s t : Timestamp}

def HasPlainYear (t : Timestamp) : Prop := 0 ≤ t.year ∧ t.year ≤ 9999

instance (t : Timestamp) : Decidable t.HasPlainYear := inferInstanceAs (Decidable (_ ∧ _))

theorem HasPlainYear.yearText (h : t.HasPlainYear) : yearText t.year = padded 4 t.year.natAbs := by
  rw [Timestamp.yearText, if_neg (Int.not_lt.mpr h.1), if_pos h.2]

theorem HasPlainYear.natAbs_lt (h : t.HasPlainYear) : t.year.natAbs < 10 ^ 4 := by
  obtain ⟨hlow, hhigh⟩ := h
  omega

theorem before_iff : s.before t = true ↔
    s.year < t.year ∨ s.year = t.year ∧ (s.month < t.month ∨ s.month = t.month ∧
      (s.day < t.day ∨ s.day = t.day ∧ (s.hour < t.hour ∨ s.hour = t.hour ∧
        (s.minute < t.minute ∨ s.minute = t.minute ∧
          (s.second < t.second ∨ s.second = t.second ∧ s.nano < t.nano))))) := by
  simp only [before, key, decide_eq_true_eq, List.cons_lt_cons_iff, List.not_lt_nil, and_false,
    or_false]
  omega

theorem not_before_of_before (h : s.before t = true) : t.before s = false := by
  apply Bool.eq_false_iff.mpr
  rw [before_iff] at h
  rw [ne_eq, before_iff]
  omega

theorem eq_iff_not_before : s = t ↔ s.before t = false ∧ t.before s = false := by
  have hfields : s = t ↔ s.year = t.year ∧ s.month = t.month ∧ s.day = t.day ∧ s.hour = t.hour ∧
      s.minute = t.minute ∧ s.second = t.second ∧ s.nano = t.nano := by
    cases s
    cases t
    simp
  rw [hfields, Bool.eq_false_iff, Bool.eq_false_iff, ne_eq, ne_eq, before_iff, before_iff]
  omega

@[simp] theorem not_before_self (t : Timestamp) : t.before t = false :=
  (eq_iff_not_before.mp rfl).1

theorem clock_lt_iff :
    s.clockSecond < t.clockSecond ∨ s.clockSecond = t.clockSecond ∧ s.clockNano < t.clockNano ↔
      s.shown.second < t.shown.second ∨
        s.shown.second = t.shown.second ∧ s.shown.nano < t.shown.nano := by
  have hs := s.clockNano_lt
  have ht := t.clockNano_lt
  have hsshown := s.nano_shown
  have htshown := t.nano_shown
  rw [second_shown, second_shown]
  omega

/-- The leap second that goes on behind the second of `s` has not come to an end at `t`, although
the second of `t` is the next one. -/
def Overruns (s t : Timestamp) : Prop :=
  s.year = t.year ∧ s.month = t.month ∧ s.day = t.day ∧ s.hour = t.hour ∧ s.minute = t.minute ∧
    t.second = s.second + 1 ∧ t.nano + 1000000000 ≤ s.nano

instance (s t : Timestamp) : Decidable (s.Overruns t) := inferInstanceAs (Decidable (_ ∧ _))

theorem Overruns.not_isShown (h : s.Overruns t) : ¬s.IsShown := by
  obtain ⟨-, -, ht, -⟩ := t.isTime
  obtain ⟨-, -, -, -, -, hsecond, hnano⟩ := h
  rw [IsShown]
  omega

theorem Overruns.before (h : s.Overruns t) : s.before t = true := by
  obtain ⟨hyear, hmonth, hday, hhour, hminute, hsecond, -⟩ := h
  rw [before_iff]
  omega

theorem before_shown_of_before (h : s.before t = true) :
    s.shown.before t.shown = true ↔ ¬s.Overruns t := by
  obtain ⟨-, -, hs, hsnano⟩ := s.isTime
  obtain ⟨-, -, ht, htnano⟩ := t.isTime
  rw [before_iff] at h
  rw [before_iff, ← clock_lt_iff, Overruns]
  -- within a minute, what is shown is in the order of the nanoseconds since the minute began
  simp only [shown, clockSecond, clockNano]
  omega

theorem before_shown (h : ¬s.Overruns t) (h' : ¬t.Overruns s) :
    s.shown.before t.shown = s.before t := by
  by_cases hbefore : s.before t = true
  · rw [hbefore, before_shown_of_before hbefore]
    exact h
  by_cases hbehind : t.before s = true
  · rw [not_before_of_before hbehind]
    exact not_before_of_before ((before_shown_of_before hbehind).mpr h')
  · obtain rfl := eq_iff_not_before.mpr
      ⟨Bool.eq_false_iff.mpr hbefore, Bool.eq_false_iff.mpr hbehind⟩
    simp

theorem shown_inj (h : ¬s.Overruns t) (h' : ¬t.Overruns s) : s.shown = t.shown ↔ s = t := by
  rw [eq_iff_not_before, before_shown h h', before_shown h' h, ← eq_iff_not_before]

inductive Fraction (nano : Nat) : List Char → Prop where
  | none (h : nano = 0) : Fraction nano []
  | digits (ds : List Char) (hds : ∀ c ∈ ds, c.isDigit = true) (hlength : ds.length ≤ 9)
      (hvalue : filledValue 9 ds = nano) : Fraction nano ('.' :: ds)

theorem Fraction.of_padded {width n nano : Nat} (hw : 0 < width) (hw9 : width ≤ 9)
    (h : n < 10 ^ width) (hnano : n * 10 ^ (9 - width) = nano) :
    Fraction nano ('.' :: padded width n) :=
  .digits _ (fun _ => isDigit_of_mem_padded) (by rw [length_padded hw h]; exact hw9)
    ((filledValue_padded hw h).trans hnano)

theorem fraction_fractionText {nano : Nat} (h : nano < 1000000000) :
    Fraction nano (fractionText nano) := by
  unfold fractionText
  split
  · exact .none ‹_›
  · split
    · exact .of_padded (by omega) (by omega) (by omega) (by omega)
    · split
      · exact .of_padded (by omega) (by omega) (by omega) (by omega)
      · exact .of_padded (by omega) (by omega) h (by omega)

theorem Fraction.le_of_lt {m n : Nat} {xs ys : List Char} (hm : Fraction m xs)
    (hn : Fraction n ys) (hlt : xs < ys) : m ≤ n := by
  cases hm with
  | none h => omega
  | digits ds hds hlength hvalue =>
    cases hn with
    | none h => exact absurd hlt (List.not_lt_nil _)
    | digits es hes hlength' hvalue' =>
      rw [← hvalue, ← hvalue']
      exact filledValue_le_of_lt (cons_lt_cons.mp hlt) hds hes hlength hlength'

theorem fractionText_lt_iff {m n : Nat} (hm : m < 1000000000) (hn : n < 1000000000) :
    fractionText m < fractionText n ↔ m < n := by
  have hfm := fraction_fractionText hm
  have hfn := fraction_fractionText hn
  refine lt_iff_lt_of_le ⟨?_, congrArg _⟩ (hfm.le_of_lt hfn) (hfn.le_of_lt hfm)
  intro h
  have hread := readFraction_fractionText hm
  rw [h, readFraction_fractionText hn] at hread
  cases hread
  rfl

theorem print_lt_iff (hs : s.HasPlainYear) (ht : t.HasPlainYear) (separator : Char) :
    s.print separator < t.print separator ↔ s.shown.before t.shown = true := by
  have hsmonth := s.month_le
  have htmonth := t.month_le
  have hsday := s.day_le
  have htday := t.day_le
  have hssecond := s.clockSecond_le
  have htsecond := t.clockSecond_le
  have hsnano := s.clockNano_lt
  have htnano := t.clockNano_lt
  obtain ⟨hshour, hsminute, -⟩ := s.isTime
  obtain ⟨hthour, htminute, -⟩ := t.isTime
  have hsyear := hs.1
  have htyear := ht.1
  have hyear : s.year.natAbs < t.year.natAbs ↔ s.year < t.year := by omega
  have hyears : s.year.natAbs = t.year.natAbs ↔ s.year = t.year := by omega
  simp only [print, hs.yearText, ht.yearText, List.append_assoc, List.cons_append]
  rw [padded_append_lt_iff (by omega) hs.natAbs_lt ht.natAbs_lt, cons_lt_cons,
    padded_append_lt_iff (by omega) (by omega) (by omega), cons_lt_cons,
    padded_append_lt_iff (by omega) (by omega) (by omega), cons_lt_cons,
    padded_append_lt_iff (by omega) (by omega) (by omega), cons_lt_cons,
    padded_append_lt_iff (by omega) (by omega) (by omega), cons_lt_cons,
    padded_append_lt_iff (by omega) (by omega) (by omega), fractionText_lt_iff hsnano htnano,
    clock_lt_iff, hyear, hyears, before_iff]
  rfl

theorem isAscii_yearText (year : Int) : IsAscii (Timestamp.yearText year) := by
  unfold yearText
  split
  · exact .cons (by decide) (.padded _ _)
  · split
    · exact .padded _ _
    · exact .cons (by decide) (.padded _ _)

theorem Fraction.isAscii {nano : Nat} {cs : List Char} (h : Fraction nano cs) : IsAscii cs := by
  cases h with
  | none h => exact .nil
  | digits ds hds hlength hvalue => exact .cons (by decide) (.of_digits hds)

theorem isAscii_spaced (t : Timestamp) : IsAscii t.spaced.toList := by
  have hnano := t.clockNano_lt
  have hmark {c : Char} {cs : List Char} (width n : Nat) (hc : c.toNat ≤ 127) (h : IsAscii cs) :
      IsAscii (c :: (padded width n ++ cs)) := .cons hc ((IsAscii.padded width n).append h)
  simp only [spaced, String.toList_ofList, print, List.append_assoc, List.cons_append]
  refine (isAscii_yearText t.year).append ?_
  iterate 5 refine hmark 2 _ (by decide) ?_
  exact (fraction_fractionText hnano).isAscii

theorem spaced_inj : s.spaced = t.spaced ↔ s.shown = t.shown := by
  refine ⟨fun h => ?_, fun h => ?_⟩
  · have hread := ofText?_spaced s
    rw [h, ofText?_spaced] at hread
    exact (Option.some.inj hread).symm
  · rw [spaced, spaced, ← print_shown s, ← print_shown t, h]

theorem encodeUtf8_spaced_lt_iff (hs : s.HasPlainYear) (ht : t.HasPlainYear) :
    encodeUtf8 s.spaced < encodeUtf8 t.spaced ↔ s.shown.before t.shown = true := by
  rw [encodeUtf8_lt_iff s.isAscii_spaced t.isAscii_spaced, spaced, spaced, String.toList_ofList,
    String.toList_ofList, print_lt_iff hs ht]

end Timestamp

def Comparison.MeetsInTime (s t : Timestamp) : Comparison → Prop
  | eq => s = t
  | ne => s ≠ t
  | lt => s.before t = true
  | le => t.before s = false
  | gt => t.before s = true
  | ge => s.before t = false

theorem Comparison.meetsInTime_shown {s t : Timestamp} (h : ¬s.Overruns t) (h' : ¬t.Overruns s)
    (c : Comparison) : c.MeetsInTime s.shown t.shown ↔ c.MeetsInTime s t := by
  cases c <;> simp [MeetsInTime, Timestamp.before_shown h h', Timestamp.before_shown h' h,
    Timestamp.shown_inj h h']

end UnitOfWork
