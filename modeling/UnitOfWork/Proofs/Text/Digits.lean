import Mathlib.Algebra.Group.Nat.Defs
import Mathlib.Data.List.TakeWhile
import UnitOfWork.Text.Digits
import UnitOfWork.Text.Pieces

namespace UnitOfWork.Text

theorem isDigit_of_mem_decimal {n : Nat} {c : Char} (h : c ∈ decimal n) : c.isDigit = true :=
  Nat.isDigit_of_mem_toDigits (by decide) (by decide) h

theorem decimal_injective {m n : Nat} (h : decimal m = decimal n) : m = n := by
  rw [← digitsValue_decimal m, h, digitsValue_decimal]

theorem isDigit_of_mem_padded {width n : Nat} {c : Char} (h : c ∈ padded width n) :
    c.isDigit = true := by
  simp only [padded, List.leftpad, List.mem_append] at h
  obtain h | h := h
  · rw [List.eq_of_mem_replicate h]
    rfl
  · exact isDigit_of_mem_decimal h

theorem digitsValue_padded (width n : Nat) : digitsValue (padded width n) = n := by
  rw [padded, List.leftpad, digitsValue, Nat.ofDigitChars_append, Nat.ofDigitChars_replicate_zero,
    Nat.mul_zero]
  exact digitsValue_decimal n

theorem length_padded {width n : Nat} (hw : 0 < width) (h : n < 10 ^ width) :
    (padded width n).length = width := by
  have hlength : (decimal n).length ≤ width :=
    (Nat.length_toDigits_le_iff (by decide) hw).mpr h
  rw [padded, List.length_leftpad]
  omega

theorem decimal_ne_nil (n : Nat) : decimal n ≠ [] := Nat.toDigits_ne_nil

theorem padded_ne_nil (width n : Nat) : padded width n ≠ [] := by
  intro h
  exact decimal_ne_nil n (List.append_eq_nil_iff.mp h).2

theorem takeWhile_run {α : Type} {p : α → Bool} {cs rest : List α} (hcs : ∀ c ∈ cs, p c = true)
    (hrest : ∀ c ∈ rest.head?, p c = false) : (cs ++ rest).takeWhile p = cs := by
  rw [List.takeWhile_append_of_pos hcs]
  cases rest with
  | nil => simp
  | cons c rest =>
    rw [List.takeWhile_cons_of_neg (by simp [hrest c rfl]), List.append_nil]

theorem dropWhile_run {α : Type} {p : α → Bool} {cs rest : List α} (hcs : ∀ c ∈ cs, p c = true)
    (hrest : ∀ c ∈ rest.head?, p c = false) : (cs ++ rest).dropWhile p = rest := by
  rw [List.dropWhile_append_of_pos hcs]
  cases rest with
  | nil => rfl
  | cons c rest => exact List.dropWhile_cons_of_neg (by simp [hrest c rfl])

theorem head?_run {α : Type} {p : α → Bool} {cs rest : List α} (hne : cs ≠ [])
    (hcs : ∀ c ∈ cs, p c = true) {c : α} (h : c ∈ (cs ++ rest).head?) : p c = true := by
  cases cs with
  | nil => exact absurd rfl hne
  | cons d cs =>
    cases h
    exact hcs c List.mem_cons_self

theorem run_unique {α : Type} {p : α → Bool} {as bs r s : List α} (has : ∀ a ∈ as, p a = true)
    (hbs : ∀ b ∈ bs, p b = true) (hr : ∀ x ∈ r.head?, p x = false)
    (hs : ∀ x ∈ s.head?, p x = false) (h : as ++ r = bs ++ s) : as = bs ∧ r = s := by
  have hab : as = bs := by rw [← takeWhile_run has hr, h, takeWhile_run hbs hs]
  subst hab
  exact ⟨rfl, List.append_cancel_left h⟩

theorem readDigits_append {limit : Nat} {ds rest : List Char} (hne : ds ≠ [])
    (hds : ∀ c ∈ ds, c.isDigit = true) (hlimit : ds.length ≤ limit)
    (hrest : ds.length = limit ∨ ∀ c ∈ rest.head?, c.isDigit = false) :
    readDigits limit (ds ++ rest) = some (digitsValue ds, rest) := by
  have htaken : ((ds ++ rest).take limit).takeWhile Char.isDigit = ds := by
    rw [List.take_append, List.take_of_length_le hlimit]
    apply takeWhile_run hds
    intro c hc
    obtain hfull | hstop := hrest
    · simp [hfull] at hc
    · cases rest with
      | nil => simp at hc
      | cons d rest =>
        cases hroom : limit - ds.length with
        | zero => simp [hroom] at hc
        | succ k =>
          rw [hroom, List.take_succ_cons] at hc
          exact hstop c hc
  unfold readDigits
  rw [htaken]
  cases ds with
  | nil => exact absurd rfl hne
  | cons d ds => simp

theorem exists_of_readDigits {limit n : Nat} {s r : List Char}
    (h : readDigits limit s = some (n, r)) :
    ∃ ds, s = ds ++ r ∧ ds ≠ [] ∧ ∀ c ∈ ds, c.isDigit = true := by
  unfold readDigits at h
  split at h
  · cases h
  · rename_i hne
    cases h
    have hrun : ((s.take limit).takeWhile Char.isDigit) <+: s :=
      (List.takeWhile_prefix _).trans (List.take_prefix _ _)
    refine ⟨_, (List.prefix_iff_eq_append.mp hrun).symm, hne, ?_⟩
    exact fun c hc => List.mem_takeWhile_imp hc

theorem suffix_of_readDigits {limit n : Nat} {s r : List Char}
    (h : readDigits limit s = some (n, r)) : r <:+ s := by
  obtain ⟨ds, rfl, -⟩ := exists_of_readDigits h
  exact List.suffix_append ds r

theorem eq_cons_of_readChar {c : Char} {s r : List Char} (h : readChar c s = some r) :
    s = c :: r := by
  unfold readChar at h
  split at h
  · cases h
  · split at h
    · cases h
      simp [*]
    · cases h

theorem readDigits_padded {width n : Nat} (hw : 0 < width) (h : n < 10 ^ width)
    (rest : List Char) : readDigits width (padded width n ++ rest) = some (n, rest) := by
  have hlength := length_padded hw h
  rw [readDigits_append (padded_ne_nil width n) (fun _ => isDigit_of_mem_padded)
    (Nat.le_of_eq hlength) (.inl hlength), digitsValue_padded]

theorem digit_bounds {c : Char} (h : c.isDigit = true) : 48 ≤ c.toNat ∧ c.toNat ≤ 57 := by
  simp only [Char.isDigit, Bool.and_eq_true, decide_eq_true_eq, ge_iff_le] at h
  exact h

theorem isBlank_of_isDigit {c : Char} (h : c.isDigit = true) : isBlank c = false := by
  obtain ⟨hlow, hhigh⟩ := digit_bounds h
  have hranges : ∀ r ∈ blankRanges, r.2 < 48 ∨ 57 < r.1 := by decide
  simp only [isBlank, List.any_eq_false, decide_eq_true_eq]
  intro r hr
  have hr := hranges r hr
  omega

theorem dropBlanks_of_head {s : List Char} (h : ∀ c ∈ s.head?, isBlank c = false) :
    dropBlanks s = s := by
  cases s with
  | nil => rfl
  | cons c s => exact List.dropWhile_cons_of_neg (by simp [h c rfl])

theorem head?_padded_append {width n : Nat} {rest : List Char} {c : Char}
    (h : c ∈ (padded width n ++ rest).head?) : c.isDigit = true :=
  head?_run (padded_ne_nil width n) (fun _ => isDigit_of_mem_padded) h

theorem dropBlanks_padded_append (width n : Nat) (rest : List Char) :
    dropBlanks (padded width n ++ rest) = padded width n ++ rest :=
  dropBlanks_of_head fun _ hc => isBlank_of_isDigit (head?_padded_append hc)

end UnitOfWork.Text
