import UnitOfWork.Json.Number
import UnitOfWork.Proofs.Text.Order

namespace UnitOfWork

namespace Text

theorem not_leading_zero {n : Nat} {d : Char} {ds : List Char} : decimal n ≠ '0' :: d :: ds := by
  intro h
  have hdigits : ∀ c ∈ d :: ds, c.isDigit = true := by
    intro c hc
    apply isDigit_of_mem_decimal (n := n)
    rw [h]
    exact List.mem_cons_of_mem _ hc
  have hvalue : n = digitsValue (d :: ds) := by
    rw [← digitsValue_decimal n, h]
    rfl
  -- without the zero there are fewer digits than the number has
  have hlt : n < 10 ^ (d :: ds).length := by
    have hbound := (ofDigitChars_bounds hdigits 0).2
    rw [Nat.zero_add, Nat.one_mul] at hbound
    exact hvalue ▸ hbound
  have hlength : (decimal n).length ≤ (d :: ds).length :=
    (Nat.length_toDigits_le_iff (by decide) (Nat.succ_pos _)).mpr hlt
  rw [h, List.length_cons] at hlength
  omega

end Text

namespace Json

open Text

theorem dropSpace_of_head {s : List Char} (h : ∀ c ∈ s.head?, isSpace c = false) :
    dropSpace s = s := by
  cases s with
  | nil => rfl
  | cons c s => exact List.dropWhile_cons_of_neg (by simp [h c rfl])

theorem isSpace_of_isDigit {c : Char} (h : c.isDigit = true) : isSpace c = false := by
  cases hspace : isSpace c with
  | false => rfl
  | true =>
    simp only [isSpace, decide_eq_true_eq] at hspace
    rcases hspace with rfl | rfl | rfl | rfl <;> cases h

theorem isSpace_of_head_decimal {n : Nat} {rest : List Char} {c : Char}
    (h : c ∈ (decimal n ++ rest).head?) : isSpace c = false :=
  isSpace_of_isDigit
    (head?_run (decimal_ne_nil n) (fun _ => isDigit_of_mem_decimal) h)

def Stops (rest : List Char) : Prop :=
  ∀ c ∈ rest.head?, c.isDigit = false ∧ c ≠ '.' ∧ c ≠ 'e' ∧ c ≠ 'E'

theorem Stops.of_cons {c : Char} (rest : List Char)
    (h : c.isDigit = false ∧ c ≠ '.' ∧ c ≠ 'e' ∧ c ≠ 'E') : Stops (c :: rest) := by
  intro d hd
  cases hd
  exact h

variable {rest : List Char} (hrest : Stops rest)
include hrest

theorem readWhole_decimal (n : Nat) :
    readWhole (decimal n ++ rest) = some (decimal n, rest) := by
  have hdigit : ∀ c ∈ decimal n, c.isDigit = true := fun _ => isDigit_of_mem_decimal
  have hstop : ∀ c ∈ rest.head?, c.isDigit = false := fun c hc => (hrest c hc).1
  rw [readWhole, digitsOf, takeWhile_run hdigit hstop, afterDigits, dropWhile_run hdigit hstop]
  split
  · exact absurd ‹_› (decimal_ne_nil n)
  · exact absurd ‹_› not_leading_zero
  · rfl

theorem readFraction_of_stops : readFraction rest = some (none, rest) := by
  unfold readFraction
  split
  · exact absurd rfl (hrest '.' rfl).2.1
  · rfl

theorem readExponent_of_stops : readExponent rest = some (none, rest) := by
  cases rest with
  | nil => rfl
  | cons c rest =>
    obtain ⟨-, -, hsmall, hcapital⟩ := hrest c rfl
    rw [readExponent, if_neg (not_or.mpr ⟨hsmall, hcapital⟩)]

theorem readUnsigned_decimal (negative : Bool) (n : Nat) :
    readUnsigned negative (decimal n ++ rest) = some (⟨negative, decimal n, none, none⟩, rest) := by
  simp only [readUnsigned, readWhole_decimal hrest, readFraction_of_stops hrest,
    readExponent_of_stops hrest, Option.bind_eq_bind, Option.bind_some]

theorem readNumber_signed (i : Int) :
    ∃ n, readNumber (signed i ++ rest) = some (n, rest) ∧ n.integer? = some i := by
  cases i with
  | ofNat k =>
    refine ⟨⟨false, decimal k, none, none⟩, ?_, ?_⟩
    · rw [signed, readNumber]
      · exact readUnsigned_decimal hrest false k
      · intro s hs
        have hminus : '-' ∈ (decimal k ++ rest).head? := by
          rw [hs]
          rfl
        cases head?_run (decimal_ne_nil k) (fun _ => isDigit_of_mem_decimal) hminus
    · simp [Number.integer?, digitsValue_decimal]
  | negSucc k =>
    refine ⟨⟨true, decimal (k + 1), none, none⟩, readUnsigned_decimal hrest true (k + 1), ?_⟩
    simp only [Number.integer?, digitsValue_decimal, Nat.succ_ne_zero, if_true, if_false]
    rfl

end Json

end UnitOfWork
