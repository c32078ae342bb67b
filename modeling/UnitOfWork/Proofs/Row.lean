import UnitOfWork.Proofs.Row.Reading

namespace UnitOfWork

variable {P : Failure → Prop} {names : List String} {e : Failure}

namespace Source

variable {src : Source}

theorem error_of_fill (h : ∀ i e, src.capture i = .error e → P e) {i : Nat} {r : Row}
    (he : src.fill i names r = .error e) : P e := by
  induction names generalizing i r with
  | nil => cases he
  | cons name names ih =>
    rw [fill] at he
    split at he
    · cases he
      exact h i _ ‹_›
    · exact ih he

theorem error_of_materialize (hwidth : ∀ width expected, P (widthMismatch width expected))
    (h : ∀ i e, src.capture i = .error e → P e) (he : src.materialize names = .error e) : P e := by
  rw [materialize] at he
  split at he
  · cases he
    exact hwidth _ _
  · exact error_of_fill h he

end Source

def Found.Within (P : Failure → Prop) : Found → Prop
  | .error e => P e
  | .ok src => ∀ i e, src.capture i = .error e → P e

theorem Found.error_of_row (hwidth : ∀ width expected, P (Source.widthMismatch width expected))
    {found : Found} (h : found.Within P) (he : found.row names = .error e) : P e := by
  cases found with
  | error f =>
    cases he
    exact h
  | ok src => exact Source.error_of_materialize hwidth h he

variable {limit : Option Nat} {steps : List Found}

theorem error_of_mapM_row (hwidth : ∀ width expected, P (Source.widthMismatch width expected))
    (h : ∀ found ∈ steps, found.Within P) (he : steps.mapM (Found.row names) = .error e) : P e := by
  obtain ⟨found, hfound, he⟩ := error_of_mapM he
  exact Found.error_of_row hwidth (h found hfound) he

theorem error_of_readThrough (hwidth : ∀ width expected, P (Source.widthMismatch width expected))
    (h : ∀ found ∈ steps, found.Within P) {taken : Nat}
    (he : readThrough names limit taken steps = .error e) : P e := by
  cases limit with
  | none => exact error_of_mapM_row hwidth h (readThrough_none names taken steps ▸ he)
  | some limit =>
    rw [readThrough_some] at he
    exact error_of_mapM_row hwidth (fun found hf => h found (List.mem_of_mem_take hf)) he

theorem error_of_readWithin (hwidth : ∀ width expected, P (Source.widthMismatch width expected))
    (h : ∀ found ∈ steps, found.Within P) {taken : Nat}
    (he : readWithin names limit taken steps = .error e) : P e := by
  cases limit with
  | none => exact error_of_mapM_row hwidth h (readWithin_none names taken steps ▸ he)
  | some limit =>
    rw [readWithin_some] at he
    exact error_of_mapM_row hwidth (fun found hf => h found (List.mem_of_mem_take hf)) he

end UnitOfWork
