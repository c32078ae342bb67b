import UnitOfWork.Proofs.Queries

namespace UnitOfWork

structure UpTo (names : List String) (limit : Nat) (steps : List Found)
    (read : Except Failure (List Row)) : Prop where
  through : read = readThrough names none 0 (steps.take limit)
  within : read = readWithin names none 0 (steps.take limit)
  length_le : ∀ rows, read = .ok rows → rows.length ≤ limit
  inOrder : ∀ rows, read = .ok rows →
    List.Forall₂ (fun found r => found.row names = .ok r) (steps.take limit) rows
  fails_iff : (∃ e, read = .error e) ↔ ∃ found ∈ steps.take limit, ∃ e, found.row names = .error e

variable {names : List String} {limit : Nat} {steps : List Found}

theorem mapM_fails_iff {α β ε : Type} {f : α → Except ε β} {as : List α} :
    (∃ e, as.mapM f = .error e) ↔ ∃ a ∈ as, ∃ e, f a = .error e := by
  constructor
  · rintro ⟨e, he⟩
    obtain ⟨a, ha, hfa⟩ := error_of_mapM he
    exact ⟨a, ha, e, hfa⟩
  · rintro ⟨a, ha, e, hfa⟩
    cases hall : as.mapM f with
    | error e' => exact ⟨e', rfl⟩
    | ok bs =>
      obtain ⟨i, hi, rfl⟩ := List.getElem_of_mem ha
      have hall := forall₂_of_mapM hall
      cases hfa.symm.trans (hall.get hi (hall.length_eq ▸ hi))

theorem upTo_iff {read : Except Failure (List Row)} :
    UpTo names limit steps read ↔ read = (steps.take limit).mapM (Found.row names) := by
  constructor
  · intro h
    exact h.through.trans (readThrough_none names 0 _)
  · rintro rfl
    constructor
    case through => exact (readThrough_none names 0 _).symm
    case within => exact (readWithin_none names 0 _).symm
    case length_le =>
      intro rows hrows
      rw [length_of_mapM hrows, List.length_take]
      exact Nat.min_le_left _ _
    case inOrder => exact fun rows => forall₂_of_mapM
    case fails_iff => exact mapM_fails_iff

theorem upTo_readWithin (names : List String) (limit : Nat) (steps : List Found) :
    UpTo names limit steps (readWithin names (some limit) 0 steps) :=
  upTo_iff.mpr (readWithin_some names limit 0 steps)

theorem upTo_readThrough (names : List String) (limit : Nat) (steps : List Found) :
    UpTo names (max 1 limit) steps (readThrough names (some limit) 0 steps) :=
  upTo_iff.mpr (readThrough_some names limit 0 steps)

theorem take_mapM_eq_iff {α β ε : Type} (f : α → Except ε β) (limit : Nat) (as : List α) :
    (as.take (max 1 limit)).mapM f = (as.take limit).mapM f ↔ 0 < limit ∨ as = [] := by
  constructor
  · intro h
    by_contra hnot
    obtain ⟨hlimit, hne⟩ := not_or.mp hnot
    obtain rfl : limit = 0 := Nat.eq_zero_of_not_pos hlimit
    cases as with
    | nil => exact hne rfl
    | cons a as =>
      have hnone : ((a :: as).take 1).mapM f = .ok [] := h
      cases length_of_mapM hnone
  · rintro (hlimit | rfl)
    · rw [Nat.max_eq_right hlimit]
    · rw [List.take_nil, List.take_nil]

theorem readThrough_eq_iff {read : Except Failure (List Row)}
    (h : UpTo names limit steps read) :
    readThrough names (some limit) 0 steps = read ↔ 0 < limit ∨ steps = [] := by
  rw [readThrough_some, upTo_iff.mp h]
  exact take_mapM_eq_iff ..

/-- Looked at before each row, a limit means what it says, and looked at after each row it does
unless it is zero and there is a row. -/
theorem limit_meant_iff (names : List String) (limit : Nat) :
    (∀ steps, UpTo names limit steps (readWithin names (some limit) 0 steps) ∧
      UpTo names (max 1 limit) steps (readThrough names (some limit) 0 steps) ∧
      (UpTo names limit steps (readThrough names (some limit) 0 steps) ↔
        0 < limit ∨ steps = []) ∧
      (readThrough names (some limit) 0 steps = readWithin names (some limit) 0 steps ↔
        0 < limit ∨ steps = [])) ∧
    (∀ (g : Sqlite.Engine) i sql args, (g.fetch i sql args names (some limit)).1 =
      ((g.query i sql args).1.mapError .sqlite).bind fun steps =>
        readThrough names none 0 (steps.take (max 1 limit))) ∧
    ∀ (σ : Type) (S : Postgres.Server σ) (c : Postgres.Client σ) i st,
      (c.fetch S i st names (some limit)).1 =
        (Postgres.Client.result S c i st).bind fun steps =>
          readWithin names none 0 (steps.take limit) := by
  refine ⟨fun steps => ?_, ?_, ?_⟩
  · have hwithin := upTo_readWithin names limit steps
    refine ⟨hwithin, upTo_readThrough names limit steps, ?_, readThrough_eq_iff hwithin⟩
    rw [upTo_iff, ← upTo_iff.mp hwithin]
    exact readThrough_eq_iff hwithin
  · intro g i sql args
    rw [Sqlite.Client.fetch_eq]
    exact congrArg _ (funext fun steps => (upTo_readThrough names limit steps).through)
  · intro σ S c i st
    rw [Postgres.Client.fetch_eq]
    exact congrArg _ (funext fun steps => (upTo_readWithin names limit steps).within)

/-- No row was asked for, and one is read where the limit is looked at after it. -/
theorem row_over_limit :
    let steps : List Found := [.ok (Source.ofValues [.int 1])]
    (readThrough ["a"] (some 0) 0 steps).map (·.map Row.toList) = .ok [[("a", .int 1)]] ∧
      (readThrough ["a"] none 0 (steps.take 0)).map (·.map Row.toList) = .ok [] ∧
      (readWithin ["a"] (some 0) 0 steps).map (·.map Row.toList) = .ok [] ∧
      ¬UpTo ["a"] 0 steps (readThrough ["a"] (some 0) 0 steps) := by
  refine ⟨by decide +kernel, by decide +kernel, by decide +kernel, fun h => ?_⟩
  obtain ⟨r, hr⟩ : ∃ r, readThrough ["a"] (some 0) 0 [.ok (Source.ofValues [.int 1])] = .ok [r] :=
    ⟨_, rfl⟩
  cases h.length_le _ hr

end UnitOfWork
