import UnitOfWork.Backend
import UnitOfWork.Proofs.Failure
import UnitOfWork.Proofs.Postgres.Blocks

namespace UnitOfWork

structure Driver.Plain {δ τ : Type} (D : Driver δ τ) : Prop where
  begin : ∀ d k e, (D.begin d k).1 = .error e → e.isPlain = true
  run : ∀ d t c st e, (D.run d t c st).1 = .error e → e.isPlain = true
  commit : ∀ d t e, (D.commit d t).1 = .error e → e.isPlain = true
  rollback : ∀ d t e, (D.rollback d t).1 = .error e → e.isPlain = true

namespace Driver.Plain

variable {α β σ τ : Type}

theorem either {A : Driver α σ} {B : Driver β τ} (hA : A.Plain) (hB : B.Plain) :
    (A.either B).Plain := by
  constructor
  · rintro (a | b) k e h
    · exact hA.begin a k e (error_of_map h)
    · exact hB.begin b k e (error_of_map h)
  · rintro (a | b) (s | t) c st e h
    · exact hA.run a s c st e h
    · cases h
      rfl
    · cases h
      rfl
    · exact hB.run b t c st e h
  · rintro (a | b) (s | t) e h
    · exact hA.commit a s e h
    · cases h
      rfl
    · cases h
      rfl
    · exact hB.commit b t e h
  · rintro (a | b) (s | t) e h
    · exact hA.rollback a s e h
    · cases h
      rfl
    · cases h
      rfl
    · exact hB.rollback b t e h

theorem numbered {A : Driver α σ} (hA : A.Plain) : A.numbered.Plain := by
  constructor
  · intro ds i e h
    simp only [Driver.numbered] at h
    split at h
    · cases h
      rfl
    · exact hA.begin _ _ e (error_of_map h)
  · intro ds s c st e h
    simp only [Driver.numbered] at h
    split at h
    · cases h
      rfl
    · exact hA.run _ _ c st e h
  · intro ds s e h
    simp only [Driver.numbered] at h
    split at h
    · cases h
      rfl
    · exact hA.commit _ _ e h
  · intro ds s e h
    simp only [Driver.numbered] at h
    split at h
    · cases h
      rfl
    · exact hA.rollback _ _ e h

end Driver.Plain

namespace Recording

theorem isPlain_of_materialize {names : List String} {row : List Value} {e : Failure}
    (h : materialize names row = .error e) : e.isPlain = true := by
  refine Source.error_of_materialize (P := fun e => e.isPlain = true) (fun _ _ => rfl) ?_ h
  intro i e hc
  simp only [Source.ofValues] at hc
  split at hc <;> cases hc
  rfl

theorem isPlain_of_materializeFirst {names : List String} {rows : List (List Value)} {e : Failure}
    (h : materializeFirst names rows = .error e) : e.isPlain = true := by
  cases rows with
  | nil => cases h
  | cons row rows => exact isPlain_of_materialize (error_of_map h)

theorem isPlain_of_materializeAll {names : List String} {rows : List (List Value)} {e : Failure}
    (h : materializeAll names rows = .error e) : e.isPlain = true := by
  rw [materializeAll_eq] at h
  obtain ⟨row, -, hrow⟩ := error_of_mapM h
  exact isPlain_of_materialize hrow

theorem isPlain_of_record {r : Recording} {st : Statement} {e : Failure}
    (h : (r.record st).1 = .error e) : e.isPlain = true := by
  simp only [record] at h
  split at h <;> cases h
  rfl

theorem plain_driver : driver.Plain := by
  constructor
  · intro r k e h
    simp only [driver, begin] at h
    split at h <;> cases h
    rfl
  · intro r t c st e h
    simp only [driver, run] at h
    split at h
    · rename_i hrecord
      cases h
      exact isPlain_of_record (by rw [hrecord])
    · cases c with
      | first names => exact isPlain_of_materializeFirst h
      | every names => exact isPlain_of_materializeAll h
      | affected => cases h
  · intro r t e h
    simp only [driver, commit] at h
    split at h <;> cases h
    rfl
  · intro r t e h
    simp only [driver, rollback] at h
    split at h <;> cases h
    rfl

end Recording

namespace Sqlite

theorem isPlain_of_sourceOf {cells : List Cell} {i : Nat} {e : Failure}
    (h : (sourceOf cells).capture i = .error e) : e.isPlain = true := by
  simp only [sourceOf] at h
  split at h
  · rename_i cell _
    cases cell with
    | text b =>
      simp only [Cell.toValue] at h
      split at h <;> cases h
      rfl
    | null | integer | real | blob => cases h
  · cases h
    rfl

theorem Engine.isPlain_of_fetch {g : Engine} {i : Nat} {sql : String} {args : List Cell}
    {names : List String} {limit : Option Nat} {e : Failure}
    (h : (g.fetch i sql args names limit).1 = .error e) : e.isPlain = true := by
  have hsteps : ∀ steps, (g.query i sql args).1 = .ok steps →
      ∀ found ∈ steps, found.Within fun e => e.isPlain = true := by
    intro steps hquery found hfound
    simp only [query] at hquery
    split at hquery
    · cases hquery
    · split at hquery <;> cases hquery
      · obtain ⟨cells, -, rfl⟩ := List.mem_map.mp hfound
        exact fun i e hc => isPlain_of_sourceOf hc
      · cases hfound
  simp only [fetch] at h
  split at h
  · cases h
    rfl
  · rename_i steps g' hquery
    exact error_of_readThrough (P := fun e => e.isPlain = true) (fun _ _ => rfl)
      (hsteps steps (by rw [hquery])) h

namespace Client

theorem isPlain_of_beginOn {c : Client} {i : Nat} {e : Failure}
    (h : (c.beginOn i).1 = .error e) : e.isPlain = true := by
  simp only [beginOn] at h
  split at h <;> cases h
  rfl

theorem plain_driver : driver.Plain := by
  constructor
  · intro c k e h
    simp only [driver, begin] at h
    split at h
    · cases h
      rfl
    · cases h
      rfl
    · exact isPlain_of_beginOn h
    · exact isPlain_of_beginOn h
  · intro c i call st e h
    cases call with
    | first names => exact Engine.isPlain_of_fetch (error_of_map h)
    | every names => exact Engine.isPlain_of_fetch h
    | affected =>
      simp only [driver, run] at h
      split at h <;> cases h
      rfl
  · intro c i e h
    simp only [driver, commit] at h
    split at h <;> cases h
    rfl
  · intro c i e h
    simp only [driver, rollback] at h
    cases hr : (c.engine.rollback i).1 with
    | ok =>
      rw [hr] at h
      cases h
    | error f =>
      rw [hr] at h
      cases h
      rfl

end Client

end Sqlite

namespace Postgres.Client

variable {σ : Type} {S : Server σ}

theorem isPlain_of_beginOn {c : Client σ} {i : Nat} {e : Failure}
    (h : (c.beginOn S i).1 = .error e) : e.isPlain = true := by
  simp only [beginOn] at h
  split at h <;> cases h
  rfl

theorem isPlain_of_fetch {c : Client σ} {i : Nat} {st : Statement} {names : List String}
    {limit : Option Nat} {e : Failure} (h : (c.fetch S i st names limit).1 = .error e) :
    e.isPlain = true := by
  simp only [fetch] at h
  split at h
  · cases h
    rfl
  · refine error_of_readWithin (P := fun e => e.isPlain = true) (fun _ _ => rfl) ?_ h
    intro found hfound
    obtain ⟨cells, -, rfl⟩ := List.mem_map.mp hfound
    intro i e hc
    rw [sourceOf_error hc]
    rfl

theorem isPlain_of_finish {c : Client σ} {i : Nat} {sql action : String} {e : Failure}
    (h : (c.finish S i sql action).1 = .error e) : e.isPlain = true := by
  simp only [finish] at h
  split at h <;> cases h
  rfl

theorem plain_driver (S : Server σ) : (driver S).Plain := by
  constructor
  · intro c k e h
    simp only [driver, begin] at h
    split at h
    · cases h
      rfl
    · cases h
      rfl
    · exact isPlain_of_beginOn h
    · exact isPlain_of_beginOn h
  · intro c i call st e h
    cases call with
    | first names => exact isPlain_of_fetch (error_of_map h)
    | every names => exact isPlain_of_fetch h
    | affected =>
      simp only [driver, run] at h
      cases hr : (c.perform S i st).1 with
      | ok r =>
        rw [hr] at h
        cases h
      | error f =>
        rw [hr] at h
        cases h
        rfl
  · exact fun c i e h => isPlain_of_finish h
  · exact fun c i e h => isPlain_of_finish h

end Postgres.Client

theorem Backend.plain_driver : Backend.driver.Plain :=
  .numbered (.either Recording.plain_driver
    (.either Sqlite.Client.plain_driver (Postgres.Client.plain_driver _)))

end UnitOfWork
