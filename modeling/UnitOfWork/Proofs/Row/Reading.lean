import Mathlib.Data.List.Forall2
import UnitOfWork.Recording
import UnitOfWork.Row.Reading

namespace UnitOfWork

structure FirstOfAll {α : Type} (one : List α → Except Failure (Option Row))
    (many : List α → Except Failure (List Row)) : Prop where
  none_iff : ∀ steps, one steps = .ok none ↔ many steps = .ok []
  head : ∀ steps r rs, many steps = .ok (r :: rs) → one steps = .ok (some r)
  error : ∀ steps e, one steps = .error e → many steps = .error e
  later : ∀ steps steps', steps.head? = steps'.head? → one steps = one steps'

section traversals

variable {α β ε : Type} (f : α → Except ε β)

theorem map_head?_mapM_take_one (steps : List α) :
    ((steps.take 1).mapM f).map List.head? = steps.head?.mapM f := by
  cases steps with
  | nil => rfl
  | cons a steps =>
    simp only [List.take_succ_cons, List.take_zero, List.mapM_cons, List.mapM_nil, List.head?_cons,
      Option.mapM_some]
    cases f a <;> rfl

theorem map_getLast?_mapM_take_one (steps : List α) :
    ((steps.take 1).mapM f).map List.getLast? = steps.head?.mapM f := by
  cases steps with
  | nil => rfl
  | cons a steps =>
    simp only [List.take_succ_cons, List.take_zero, List.mapM_cons, List.mapM_nil, List.head?_cons,
      Option.mapM_some]
    cases f a <;> rfl

variable {f} in
theorem forall₂_of_mapM {as : List α} {bs : List β} (h : as.mapM f = .ok bs) :
    List.Forall₂ (fun a b => f a = .ok b) as bs := by
  induction as generalizing bs with
  | nil =>
    cases h
    exact .nil
  | cons a as ih =>
    rw [List.mapM_cons] at h
    cases ha : f a with
    | error e =>
      rw [ha] at h
      cases h
    | ok b =>
      cases hrest : as.mapM f with
      | error e =>
        rw [ha, hrest] at h
        cases h
      | ok bs' =>
        rw [ha, hrest] at h
        cases h
        exact .cons ha (ih hrest)

variable {f} in
theorem first_error_of_mapM {as : List α} {e : ε} (h : as.mapM f = .error e) :
    ∃ before a behind, as = before ++ a :: behind ∧ f a = .error e ∧
      ∀ b ∈ before, ∃ c, f b = .ok c := by
  induction as with
  | nil => cases h
  | cons a as ih =>
    rw [List.mapM_cons] at h
    cases ha : f a with
    | error e' =>
      rw [ha] at h
      cases h
      exact ⟨[], a, as, rfl, ha, nofun⟩
    | ok b =>
      cases hrest : as.mapM f with
      | error e' =>
        rw [ha, hrest] at h
        cases h
        obtain ⟨before, a', behind, rfl, ha', hbefore⟩ := ih hrest
        refine ⟨a :: before, a', behind, rfl, ha', ?_⟩
        exact List.forall_mem_cons.mpr ⟨⟨b, ha⟩, hbefore⟩
      | ok bs =>
        rw [ha, hrest] at h
        cases h

variable {f} in
theorem error_of_mapM {steps : List α} {e : ε} (h : steps.mapM f = .error e) :
    ∃ a ∈ steps, f a = .error e := by
  obtain ⟨before, a, behind, rfl, ha, -⟩ := first_error_of_mapM h
  exact ⟨a, List.mem_append_cons_self, ha⟩

variable {f} in
theorem length_of_mapM {steps : List α} {bs : List β} (h : steps.mapM f = .ok bs) :
    bs.length = steps.length :=
  (forall₂_of_mapM h).length_eq.symm

theorem firstOfAll_mapM (f : α → Except Failure Row) :
    FirstOfAll (fun steps => steps.head?.mapM f) (fun steps => steps.mapM f) := by
  constructor
  case later => exact fun steps steps' h => congrArg (Option.mapM f) h
  all_goals
    intro steps
    cases steps with
    | nil => simp [pure, Except.pure]
    | cons a steps =>
      simp only [List.mapM_cons, List.head?_cons, Option.mapM_some]
      cases f a with
      | error e => simp [bind, Except.bind, Functor.map, Except.map]
      | ok r =>
        cases steps.mapM f <;> simp [bind, Except.bind, Functor.map, Except.map, pure, Except.pure]

end traversals

variable (names : List String)

theorem readThrough_none (taken : Nat) (steps : List Found) :
    readThrough names none taken steps = steps.mapM (Found.row names) := by
  induction steps generalizing taken with
  | nil => rfl
  | cons found rest ih =>
    simp only [readThrough, List.mapM_cons, Option.any_none, ih]
    cases found.row names <;> cases rest.mapM (Found.row names) <;> rfl

theorem readWithin_none (taken : Nat) (steps : List Found) :
    readWithin names none taken steps = steps.mapM (Found.row names) := by
  induction steps generalizing taken with
  | nil => rfl
  | cons found rest ih =>
    simp only [readWithin, List.mapM_cons, Option.any_none, ih]
    cases found.row names <;> cases rest.mapM (Found.row names) <;> rfl

theorem readThrough_some (limit taken : Nat) (steps : List Found) :
    readThrough names (some limit) taken steps =
      (steps.take (max 1 (limit - taken))).mapM (Found.row names) := by
  induction steps generalizing taken with
  | nil => rw [List.take_nil]; rfl
  | cons found rest ih =>
    rw [readThrough]
    -- the limit is looked at behind the row, which is therefore read whatever the limit
    by_cases hlast : limit ≤ taken + 1
    · rw [show max 1 (limit - taken) = 0 + 1 by omega, List.take_succ_cons, List.mapM_cons]
      simp only [Option.any_some, hlast, decide_true, if_true, List.take_zero, List.mapM_nil]
      cases found.row names <;> rfl
    · rw [show max 1 (limit - taken) = max 1 (limit - (taken + 1)) + 1 by omega,
        List.take_succ_cons, List.mapM_cons, ih]
      simp only [Option.any_some, hlast, decide_false]
      cases found.row names <;>
        cases (rest.take (max 1 (limit - (taken + 1)))).mapM (Found.row names) <;> rfl

theorem readWithin_some (limit taken : Nat) (steps : List Found) :
    readWithin names (some limit) taken steps =
      (steps.take (limit - taken)).mapM (Found.row names) := by
  induction steps generalizing taken with
  | nil => rw [List.take_nil]; rfl
  | cons found rest ih =>
    rw [readWithin]
    by_cases hfull : limit ≤ taken
    · rw [Nat.sub_eq_zero_of_le hfull, List.take_zero]
      simp only [Option.any_some, hfull, decide_true, if_true]
      rfl
    · rw [show limit - taken = limit - (taken + 1) + 1 by omega, List.take_succ_cons,
        List.mapM_cons, ih]
      simp only [Option.any_some, hfull, decide_false]
      cases found.row names <;>
        cases (rest.take (limit - (taken + 1))).mapM (Found.row names) <;> rfl

theorem firstOfAll_readThrough :
    FirstOfAll (fun steps => (readThrough names (some 1) 0 steps).map List.head?)
      (readThrough names none 0) := by
  have hone : (fun steps => (readThrough names (some 1) 0 steps).map List.head?) =
      fun steps => steps.head?.mapM (Found.row names) := by
    funext steps
    rw [readThrough_some]
    exact map_head?_mapM_take_one _ steps
  rw [hone, funext (readThrough_none names 0)]
  exact firstOfAll_mapM _

theorem firstOfAll_readWithin :
    FirstOfAll (fun steps => (readWithin names (some 1) 0 steps).map List.getLast?)
      (readWithin names none 0) := by
  have hone : (fun steps => (readWithin names (some 1) 0 steps).map List.getLast?) =
      fun steps => steps.head?.mapM (Found.row names) := by
    funext steps
    rw [readWithin_some, map_getLast?_mapM_take_one]
  rw [hone, funext (readWithin_none names 0)]
  exact firstOfAll_mapM _

namespace Recording

theorem materializeAll_eq (rows : List (List Value)) :
    materializeAll names rows = rows.mapM (materialize names) := by
  induction rows with
  | nil => rfl
  | cons row rows ih =>
    simp only [materializeAll, List.mapM_cons, ih]
    cases materialize names row <;> cases rows.mapM (materialize names) <;> rfl

theorem materializeFirst_eq (rows : List (List Value)) :
    materializeFirst names rows = rows.head?.mapM (materialize names) := by
  cases rows <;> rfl

theorem firstOfAll : FirstOfAll (materializeFirst names) (materializeAll names) := by
  rw [funext (materializeFirst_eq names), funext (materializeAll_eq names)]
  exact firstOfAll_mapM _

example : (materializeFirst ["a"] [[.int 1], []]).isOk = true ∧
    (materializeAll ["a"] [[.int 1], []]).isOk = false := by decide +kernel

end Recording

end UnitOfWork
