import Mathlib.Data.List.Forall2
import UnitOfWork.Proofs.Statement.Template
import UnitOfWork.Request

namespace UnitOfWork

inductive Predicate.Alike : Predicate → Predicate → Prop where
  | compare (column : String) (comparison : Comparison) (v w : Value) :
    Alike (.compare column comparison v) (.compare column comparison w)
  | null (column : String) (negated : Bool) : Alike (.null column negated) (.null column negated)
  | among (column : String) (vs ws : List Value) (h : vs.length = ws.length) :
    Alike (.among column vs) (.among column ws)

inductive Clause.Alike : Clause → Clause → Prop where
  | filter {p q : Predicate} (h : p.Alike q) : Alike (.filter p) (.filter q)
  | sort (first : SortKey) (others : List SortKey) :
    Alike (.sort first others) (.sort first others)

theorem Predicate.Alike.template_eq {p q : Predicate} (h : p.Alike q) :
    p.template = q.template := by
  cases h with
  | compare column comparison v w => rfl
  | null column negated => rfl
  | among column vs ws h =>
    -- an empty list is written in another way, so both lists have to be empty or neither
    cases vs with
    | nil =>
      have hws : ws = [] := List.length_eq_zero_iff.mp h.symm
      rw [hws]
    | cons v vs =>
      cases ws with
      | nil => simp at h
      | cons w ws =>
        have hgaps : (v :: vs).map (fun _ => [Part.gap]) = (w :: ws).map fun _ => [Part.gap] := by
          rw [List.map_const', List.map_const', h]
        simp only [template, hgaps]

namespace Clause

variable {cs ds : List Clause}

theorem predicates_of_alike (h : List.Forall₂ Alike cs ds) :
    List.Forall₂ Predicate.Alike (cs.filterMap predicate?) (ds.filterMap predicate?) := by
  induction h with
  | nil => exact .nil
  | cons hc _ ih =>
    cases hc with
    | filter hp => exact .cons hp ih
    | sort first others => exact ih

theorem conditions_of_alike {ps qs : List Predicate} (h : List.Forall₂ Predicate.Alike ps qs)
    (joint : String) : Template.conditions joint ps = Template.conditions joint qs := by
  induction h generalizing joint with
  | nil => rfl
  | cons hp _ ih => simp only [Template.conditions, hp.template_eq, ih]

theorem choice_of_alike (h : List.Forall₂ Alike cs ds) :
    Template.choice cs = Template.choice ds :=
  conditions_of_alike (predicates_of_alike h) " where ("

theorem order_of_alike (h : List.Forall₂ Alike cs ds) :
    Template.order cs = Template.order ds := by
  have hkeys : cs.flatMap sortKeys = ds.flatMap sortKeys := by
    induction h with
    | nil => rfl
    | cons hc _ ih =>
      cases hc with
      | filter hp => exact ih
      | sort first others => simp only [List.flatMap_cons, ih]
  rw [Template.order, Template.order, hkeys]

end Clause

namespace Request

inductive Alike : Request → Request → Prop where
  | one {columns : List String} {table : String} {cs ds : List Clause}
      (h : List.Forall₂ Clause.Alike cs ds) :
    Alike (.one columns table cs) (.one columns table ds)
  | many {columns : List String} {table : String} {cs ds : List Clause}
      (h : List.Forall₂ Clause.Alike cs ds) :
    Alike (.many columns table cs) (.many columns table ds)
  | count {table : String} {cs ds : List Clause} (h : List.Forall₂ Clause.Alike cs ds) :
    Alike (.count table cs) (.count table ds)
  | insert {table : String} {row row' : Row} (hkeys : row.keys = row'.keys) :
    Alike (.insert table row) (.insert table row')
  | update {table : String} {row row' : Row} {cs ds : List Clause} (hkeys : row.keys = row'.keys)
      (h : List.Forall₂ Clause.Alike cs ds) :
    Alike (.update table row cs) (.update table row' ds)
  | delete {table : String} {cs ds : List Clause} (h : List.Forall₂ Clause.Alike cs ds) :
    Alike (.delete table cs) (.delete table ds)

def values : Request → List Value
  | one _ _ clauses | many _ _ clauses | count _ clauses | delete _ clauses => Clause.bound clauses
  | insert _ row => row.values
  | update _ row clauses => row.values ++ Clause.bound clauses
  | exec statement => statement.args

def storesNothing : Request → Bool
  | insert _ row | update _ row _ => row.isEmpty
  | one _ _ _ | many _ _ _ | count _ _ | delete _ _ | exec _ => false

open Statement

theorem isEmpty_of_keys {row row' : Row} (hkeys : row.keys = row'.keys) :
    row'.isEmpty = row.isEmpty := by
  have hempty : row.keys.isEmpty = row'.keys.isEmpty := by rw [hkeys]
  rw [Row.keys, Row.keys, List.isEmpty_map, List.isEmpty_map] at hempty
  exact hempty.symm

variable {q q' : Request}

theorem Alike.spells (h : Alike q q') (hstores : q.storesNothing = false) :
    ∃ t, Spells (fun d => q.statement d) t q.values ∧
      Spells (fun d => q'.statement d) t q'.values := by
  cases h with
  | @one columns table cs ds hclauses | @many columns table cs ds hclauses =>
    have hds := select_spells table ds columns
    rw [Template.select, ← Clause.choice_of_alike hclauses, ← Clause.order_of_alike hclauses]
      at hds
    exact ⟨_, select_spells table cs columns, hds⟩
  | @count table cs ds hclauses =>
    have hds := count_spells table ds
    rw [Template.count, ← Clause.choice_of_alike hclauses] at hds
    exact ⟨_, count_spells table cs, hds⟩
  | @insert table row row' hkeys =>
    have hrow' := insert_spells table row' ((isEmpty_of_keys hkeys).trans hstores)
    rw [← hkeys] at hrow'
    exact ⟨_, insert_spells table row hstores, hrow'⟩
  | @update table row row' cs ds hkeys hclauses =>
    have hds := update_spells table row' ds ((isEmpty_of_keys hkeys).trans hstores)
    rw [Template.update, ← hkeys, ← Clause.choice_of_alike hclauses] at hds
    exact ⟨_, update_spells table row cs hstores, hds⟩
  | @delete table cs ds hclauses =>
    have hds := delete_spells table ds
    rw [Template.delete, ← Clause.choice_of_alike hclauses] at hds
    exact ⟨_, delete_spells table cs, hds⟩

theorem Alike.refused (h : Alike q q') (hstores : q.storesNothing = true) (d : Dialect) :
    ∃ e, q.statement d = .error e ∧ q'.statement d = .error e := by
  cases h with
  | one | many | count | delete => cases hstores
  | insert hkeys =>
    have hrow' := (isEmpty_of_keys hkeys).trans hstores
    exact ⟨_, if_pos hstores, if_pos hrow'⟩
  | update hkeys hclauses =>
    have hrow' := (isEmpty_of_keys hkeys).trans hstores
    exact ⟨_, if_pos hstores, if_pos hrow'⟩

/-- The text of a statement does not depend on its values, which are its arguments, in order. -/
theorem statement_of_alike (h : Alike q q') (d : Dialect) :
    if q.storesNothing then ∃ e, q.statement d = .error e ∧ q'.statement d = .error e
    else ∃ sql, q.statement d = .ok ⟨sql, q.values⟩ ∧ q'.statement d = .ok ⟨sql, q'.values⟩ ∧
      q.values.length = q'.values.length := by
  cases hstores : q.storesNothing with
  | true =>
    rw [if_pos rfl]
    exact h.refused hstores d
  | false =>
    rw [if_neg (by simp)]
    obtain ⟨t, hq, hq'⟩ := h.spells hstores
    have hlength : q.values.length = q'.values.length := hq.gaps.symm.trans hq'.gaps
    exact ⟨t.fill d.placeholder 1, hq.eq d, hq'.eq d, hlength⟩

theorem statement_of_alike_update :
    ∃ sql,
      (update "t" (.ofList [("a", .text "x"), ("b", .int 1)])
        [.filter (.among "c" [.text "y", .text "z"])]).statement .postgres =
          .ok ⟨sql, [.text "x", .int 1, .text "y", .text "z"]⟩ ∧
      (update "t" (.ofList [("a", .text "1; drop table t"), ("b", .null)])
        [.filter (.among "c" [.int 2, .null])]).statement .postgres =
          .ok ⟨sql, [.text "1; drop table t", .null, .int 2, .null]⟩ := by
  have hclauses : List.Forall₂ Clause.Alike
      [.filter (.among "c" [.text "y", .text "z"])] [.filter (.among "c" [.int 2, .null])] :=
    .cons (.filter (.among "c" _ _ rfl)) .nil
  have hkeys : (Row.ofList [("a", .text "x"), ("b", .int 1)]).keys =
      (Row.ofList [("a", .text "1; drop table t"), ("b", .null)]).keys := by decide
  obtain ⟨sql, hq, hq', -⟩ := statement_of_alike (.update hkeys hclauses) .postgres
  exact ⟨sql, hq, hq'⟩

end Request

end UnitOfWork
