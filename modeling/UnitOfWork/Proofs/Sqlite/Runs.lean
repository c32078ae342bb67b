import UnitOfWork.Proofs.Sqlite.Plans
import UnitOfWork.Proofs.Sqlite.Statements

namespace UnitOfWork.Sqlite

variable {t : Table} {clauses : List Clause}

theorem chosen_behind (t : Table) (clauses : List Clause) (before : List Value) :
    meetsAll (bound (before ++ Clause.bound clauses)) (Plan.choice t clauses before.length) =
      t.chosen clauses := by
  funext row
  have h := meetsAll_choice t clauses (bound before) row
  have hlength : (bound before).length = before.length := List.length_map _
  rw [hlength] at h
  rw [bound, List.map_append]
  exact h

theorem chosen_first (t : Table) (clauses : List Clause) :
    meetsAll (bound (Clause.bound clauses)) (Plan.choice t clauses 0) = t.chosen clauses :=
  chosen_behind t clauses []

def Table.shown (t : Table) (columns : List String) (row : List Cell) : List Cell :=
  columns.map fun name => (t.operand name).eval [] row

namespace Selection

theorem walk_perm (s : Selection) (t : Table) : (s.walk t).Perm t.rows := by
  unfold walk
  split
  · split
    · extract_lets rows
      have hrows : rows.Perm t.rows := List.mergeSort_perm _ _
      split
      · exact (List.reverse_perm rows).trans hrows
      · exact hrows
    · exact .refl _
  · exact .refl _

theorem matching_perm {s : Selection} {args : List Cell} (htable : s.table = some t)
    (hchosen : meetsAll args s.conditions = t.chosen clauses) :
    (s.matching args).Perm (t.rows.filter (t.chosen clauses)) := by
  rw [matching, htable, hchosen]
  exact (s.walk_perm t).filter _

def sorted (s : Selection) (args : List Cell) : List (List Cell) :=
  (s.matching args).mergeSort fun a b => compareRows args a b s.order != .gt

theorem run_eq_sorted (t : Table) (columns : List String) (clauses : List Clause)
    (args : List Cell) : (Plan.selected t columns clauses).run args =
      ((Plan.selected t columns clauses).sorted args).map (t.shown columns) := by
  have hcount : (Plan.selected t columns clauses).shown.contains .count = false := by
    simp [Plan.selected]
  have hshown : ∀ (row : List Cell) (total : Nat),
      (Plan.selected t columns clauses).shown.map (Shown.eval args total row) =
        t.shown columns row := by
    intro row total
    rw [Plan.selected, List.map_map]
    apply List.map_congr_left
    intro name hname
    exact t.eval_operand name args row
  rw [run, hcount, if_neg Bool.false_ne_true]
  simp only [hshown]
  rfl

theorem run_selected (t : Table) (columns : List String) (clauses : List Clause) :
    ∃ found : List (List Cell), found.Perm (t.rows.filter (t.chosen clauses)) ∧
      (Plan.selected t columns clauses).run (bound (Clause.bound clauses)) =
        found.map (t.shown columns) := by
  have hmatching := matching_perm (s := Plan.selected t columns clauses) rfl
    (chosen_first t clauses)
  exact ⟨_, (List.mergeSort_perm _ _).trans hmatching, run_eq_sorted t columns clauses _⟩

theorem run_counted (t : Table) (clauses : List Clause) :
    (Plan.counted t clauses).run (bound (Clause.bound clauses)) =
      [[.integer (Int64.ofNat (t.rows.countP (t.chosen clauses)))]] := by
  have hmatching := matching_perm (s := Plan.counted t clauses) rfl (chosen_first t clauses)
  have hlength := hmatching.length_eq
  rw [← List.countP_eq_length_filter] at hlength
  have hcount : (Plan.counted t clauses).shown.contains .count = true := rfl
  rw [run, if_pos hcount]
  dsimp only
  rw [hlength]
  rfl

end Selection

namespace Table

def Keeps (chosen : List Cell → Bool) (old new : List (List Cell)) : Prop :=
  ∃ aligned, new.Perm aligned ∧
    List.Forall₂ (fun before after => chosen before = false → after = before) old aligned

theorem Keeps.refl (chosen : List Cell → Bool) (rows : List (List Cell)) : Keeps chosen rows rows :=
  ⟨rows, .refl _, List.forall₂_same.mpr fun _ _ _ => rfl⟩

theorem arranged_perm (t : Table) (rows : List (List Cell)) : (t.arranged rows).Perm rows := by
  unfold arranged
  split
  · exact List.mergeSort_perm _ _
  · exact .refl _

theorem aligned_of_replaceRows {chosen : List Cell → Bool} {new : List Cell → List Cell}
    {before rows after : List (List Cell)} (h : t.replaceRows chosen new before rows = .ok after) :
    ∃ behind, after = before ++ behind ∧
      List.Forall₂ (fun before after => chosen before = false → after = before) rows behind := by
  induction rows generalizing before with
  | nil =>
    cases h
    exact ⟨[], (List.append_nil _).symm, .nil⟩
  | cons row rows ih =>
    rw [replaceRows] at h
    split at h
    · rename_i hrow
      split at h
      · cases h
      · rename_i row' haccept
        obtain ⟨behind, rfl, hbehind⟩ := ih h
        refine ⟨row' :: behind, by simp, .cons ?_ hbehind⟩
        intro hnot
        rw [hrow] at hnot
        cases hnot
    · obtain ⟨behind, rfl, hbehind⟩ := ih h
      exact ⟨row :: behind, by simp, .cons (fun _ => rfl) hbehind⟩

theorem keeps_of_update {chosen : List Cell → Bool} {new : List Cell → List Cell} {t' : Table}
    (h : t.update chosen new = .ok t') :
    ∃ rows, t' = { t with rows := rows } ∧ Keeps chosen t.rows rows := by
  rw [update] at h
  split at h
  · cases h
  · rename_i rows hrows
    obtain ⟨aligned, hbehind, haligned⟩ := aligned_of_replaceRows hrows
    rw [List.nil_append] at hbehind
    cases h
    exact ⟨_, rfl, aligned, hbehind ▸ t.arranged_perm rows, haligned⟩

end Table

namespace Catalog

structure Alters (c c' : Catalog) (name : String) (t : Table) : Prop where
  found : c'.find? name = some t
  others : ∀ other, folded other ≠ folded name → c'.find? other = c.find? other

variable {c : Catalog} {name : String} {t' : Table}

theorem Alters.refl (htable : c.find? name = some t) : c.Alters c name t :=
  ⟨htable, fun _ _ => rfl⟩

theorem find?_replace (htable : c.find? name = some t) (hname : t'.name = t.name)
    (other : String) :
    (c.replace t').find? other = if folded other = folded name then some t' else c.find? other := by
  have hfolded : folded t.name = folded name := by simpa using List.find?_some htable
  have hsame : ∀ u : Table,
      folded (if folded u.name = folded t'.name then t' else u).name = folded u.name := by
    intro u
    split
    · exact ‹_ = _›.symm
    · rfl
  have hfind : (c.replace t').find? other = (c.find? other).map fun u =>
      if folded u.name = folded t'.name then t' else u := by
    rw [find?, replace, List.find?_map]
    simp only [Function.comp_def, hsame]
    rfl
  rw [hfind, hname, hfolded]
  by_cases hother : folded other = folded name
  · have hfound : c.find? other = some t := by
      rw [← htable]
      simp only [find?, hother]
    rw [hfound, if_pos hother, Option.map_some, if_pos hfolded]
  · rw [if_neg hother]
    cases hfound : c.find? other with
    | none => rfl
    | some u =>
      have hu : folded u.name = folded other := by simpa using List.find?_some hfound
      rw [Option.map_some, if_neg (by rwa [hu])]

theorem alters_replace (htable : c.find? name = some t) (hname : t'.name = t.name) :
    c.Alters (c.replace t') name t' := by
  constructor
  · rw [find?_replace htable hname, if_pos rfl]
  · intro other hother
    rw [find?_replace htable hname, if_neg hother]

end Catalog

namespace Plan

variable {c c' : Catalog} {name : String} {args : List Cell} {conditions : List (Condition Operand)}
  {chosen : List Cell → Bool}

theorem run_delete (htable : c.find? name = some t) (hchosen : meetsAll args conditions = chosen) :
    ∃ c', (Plan.delete t conditions).run c args = .ok (.changed (t.rows.countP chosen), c') ∧
      c.Alters c' name (t.delete chosen) := by
  rw [run, hchosen]
  refine ⟨_, rfl, ?_⟩
  split
  · rename_i hnone
    have hsame : t.delete chosen = t := by
      have hrows : t.rows.filter (fun row => !chosen row) = t.rows := by
        rw [List.filter_eq_self]
        intro row hrow
        rw [List.countP_eq_zero] at hnone
        simpa using hnone row hrow
      rw [Table.delete, hrows]
    rw [hsame]
    exact .refl htable
  · exact Catalog.alters_replace htable rfl

theorem run_update (htable : c.find? name = some t) (hchosen : meetsAll args conditions = chosen)
    {assignments : List (Nat × Operand)} {o : Outcome}
    (h : (Plan.update t assignments conditions).run c args = .ok (o, c')) :
    o = .changed (t.rows.countP chosen) ∧
      ∃ rows, c.Alters c' name { t with rows := rows } ∧ Table.Keeps chosen t.rows rows := by
  rw [run, hchosen] at h
  obtain ⟨t', ht', h⟩ := ok_of_bind h
  obtain ⟨rows, rfl, hkeeps⟩ := Table.keeps_of_update ht'
  cases h
  refine ⟨rfl, ?_⟩
  split
  · exact ⟨t.rows, .refl htable, .refl _ _⟩
  · exact ⟨rows, Catalog.alters_replace htable rfl, hkeeps⟩

end Plan

end UnitOfWork.Sqlite
