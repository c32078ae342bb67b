import UnitOfWork.Proofs.Statement.Template

namespace UnitOfWork

namespace Template

theorem spread_eq_map_zipIdx {α β : Type} (f : Nat → α → β) (k : Nat) (as : List α) :
    spread 1 f k as = (as.zipIdx k).map fun e => f e.2 e.1 := by
  induction as generalizing k with
  | nil => rfl
  | cons a as ih => rw [spread, List.zipIdx_cons, List.map_cons, ih]

theorem spread_ordinals {α β : Type} (f : Nat → β) (k : Nat) (as : List α) :
    spread 1 (fun k _ => f k) k as = (List.range' k as.length).map f := by
  induction as generalizing k with
  | nil => rfl
  | cons a as ih => rw [spread, ih, List.length_cons, List.range'_succ, List.map_cons]

theorem fill_commas {α : Type} (mark : Nat → String) {g : Nat} {template : α → Template}
    (h : ∀ a, (template a).gaps = g) (k : Nat) (as : List α) :
    fill mark k (commas (as.map template)) =
      ", ".intercalate (spread g (fun k a => fill mark k (template a)) k as) := by
  induction as generalizing k with
  | nil => simp [commas, spread, fill]
  | cons a as ih =>
    cases as with
    | nil => simp [commas, spread]
    | cons b bs =>
      have hrest := ih (k + g)
      rw [List.map_cons, spread] at hrest
      rw [List.map_cons, List.map_cons, commas, fill_append, fill, h, hrest, spread, spread,
        String.intercalate_cons_cons, String.append_assoc]

theorem fill_columns (mark : Nat → String) (k : Nat) (names : List String) :
    fill mark k (columns names) = ", ".intercalate names := by
  rw [columns, fill_commas mark (g := 0) (fun _ => rfl)]
  simp only [fill, String.append_empty]
  rw [spread_plain, List.map_id']

theorem fill_marks {α : Type} (mark : Nat → String) (k : Nat) (as : List α) :
    fill mark k (commas (as.map fun _ => [.gap])) =
      ", ".intercalate ((List.range' k as.length).map mark) := by
  rw [fill_commas mark (g := 1) (fun _ => rfl)]
  simp only [fill, String.append_empty]
  rw [spread_ordinals]

theorem fill_assignments (mark : Nat → String) (k : Nat) (names : List String) :
    fill mark k (assignments names) =
      ", ".intercalate ((names.zipIdx k).map fun e => e.1 ++ " = " ++ mark e.2) := by
  rw [assignments, fill_commas mark (g := 1) (fun _ => rfl), spread_eq_map_zipIdx]
  simp only [fill, String.append_empty, String.append_assoc]

end Template

open Template (fill)

namespace Predicate

def wording (mark : Nat → String) (k : Nat) : Predicate → String
  | compare column comparison _ => column ++ " " ++ comparison.sign ++ " " ++ mark k
  | null column negated => column ++ if negated then " is not null" else " is null"
  | among _ [] => "1 = 0"
  | among column (v :: vs) =>
    column ++ " in (" ++ ", ".intercalate ((List.range' k (v :: vs).length).map mark) ++ ")"

theorem fill_template (mark : Nat → String) (k : Nat) (p : Predicate) :
    fill mark k p.template = p.wording mark k := by
  cases p with
  | compare column comparison v =>
    simp only [template, fill, wording, String.append_assoc, String.append_empty]
  | null column negated => simp only [template, fill, wording, String.append_empty]
  | among column vs => cases vs with
    | nil => rfl
    | cons v vs =>
      simp only [template, List.cons_append, List.nil_append, fill, Template.fill_append,
        Template.fill_marks, wording, String.append_assoc, String.append_empty]

def wordings (mark : Nat → String) : Nat → List Predicate → List String
  | _, [] => []
  | k, p :: ps =>
    ("(" ++ p.wording mark k ++ ")") :: wordings mark (k + p.values.length) ps

end Predicate

def SortKey.wording (k : SortKey) : String := k.column ++ if k.ascending then " asc" else " desc"

namespace Clause

def whereText (mark : Nat → String) (k : Nat) (ps : List Predicate) : String :=
  if ps = [] then "" else " where " ++ " and ".intercalate (Predicate.wordings mark k ps)

def orderText (keys : List SortKey) : String :=
  if keys = [] then "" else " order by " ++ ", ".intercalate (keys.map SortKey.wording)

variable (mark : Nat → String) (k : Nat)

theorem fill_conditions (joint : String) (p : Predicate) (ps : List Predicate) :
    fill mark k (Template.conditions (joint ++ "(") (p :: ps)) =
      joint ++ " and ".intercalate (Predicate.wordings mark k (p :: ps)) := by
  induction ps generalizing joint k p with
  | nil =>
    simp only [Template.conditions, Predicate.wordings, fill, Template.fill_append,
      p.fill_template, String.intercalate_singleton, String.append_assoc, String.append_empty]
  | cons q ps ih =>
    have hrest := ih (k + p.values.length) " and " q
    have hjoint : " and " ++ "(" = " and (" := by decide
    rw [hjoint] at hrest
    rw [Template.conditions, fill, Template.fill_append, fill, p.fill_template, p.writes.gaps,
      hrest]
    simp only [Predicate.wordings, String.intercalate_cons_cons, String.append_assoc]

theorem fill_choice (cs : List Clause) :
    fill mark k (Template.choice cs) = whereText mark k (cs.filterMap predicate?) := by
  rw [Template.choice, whereText]
  cases cs.filterMap predicate? with
  | nil => rfl
  | cons p ps =>
    have hopening : " where (" = " where " ++ "(" := by decide
    rw [hopening, fill_conditions, if_neg (List.cons_ne_nil p ps)]

theorem fill_order (cs : List Clause) :
    fill mark k (Template.order cs) = orderText (cs.flatMap sortKeys) := by
  rw [Template.order, orderText]
  cases cs.flatMap sortKeys with
  | nil => rfl
  | cons key keys =>
    have hkey : (fun k a => fill mark k (SortKey.template a)) = fun _ => SortKey.wording := by
      funext k a
      simp only [SortKey.template, fill, SortKey.wording, String.append_empty]
    rw [Template.sorted, fill, Template.fill_commas mark (g := 0) (fun _ => rfl), hkey,
      Template.spread_plain, if_neg (List.cons_ne_nil key keys)]

end Clause

namespace Statement

open Clause (whereText orderText bound)
open Template (fill_append fill_columns fill_marks fill_assignments)

variable (d : Dialect) (table : String) (row : Row) (clauses : List Clause)

theorem select_eq (columns : List String) :
    select d columns table clauses =
      ⟨"select " ++ ", ".intercalate columns ++ " from " ++ table ++
        whereText d.placeholder 1 (clauses.filterMap Clause.predicate?) ++
        orderText (clauses.flatMap Clause.sortKeys), bound clauses⟩ := by
  have hselect := Except.ok.inj ((select_spells table clauses columns).eq d)
  have hgaps : (Template.columns columns).gaps = 0 := (Draft.writes_columns columns).gaps
  rw [hselect, Template.statement, Template.select]
  simp only [List.append_assoc, List.cons_append, List.nil_append, fill, fill_append,
    fill_columns, hgaps, Nat.add_zero, Clause.fill_choice, Clause.fill_order, String.append_assoc]

theorem count_eq :
    count d table clauses =
      ⟨"select count(*) from " ++ table ++
        whereText d.placeholder 1 (clauses.filterMap Clause.predicate?), bound clauses⟩ := by
  have hcount := Except.ok.inj ((count_spells table clauses).eq d)
  rw [hcount, Template.statement, Template.count]
  simp only [List.cons_append, List.nil_append, fill, Clause.fill_choice, String.append_assoc]

theorem delete_eq :
    delete d table clauses =
      ⟨"delete from " ++ table ++
        whereText d.placeholder 1 (clauses.filterMap Clause.predicate?), bound clauses⟩ := by
  have hdelete := Except.ok.inj ((delete_spells table clauses).eq d)
  rw [hdelete, Template.statement, Template.delete]
  simp only [List.cons_append, List.nil_append, fill, Clause.fill_choice, String.append_assoc]

variable {row} (h : row.isEmpty = false)
include h

theorem insert_eq :
    insert d table row =
      .ok ⟨"insert into " ++ table ++ " (" ++ ", ".intercalate row.keys ++ ") values (" ++
        ", ".intercalate ((List.range' 1 row.keys.length).map d.placeholder) ++ ")",
        row.values⟩ := by
  have hgaps : (Template.columns row.keys).gaps = 0 := (Draft.writes_columns row.keys).gaps
  rw [(insert_spells table row h).eq d, Template.statement, Template.insert]
  simp only [List.append_assoc, List.cons_append, List.nil_append, fill, fill_append,
    fill_columns, fill_marks, hgaps, Nat.add_zero, String.append_assoc, String.append_empty]

theorem update_eq :
    update d table row clauses =
      .ok ⟨"update " ++ table ++ " set " ++
        ", ".intercalate ((row.keys.zipIdx 1).map fun e => e.1 ++ " = " ++ d.placeholder e.2) ++
        whereText d.placeholder (row.keys.length + 1) (clauses.filterMap Clause.predicate?),
        row.values ++ bound clauses⟩ := by
  have hgaps : (Template.assignments row.keys).gaps = row.keys.length := by
    have hentries := (Draft.writes_assignments row.toList).gaps
    rwa [List.length_map, ← List.length_map Prod.fst] at hentries
  rw [(update_spells table row clauses h).eq d, Template.statement, Template.update]
  simp only [List.cons_append, List.nil_append, fill, fill_append, fill_assignments, hgaps,
    Clause.fill_choice, String.append_assoc, Nat.add_comm 1]

end Statement

end UnitOfWork
