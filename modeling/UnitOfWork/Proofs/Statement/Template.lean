import UnitOfWork.Statement.Render

/-!
Statements as texts with gaps: a dialect puts a placeholder into each gap, and each gap has an
argument. Main statements: which text with gaps each writer of a draft appends, and which one each
kind of statement is.
-/
namespace UnitOfWork

inductive Part where
  | text (s : String)
  | gap
deriving DecidableEq

abbrev Template := List Part

namespace Template

def gaps : Template → Nat
  | [] => 0
  | .text _ :: t => gaps t
  | .gap :: t => gaps t + 1

def fill (mark : Nat → String) : Nat → Template → String
  | _, [] => ""
  | k, .text s :: t => s ++ fill mark k t
  | k, .gap :: t => mark k ++ fill mark (k + 1) t

def statement (d : Dialect) (t : Template) (args : List Value) : Statement :=
  ⟨fill d.placeholder 1 t, args⟩

theorem gaps_append (t u : Template) : gaps (t ++ u) = gaps t + gaps u := by
  induction t with
  | nil => simp [gaps]
  | cons p t ih =>
    cases p with
    | text s => simpa only [List.cons_append, gaps] using ih
    | gap =>
      simp only [List.cons_append, gaps, ih]
      omega

theorem fill_append (mark : Nat → String) (k : Nat) (t u : Template) :
    fill mark k (t ++ u) = fill mark k t ++ fill mark (k + gaps t) u := by
  induction t generalizing k with
  | nil => simp [fill, gaps]
  | cons p t ih =>
    cases p with
    | text s => simp only [List.cons_append, fill, gaps, ih, String.append_assoc]
    | gap =>
      have hk : k + 1 + gaps t = k + (gaps t + 1) := by omega
      simp only [List.cons_append, fill, gaps, ih, String.append_assoc, hk]

def commas : List Template → Template
  | [] => []
  | [t] => t
  | t :: u :: rest => t ++ .text ", " :: commas (u :: rest)

theorem commas_cons_append (t u : Template) (ts us : List Template) :
    commas (t :: ts ++ u :: us) = commas (t :: ts) ++ .text ", " :: commas (u :: us) := by
  induction ts generalizing t with
  | nil => rfl
  | cons s ts ih =>
    have hs := ih s
    simp only [List.cons_append] at hs ⊢
    rw [commas, hs, commas]
    simp only [List.append_assoc, List.cons_append]

def spread {α β : Type} (g : Nat) (f : Nat → α → β) : Nat → List α → List β
  | _, [] => []
  | k, a :: as => f k a :: spread g f (k + g) as

theorem spread_plain {α β : Type} (g : Nat) (f : α → β) (k : Nat) (as : List α) :
    spread g (fun _ => f) k as = as.map f := by
  induction as generalizing k with
  | nil => rfl
  | cons a as ih => rw [spread, ih, List.map_cons]

theorem map_spread {α β γ : Type} (g : Nat) (f : Nat → α → β) (h : β → γ) (k : Nat)
    (as : List α) : (spread g f k as).map h = spread g (fun k a => h (f k a)) k as := by
  induction as generalizing k with
  | nil => rfl
  | cons a as ih => rw [spread, List.map_cons, ih, spread]

end Template

namespace Draft

/-- A writer appends a text with gaps, and an argument for each gap. -/
structure Writes (f : Draft → Draft) (t : Template) (vs : List Value) : Prop where
  gaps : Template.gaps t = vs.length
  eq : ∀ d, f d = ⟨d.dialect, d.sql ++ Template.fill d.dialect.placeholder (d.args.length + 1) t,
    d.args ++ vs⟩

namespace Writes

variable {f g : Draft → Draft} {t u : Template} {vs ws : List Value}

theorem nothing : Writes (fun d => d) [] [] := by
  constructor
  · rfl
  · intro d
    simp [Template.fill]

theorem text (s : String) : Writes (Draft.text s) [.text s] [] := by
  constructor
  · rfl
  · intro d
    simp [Draft.text, Template.fill]

theorem char (c : Char) : Writes (Draft.char c) [.text (.singleton c)] [] := by
  constructor
  · rfl
  · intro d
    simp only [Draft.char, Template.fill, String.push_eq_append, String.append_empty,
      List.append_nil]

theorem bind (v : Value) : Writes (Draft.bind v) [.gap] [v] := by
  constructor
  · rfl
  · intro d
    simp [Draft.bind, Template.fill]

theorem andThen (hf : Writes f t vs) (hg : Writes g u ws) :
    Writes (fun d => g (f d)) (t ++ u) (vs ++ ws) := by
  constructor
  · rw [Template.gaps_append, hf.gaps, hg.gaps, List.length_append]
  · intro d
    have hk : d.args.length + 1 + Template.gaps t = (d.args ++ vs).length + 1 := by
      rw [hf.gaps, List.length_append]
      omega
    rw [hf.eq, hg.eq, Template.fill_append, hk]
    simp only [String.append_assoc, List.append_assoc]

theorem commas {α : Type} {write : α → Draft → Draft} {template : α → Template}
    {values : α → List Value} (h : ∀ a, Writes (write a) (template a) (values a)) (as : List α) :
    Writes (Draft.commas write as) (Template.commas (as.map template)) (as.flatMap values) := by
  induction as with
  | nil => exact nothing
  | cons a as ih =>
    cases as with
    | nil =>
      rw [List.flatMap_cons, List.flatMap_nil, List.append_nil]
      exact h a
    | cons b as =>
      have hrest := ((h a).andThen (text ", ")).andThen ih
      rw [List.append_nil, List.append_assoc] at hrest
      exact hrest

theorem commas_text {α : Type} {write : α → Draft → Draft} {template : α → Template}
    (h : ∀ a, Writes (write a) (template a) []) (as : List α) :
    Writes (Draft.commas write as) (Template.commas (as.map template)) [] := by
  have has := commas h as
  rwa [List.flatMap_eq_nil_iff.mpr fun _ _ => rfl] at has

end Writes

end Draft

open Draft (Writes)

namespace Predicate

def values : Predicate → List Value
  | compare _ _ v => [v]
  | null _ _ => []
  | among _ vs => vs

def template : Predicate → Template
  | compare column comparison _ =>
    [.text column, .text " ", .text comparison.sign, .text " ", .gap]
  | null column negated => [.text column, .text (if negated then " is not null" else " is null")]
  | among _ [] => [.text "1 = 0"]
  | among column (v :: vs) =>
    [.text column, .text " in ("] ++ Template.commas ((v :: vs).map fun _ => [.gap]) ++
      [.text ")"]

def column : Predicate → String
  | compare column _ _ | null column _ | among column _ => column

theorem writes (p : Predicate) : Writes p.render p.template p.values := by
  cases p with
  | compare column comparison v =>
    have hcolumn := (Writes.text column).andThen (.char ' ')
    exact ((hcolumn.andThen (.text comparison.sign)).andThen (.char ' ')).andThen (.bind v)
  | null column negated => exact (Writes.text column).andThen (.text _)
  | among column vs =>
    cases vs with
    | nil => exact .text "1 = 0"
    | cons v vs =>
      have hvalues := Writes.commas Writes.bind (v :: vs)
      rw [List.flatMap_singleton'] at hvalues
      have hlist := (((Writes.text column).andThen (.text " in (")).andThen hvalues).andThen
        (.char ')')
      rw [List.append_nil] at hlist
      exact hlist

end Predicate

namespace SortKey

def template (k : SortKey) : Template :=
  [.text k.column, .text (if k.ascending then " asc" else " desc")]

theorem writes (k : SortKey) : Writes k.render k.template [] :=
  (Writes.text k.column).andThen (.text _)

end SortKey

namespace Clause

def values : Clause → List Value
  | filter p => p.values
  | sort _ _ => []

def template : Clause → Template
  | filter p => p.template
  | sort first others => Template.commas ((first :: others).map SortKey.template)

theorem writes (c : Clause) : Writes c.render c.template c.values := by
  cases c with
  | filter p => exact p.writes
  | sort first others => exact .commas_text SortKey.writes (first :: others)

def bound (cs : List Clause) : List Value := cs.flatMap values

theorem bound_eq (cs : List Clause) :
    bound cs = (cs.filterMap predicate?).flatMap Predicate.values := by
  induction cs with
  | nil => rfl
  | cons c cs ih =>
    have hbound : bound (c :: cs) = c.values ++ bound cs := List.flatMap_cons
    rw [hbound, ih]
    cases c with
    | filter p => rfl
    | sort first others => rfl

def columns : Clause → List String
  | filter p => [p.column]
  | sort first others => (first :: others).map SortKey.column

section columns

variable {cs : List Clause} {P : String → Prop} (h : ∀ c ∈ cs, ∀ name ∈ c.columns, P name)
include h

theorem forall_predicate : ∀ p ∈ cs.filterMap predicate?, P p.column := by
  intro p hp
  obtain ⟨c, hc, hpc⟩ := List.mem_filterMap.mp hp
  cases c with
  | filter q =>
    cases hpc
    exact h _ hc _ (List.mem_singleton.mpr rfl)
  | sort first others => cases hpc

theorem forall_key : ∀ key ∈ cs.flatMap sortKeys, P key.column := by
  intro key hkey
  obtain ⟨c, hc, hkeyc⟩ := List.mem_flatMap.mp hkey
  cases c with
  | filter p => cases hkeyc
  | sort first others => exact h _ hc _ (List.mem_map_of_mem hkeyc)

end columns

end Clause

namespace Template

def columns (names : List String) : Template := commas (names.map fun n => [.text n])

def conditions : String → List Predicate → Template
  | _, [] => []
  | joint, p :: ps => .text joint :: (p.template ++ .text ")" :: conditions " and (" ps)

def choice (cs : List Clause) : Template :=
  conditions " where (" (cs.filterMap Clause.predicate?)

def sorted (joint : String) : List SortKey → Template
  | [] => []
  | k :: ks => .text joint :: commas ((k :: ks).map SortKey.template)

def order (cs : List Clause) : Template := sorted " order by " (cs.flatMap Clause.sortKeys)

def assignments (columns : List String) : Template :=
  commas (columns.map fun n => [.text n, .text " = ", .gap])

end Template

namespace Draft

theorem writes_columns (names : List String) :
    Writes (Draft.columns names) (Template.columns names) [] := .commas_text Writes.text names

theorem writes_conditions (joint : String) (cs : List Clause) :
    Writes (conditions joint cs) (Template.conditions joint (cs.filterMap Clause.predicate?))
      (Clause.bound cs) := by
  induction cs generalizing joint with
  | nil => exact .nothing
  | cons c cs ih =>
    cases c with
    | filter p =>
      have hp := (((Writes.text joint).andThen p.writes).andThen (.char ')')).andThen
        (ih " and (")
      rw [List.append_nil, List.nil_append, List.append_assoc] at hp
      exact hp
    | sort k ks => exact ih joint

theorem writes_choice (cs : List Clause) :
    Writes (whereClauses cs) (Template.choice cs) (Clause.bound cs) :=
  writes_conditions " where (" cs

theorem writes_orders (joint : String) (cs : List Clause) :
    Writes (orders joint cs) (Template.sorted joint (cs.flatMap Clause.sortKeys)) [] := by
  induction cs generalizing joint with
  | nil => exact .nothing
  | cons c cs ih =>
    cases c with
    | filter p => exact ih joint
    | sort k ks =>
      have hrest := ((Writes.text joint).andThen (Clause.sort k ks).writes).andThen (ih ", ")
      have htemplate : Template.sorted joint ((Clause.sort k ks :: cs).flatMap Clause.sortKeys) =
          [.text joint] ++ (Clause.sort k ks).template ++
            Template.sorted ", " (cs.flatMap Clause.sortKeys) := by
        rw [List.flatMap_cons]
        cases cs.flatMap Clause.sortKeys with
        | nil => simp [Template.sorted, Clause.template, Clause.sortKeys]
        | cons l ls =>
          have happend := Template.commas_cons_append k.template l.template
            (ks.map SortKey.template) (ls.map SortKey.template)
          simpa [Template.sorted, Clause.template, Clause.sortKeys] using happend
      rw [htemplate]
      exact hrest

theorem writes_order (cs : List Clause) : Writes (orderClauses cs) (Template.order cs) [] :=
  writes_orders " order by " cs

theorem writes_assignments (entries : List (String × Value)) :
    Writes (Draft.commas Draft.assignment entries) (Template.assignments (entries.map Prod.fst))
      (entries.map Prod.snd) := by
  have hentry : ∀ e : String × Value,
      Writes (Draft.assignment e) [.text e.1, .text " = ", .gap] [e.2] := fun e =>
    ((Writes.text e.1).andThen (.text " = ")).andThen (.bind e.2)
  have hentries := Writes.commas hentry entries
  rw [← List.map_eq_flatMap] at hentries
  rw [Template.assignments, List.map_map]
  exact hentries

end Draft

namespace Template

def select (columns : List String) (table : String) (clauses : List Clause) : Template :=
  [.text "select "] ++ Template.columns columns ++ [.text " from "] ++ [.text table] ++
    choice clauses ++ order clauses

def count (table : String) (clauses : List Clause) : Template :=
  [.text "select count(*) from "] ++ [.text table] ++ choice clauses

def insert (table : String) (columns : List String) : Template :=
  [.text "insert into "] ++ [.text table] ++ [.text " ("] ++ Template.columns columns ++
    [.text ") values ("] ++ commas (columns.map fun _ => [.gap]) ++ [.text ")"]

def update (table : String) (columns : List String) (clauses : List Clause) : Template :=
  [.text "update "] ++ [.text table] ++ [.text " set "] ++ assignments columns ++ choice clauses

def delete (table : String) (clauses : List Clause) : Template :=
  [.text "delete from "] ++ [.text table] ++ choice clauses

end Template

namespace Statement

structure Spells (render : Dialect → Except Failure Statement) (t : Template)
    (vs : List Value) : Prop where
  gaps : t.gaps = vs.length
  eq : ∀ d, render d = .ok (Template.statement d t vs)

theorem Spells.of_writes {render : Dialect → Except Failure Statement} {f : Draft → Draft}
    {t : Template} {vs : List Value} (hf : Writes f t vs)
    (h : ∀ d, render d = .ok (f (.start d)).finish) : Spells render t vs := by
  constructor
  · exact hf.gaps
  · intro d
    rw [h d, hf.eq]
    simp [Draft.finish, Draft.start, Template.statement]

variable (table : String) (row : Row) (clauses : List Clause)

theorem select_spells (columns : List String) :
    Spells (fun d => .ok (select d columns table clauses))
      (Template.select columns table clauses) (Clause.bound clauses) := by
  have htable := (((Writes.text "select ").andThen (Draft.writes_columns columns)).andThen
    (.text " from ")).andThen (.text table)
  have hclauses := (htable.andThen (Draft.writes_choice clauses)).andThen
    (Draft.writes_order clauses)
  rw [List.append_nil] at hclauses
  exact .of_writes hclauses fun _ => rfl

theorem count_spells :
    Spells (fun d => .ok (count d table clauses)) (Template.count table clauses)
      (Clause.bound clauses) := by
  have htable := (Writes.text "select count(*) from ").andThen (.text table)
  exact .of_writes (htable.andThen (Draft.writes_choice clauses)) fun _ => rfl

theorem insert_spells (h : row.isEmpty = false) :
    Spells (fun d => insert d table row) (Template.insert table row.keys) row.values := by
  have hcolumns := (((Writes.text "insert into ").andThen (.text table)).andThen
    (.text " (")).andThen (Draft.writes_columns row.keys)
  have hvalues := Writes.commas Writes.bind row.values
  rw [List.flatMap_singleton'] at hvalues
  have hrow := ((hcolumns.andThen (.text ") values (")).andThen hvalues).andThen (.char ')')
  have hgaps : row.values.map (fun _ => [Part.gap]) = row.keys.map fun _ => [Part.gap] := by
    rw [Row.values, Row.keys, List.map_map, List.map_map]
    rfl
  rw [List.append_nil, hgaps] at hrow
  apply Spells.of_writes hrow
  intro d
  rw [insert, if_neg (by simp [h])]

theorem update_spells (h : row.isEmpty = false) :
    Spells (fun d => update d table row clauses) (Template.update table row.keys clauses)
      (row.values ++ Clause.bound clauses) := by
  have htable := ((Writes.text "update ").andThen (.text table)).andThen (.text " set ")
  have hrow := (htable.andThen (Draft.writes_assignments row.toList)).andThen
    (Draft.writes_choice clauses)
  apply Spells.of_writes hrow
  intro d
  rw [update, if_neg (by simp [h])]

theorem delete_spells :
    Spells (fun d => .ok (delete d table clauses)) (Template.delete table clauses)
      (Clause.bound clauses) := by
  have htable := (Writes.text "delete from ").andThen (.text table)
  exact .of_writes (htable.andThen (Draft.writes_choice clauses)) fun _ => rfl

end Statement

end UnitOfWork
