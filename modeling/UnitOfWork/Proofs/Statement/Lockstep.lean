import UnitOfWork.Proofs.Statement.Template

namespace UnitOfWork

namespace Template

def front : Template → String
  | [] => ""
  | .text s :: t => s ++ front t
  | .gap :: _ => ""

def behind : Template → List String
  | [] => []
  | .text _ :: t => behind t
  | .gap :: t => front t :: behind t

def marked (mark : Nat → String) : Nat → List String → String
  | _, [] => ""
  | k, s :: texts => mark k ++ s ++ marked mark (k + 1) texts

theorem length_behind (t : Template) : t.behind.length = t.gaps := by
  induction t with
  | nil => rfl
  | cons p t ih =>
    cases p with
    | text s => exact ih
    | gap => simp only [behind, gaps, List.length_cons, ih]

theorem fill_eq_marked (mark : Nat → String) (k : Nat) (t : Template) :
    fill mark k t = t.front ++ marked mark k t.behind := by
  induction t generalizing k with
  | nil => simp [fill, front, behind, marked]
  | cons p t ih =>
    cases p with
    | text s => simp only [fill, front, behind, ih, String.append_assoc]
    | gap => simp only [fill, front, behind, marked, ih, String.append_assoc, String.empty_append]

end Template

namespace Draft

inductive Step where
  | text (s : String)
  | char (c : Char)
  | bind (v : Value)
  | columns (names : List String)
  | table (name : String)
  | clause (c : Clause)
  | choice (clauses : List Clause)
  | order (clauses : List Clause)

namespace Step

def write : Step → Draft → Draft
  | text s => Draft.text s
  | char c => Draft.char c
  | bind v => Draft.bind v
  | columns names => Draft.columns names
  | table name => Draft.text name
  | clause c => c.render
  | choice clauses => whereClauses clauses
  | order clauses => orderClauses clauses

def template : Step → Template
  | text s => [.text s]
  | char c => [.text (.singleton c)]
  | bind _ => [.gap]
  | columns names => Template.columns names
  | table name => [.text name]
  | clause c => c.template
  | choice clauses => Template.choice clauses
  | order clauses => Template.order clauses

def values : Step → List Value
  | bind v => [v]
  | clause c => c.values
  | choice clauses => Clause.bound clauses
  | text _ | char _ | columns _ | table _ | order _ => []

theorem writes (s : Step) : Writes s.write s.template s.values := by
  cases s with
  | text s => exact .text s
  | char c => exact .char c
  | bind v => exact .bind v
  | columns names => exact writes_columns names
  | table name => exact .text name
  | clause c => exact c.writes
  | choice clauses => exact writes_choice clauses
  | order clauses => exact writes_order clauses

end Step

def writeAll (steps : List Step) (d : Draft) : Draft := steps.foldl (fun d s => s.write d) d

def built (dialect : Dialect) (steps : List Step) : Statement :=
  (writeAll steps (start dialect)).finish

theorem writes_all (steps : List Step) :
    Writes (writeAll steps) (steps.flatMap Step.template) (steps.flatMap Step.values) := by
  induction steps with
  | nil => exact .nothing
  | cons s steps ih =>
    rw [List.flatMap_cons, List.flatMap_cons]
    exact s.writes.andThen ih

theorem built_spells (steps : List Step) :
    Statement.Spells (fun dialect => .ok (built dialect steps))
      (steps.flatMap Step.template) (steps.flatMap Step.values) :=
  .of_writes (writes_all steps) fun _ => rfl

end Draft

open Draft (Step)

namespace Statement

/-- In every dialect there are the same texts, between them its placeholders from the first one
on, and the same arguments, one for each placeholder. -/
def Lockstep (render : Dialect → Except Failure Statement) (vs : List Value) : Prop :=
  ∃ first rest, rest.length = vs.length ∧
    ∀ d, render d = .ok ⟨first ++ Template.marked d.placeholder 1 rest, vs⟩

theorem Spells.lockstep {render : Dialect → Except Failure Statement} {t : Template}
    {vs : List Value} (h : Spells render t vs) : Lockstep render vs := by
  refine ⟨t.front, t.behind, ?_, ?_⟩
  · rw [Template.length_behind, h.gaps]
  · intro d
    rw [h.eq d, Template.statement, Template.fill_eq_marked]

structure AllLockstep (steps : List Step) (columns : List String) (table : String) (row : Row)
    (clauses : List Clause) : Prop where
  built : Lockstep (fun d => .ok (Draft.built d steps)) (steps.flatMap Step.values)
  select : Lockstep (fun d => .ok (select d columns table clauses)) (Clause.bound clauses)
  count : Lockstep (fun d => .ok (count d table clauses)) (Clause.bound clauses)
  delete : Lockstep (fun d => .ok (delete d table clauses)) (Clause.bound clauses)
  insert : row.isEmpty = false → Lockstep (fun d => insert d table row) row.values
  update : row.isEmpty = false →
    Lockstep (fun d => update d table row clauses) (row.values ++ Clause.bound clauses)
  insert_empty : row.isEmpty = true → ∃ e, ∀ d, Statement.insert d table row = .error e
  update_empty : row.isEmpty = true → ∃ e, ∀ d, Statement.update d table row clauses = .error e

/-- A dialect changes the placeholders of a statement and nothing else. -/
theorem all_lockstep (steps : List Step) (columns : List String) (table : String) (row : Row)
    (clauses : List Clause) : AllLockstep steps columns table row clauses := by
  constructor
  case built => exact (Draft.built_spells steps).lockstep
  case select => exact (select_spells table clauses columns).lockstep
  case count => exact (count_spells table clauses).lockstep
  case delete => exact (delete_spells table clauses).lockstep
  case insert =>
    intro hrow
    exact (insert_spells table row hrow).lockstep
  case update =>
    intro hrow
    exact (update_spells table row clauses hrow).lockstep
  case insert_empty =>
    intro hrow
    exact ⟨_, fun d => by rw [Statement.insert, if_pos hrow]⟩
  case update_empty =>
    intro hrow
    exact ⟨_, fun d => by rw [Statement.update, if_pos hrow]⟩

end Statement

end UnitOfWork
