import UnitOfWork.Proofs.Statement.Template
import UnitOfWork.Sqlite.Run

/-!
The rows that clauses choose. Main statement: the conditions that predicates are written as choose
the same rows wherever their parameters stand among the arguments.
-/
namespace UnitOfWork.Sqlite

open Template (spread map_spread)

def Table.operand (t : Table) (column : String) : Operand :=
  match t.position? column with
  | some i => .column i ((t.columns[i]?.map Column.affinity).getD .blob)
  | none => .literal .null

theorem Table.eval_operand (t : Table) (column : String) (args row : List Cell) :
    (t.operand column).eval args row = (t.operand column).eval [] row := by
  unfold Table.operand
  cases t.position? column <;> rfl

def Table.compares (t : Table) (row : List Cell) (column : String) (c : Comparison) (v : Value) :
    Bool :=
  compareCells (Affinity.joint (t.operand column).affinity? none) c
    ((t.operand column).eval [] row) (Cell.ofParameter v) == some true

def parameterAt (k : Nat) (_ : Value) : Operand := .parameter k

end UnitOfWork.Sqlite

namespace UnitOfWork.Predicate

open Sqlite
open Template (spread)

def meets (t : Table) (row : List Cell) : Predicate → Bool
  | compare column comparison v => t.compares row column comparison v
  | null column negated => ((t.operand column).eval [] row == .null) != negated
  | among column vs => vs.any (t.compares row column .eq)

def condition (t : Table) (k : Nat) : Predicate → Condition Operand
  | compare column comparison _ => .compare comparison (t.operand column) (.parameter k)
  | null column negated => .null (t.operand column) negated
  | among _ [] => .compare .eq (.literal (.integer 1)) (.literal (.integer 0))
  | among column (v :: vs) => .among (t.operand column) (spread 1 parameterAt k (v :: vs))

end UnitOfWork.Predicate

namespace UnitOfWork.Sqlite

open Template (spread map_spread)

def Table.chosen (t : Table) (clauses : List Clause) (row : List Cell) : Bool :=
  (clauses.filterMap Clause.predicate?).all (Predicate.meets t row)

def conditionsAt (t : Table) : Nat → List Predicate → List (Condition Operand)
  | _, [] => []
  | k, p :: ps => p.condition t k :: conditionsAt t (k + p.values.length) ps

def bound (vs : List Value) : List Cell := vs.map Cell.ofParameter

theorem spread_parameters (before after row : List Cell) (vs : List Value) :
    (spread 1 parameterAt before.length vs).map
      (Operand.eval (before ++ (bound vs ++ after)) row) = bound vs := by
  induction vs generalizing before with
  | nil => rfl
  | cons v vs ih =>
    have hrest := ih (before ++ [Cell.ofParameter v])
    have hfirst : (parameterAt before.length v).eval
        (before ++ (bound (v :: vs) ++ after)) row = Cell.ofParameter v := by
      simp [parameterAt, Operand.eval, bound]
    rw [List.length_append, List.length_singleton, List.append_assoc] at hrest
    rw [spread, List.map_cons, hfirst]
    exact congrArg (_ :: ·) hrest

theorem among_true (answers : List (Option Bool)) :
    ((if answers.contains (some true) then some true
      else if answers.contains none then none else some false) == some true) =
      answers.any (· == some true) := by
  have hcontains : answers.contains (some true) = answers.any (· == some true) := by
    rw [List.contains_eq_any_beq]
    exact congrArg answers.any (funext fun _ => BEq.comm)
  rw [hcontains]
  cases answers.any (· == some true) with
  | true => rfl
  | false => cases answers.contains none <;> rfl

theorem truthOn_condition (t : Table) (p : Predicate) (before after row : List Cell) :
    ((p.condition t before.length).truthOn (before ++ (bound p.values ++ after)) row == some true) =
      p.meets t row := by
  cases p with
  | compare column comparison v =>
    have hv : (Operand.parameter before.length).eval
        (before ++ (bound [v] ++ after)) row = Cell.ofParameter v := by
      simp [Operand.eval, bound]
    simp only [Predicate.condition, Predicate.values, Condition.truthOn, hv, Table.eval_operand,
      Predicate.meets, Table.compares, Operand.affinity?]
  | null column negated =>
    simp only [Predicate.condition, Condition.truthOn, Table.eval_operand, Predicate.meets]
    cases ((t.operand column).eval [] row == Cell.null) != negated <;> rfl
  | among column vs =>
    cases vs with
    | nil => rfl
    | cons v vs =>
      have hvalues := spread_parameters before after row (v :: vs)
      have hanswers : ∀ f : Cell → Option Bool,
          (spread 1 parameterAt before.length (v :: vs)).map
            (fun o => f (o.eval (before ++ (bound (v :: vs) ++ after)) row)) =
          (v :: vs).map fun v => f (Cell.ofParameter v) := by
        intro f
        have hmapped := congrArg (List.map f) hvalues
        rwa [List.map_map, bound, List.map_map] at hmapped
      simp only [Predicate.condition, Predicate.values, Condition.truthOn, Table.eval_operand,
        hanswers, among_true, List.any_map, Predicate.meets]
      rfl

theorem meetsAll_conditionsAt (t : Table) (ps : List Predicate) (before after row : List Cell) :
    meetsAll (before ++ (bound (ps.flatMap Predicate.values) ++ after))
      (conditionsAt t before.length ps) row = ps.all (Predicate.meets t row) := by
  induction ps generalizing before with
  | nil => rfl
  | cons p ps ih =>
    have hp := truthOn_condition t p before (bound (ps.flatMap Predicate.values) ++ after) row
    have hps := ih (before ++ bound p.values)
    have hlength : (before ++ bound p.values).length = before.length + p.values.length := by
      rw [List.length_append, bound, List.length_map]
    have hargs : bound ((p :: ps).flatMap Predicate.values) =
        bound p.values ++ bound (ps.flatMap Predicate.values) := by
      rw [List.flatMap_cons, bound, List.map_append]
      rfl
    rw [hlength, List.append_assoc] at hps
    rw [hargs, List.append_assoc, conditionsAt, List.all_cons, ← hp, ← hps]
    rfl

theorem meetsAll_choice (t : Table) (clauses : List Clause) (before row : List Cell) :
    meetsAll (before ++ bound (Clause.bound clauses))
      (conditionsAt t before.length (clauses.filterMap Clause.predicate?)) row =
      t.chosen clauses row := by
  have h := meetsAll_conditionsAt t (clauses.filterMap Clause.predicate?) before [] row
  rwa [List.append_nil, ← Clause.bound_eq] at h

end UnitOfWork.Sqlite
