import UnitOfWork.Driver
import UnitOfWork.Row.Getters
import UnitOfWork.Statement.Render

namespace UnitOfWork

inductive Request where
  | one (columns : List String) (table : String) (clauses : List Clause)
  | many (columns : List String) (table : String) (clauses : List Clause)
  | count (table : String) (clauses : List Clause)
  | insert (table : String) (row : Row)
  | update (table : String) (row : Row) (clauses : List Clause)
  | delete (table : String) (clauses : List Clause)
  | exec (statement : Statement)

inductive Answer where
  | row (r : Row)
  | rows (rs : List Row)
  | count (n : Int64)
  | affected (n : Nat)

namespace Request

def label : Request → String
  | one _ _ _ => "query_one"
  | many _ _ _ => "query_many"
  | count _ _ => "query_count"
  | insert _ _ => "insert_one"
  | update _ _ _ => "update_many"
  | delete _ _ => "delete_many"
  | exec _ => "exec"

def countColumn : String := "count"

def statement (d : Dialect) : Request → Except Failure Statement
  | one columns table clauses | many columns table clauses =>
    .ok (Statement.select d columns table clauses)
  | count table clauses => .ok (Statement.count d table clauses)
  | insert table row => Statement.insert d table row
  | update table row clauses => Statement.update d table row clauses
  | delete table clauses => .ok (Statement.delete d table clauses)
  | exec statement => .ok statement

def call : Request → Call
  | one columns _ _ => .first columns
  | many columns _ _ => .every columns
  | count _ _ => .first [countColumn]
  | insert _ _ | update _ _ _ | delete _ _ | exec _ => .affected

def answer (sql : String) : (q : Request) → q.call.Result → Except Failure Answer
  | one _ _ _, (found : Option Row) =>
    match found with
    | some r => .ok (.row r)
    | none => .error .noResult
  | many _ _ _, (rows : List Row) => .ok (.rows rows)
  | count _ _, (found : Option Row) =>
    match found >>= fun r => r.int64? countColumn with
    | some n => .ok (.count n)
    | none => .error (.statement sql (.mapping "count query returned no integer"))
  | insert _ _, (n : Nat) | update _ _ _, (n : Nat) | delete _ _, (n : Nat) | exec _, (n : Nat) =>
    .ok (.affected n)

end Request

end UnitOfWork
