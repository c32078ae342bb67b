import UnitOfWork.Failure
import UnitOfWork.Row.Basic
import UnitOfWork.Statement.Clause

namespace UnitOfWork

namespace Draft

def columns (names : List String) : Draft → Draft := commas text names

def conditions : String → List Clause → Draft → Draft
  | _, [], d => d
  | joint, .filter p :: rest, d =>
    conditions " and (" rest ((p.render (d.text joint)).char ')')
  | joint, .sort _ _ :: rest, d => conditions joint rest d

def whereClauses : List Clause → Draft → Draft := conditions " where ("

def orders : String → List Clause → Draft → Draft
  | _, [], d => d
  | joint, .filter _ :: rest, d => orders joint rest d
  | joint, .sort k ks :: rest, d =>
    orders ", " rest ((Clause.sort k ks).render (d.text joint))

def orderClauses : List Clause → Draft → Draft := orders " order by "

def assignment (e : String × Value) (d : Draft) : Draft :=
  ((d.text e.1).text " = ").bind e.2

end Draft

namespace Statement

def select (dialect : Dialect) (columns : List String) (table : String) (clauses : List Clause) :
    Statement :=
  let d := (Draft.start dialect).text "select "
  let d := ((d.columns columns).text " from ").text table
  ((d.whereClauses clauses).orderClauses clauses).finish

def count (dialect : Dialect) (table : String) (clauses : List Clause) : Statement :=
  ((((Draft.start dialect).text "select count(*) from ").text table).whereClauses clauses).finish

def insert (dialect : Dialect) (table : String) (row : Row) : Except Failure Statement :=
  if row.isEmpty then .error (.parameter ("insert into " ++ table ++ " without values"))
  else
    let d := (((Draft.start dialect).text "insert into ").text table).text " ("
    let d := (d.columns row.keys).text ") values ("
    .ok ((Draft.commas Draft.bind row.values d).char ')').finish

def update (dialect : Dialect) (table : String) (row : Row) (clauses : List Clause) :
    Except Failure Statement :=
  if row.isEmpty then .error (.parameter ("update " ++ table ++ " without values"))
  else
    let d := (((Draft.start dialect).text "update ").text table).text " set "
    .ok ((Draft.commas Draft.assignment row.toList d).whereClauses clauses).finish

def delete (dialect : Dialect) (table : String) (clauses : List Clause) : Statement :=
  ((((Draft.start dialect).text "delete from ").text table).whereClauses clauses).finish

end Statement

end UnitOfWork
