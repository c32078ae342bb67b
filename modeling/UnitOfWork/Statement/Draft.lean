import UnitOfWork.Database
import UnitOfWork.Text.Quoted
import UnitOfWork.Value.Display

namespace UnitOfWork

structure Statement where
  sql : String
  args : List Value
deriving DecidableEq

structure Draft where
  dialect : Dialect
  sql : String
  args : List Value

namespace Draft

def start (dialect : Dialect) : Draft := ⟨dialect, "", []⟩

def text (s : String) (d : Draft) : Draft := { d with sql := d.sql ++ s }

def char (c : Char) (d : Draft) : Draft := { d with sql := d.sql.push c }

def bind (v : Value) (d : Draft) : Draft :=
  { d with
    sql := d.sql ++ d.dialect.placeholder (d.args.length + 1)
    args := d.args ++ [v] }

def commas {α : Type} (write : α → Draft → Draft) : List α → Draft → Draft
  | [], d => d
  | [a], d => write a d
  | a :: b :: rest, d => commas write (b :: rest) (text ", " (write a d))

def finish (d : Draft) : Statement := ⟨d.sql, d.args⟩

def display (d : Draft) : String :=
  "StatementBuilder \x7b dialect: " ++ Text.quoted d.dialect.name ++ ", sql: " ++
    Text.quoted d.sql ++ ", args: " ++ Value.displayList d.args ++ " \x7d"

end Draft

end UnitOfWork
