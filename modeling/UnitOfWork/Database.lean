import UnitOfWork.Text.Digits

namespace UnitOfWork

inductive Database where
  | postgres
  | sqlite
  | recording
deriving DecidableEq

namespace Database

def title : Database → String
  | postgres => "Postgres"
  | sqlite => "Sqlite"
  | recording => "Recording"

def name? : Database → Option String
  | postgres => some "postgres"
  | sqlite => some "sqlite"
  | recording => none

def all : List Database := [postgres, sqlite, recording]

def names : List String := all.filterMap name?

def ofName? (ignoreCase : Bool) (name : String) : Except String Database :=
  let same (n : String) :=
    if ignoreCase then n.toList.map Char.toLower == name.toList.map Char.toLower else n == name
  match all.find? fun d => (d.name?.map same).getD false with
  | some d => .ok d
  | none => .error ("invalid variant: " ++ name)

end Database

structure Dialect where
  name : String
  title : String
  placeholder : Nat → String

namespace Dialect

def default : Dialect := ⟨"default", "DefaultDialect", fun _ => "?"⟩

def postgres : Dialect := ⟨"postgres", "PostgresDialect", fun n => "$" ++ Text.decimalText n⟩

def named : Dialect := ⟨"named", "NamedDialect", fun n => ":p" ++ Text.decimalText n⟩

end Dialect

structure Options where
  dialect : Option Dialect
  logSql : Bool

def Options.initial : Options := ⟨none, false⟩

end UnitOfWork
