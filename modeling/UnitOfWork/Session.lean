import UnitOfWork.Database
import UnitOfWork.Failure
import UnitOfWork.Text.Quoted

namespace UnitOfWork

inductive Status where
  | active
  | committed
  | rolledBack
deriving DecidableEq

def Status.display : Status → String
  | .active => "Active"
  | .committed => "Committed"
  | .rolledBack => "RolledBack"

structure Session (τ : Type) where
  database : Database
  dialect : Dialect
  logSql : Bool
  token : Nat
  deadline : Option Nat
  depth : Nat
  error : Option Failure
  status : Status
  transaction : Option τ

namespace Session

variable {τ : Type}

def isPoisoned (s : Session τ) : Bool := s.error.isSome

def finished (s : Session τ) (status : Status) : Session τ :=
  { s with depth := 0, status := status, transaction := none }

def display (s : Session τ) : String :=
  "Session \x7b database_type: " ++ s.database.title ++ ", dialect: " ++
    Text.quoted s.dialect.name ++ ", depth: " ++ Text.decimalText s.depth ++ ", status: " ++
    s.status.display ++ ", poisoned: " ++ (if s.isPoisoned then "true" else "false") ++ ", .. \x7d"

end Session

end UnitOfWork
