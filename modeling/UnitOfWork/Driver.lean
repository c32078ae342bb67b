import UnitOfWork.Database
import UnitOfWork.Failure
import UnitOfWork.Row.Basic
import UnitOfWork.Statement.Draft

namespace UnitOfWork

inductive Level where
  | trace
  | debug
  | warn
deriving DecidableEq

structure LogLine where
  level : Level
  text : String
deriving DecidableEq

inductive Call where
  | first (names : List String)
  | every (names : List String)
  | affected
deriving DecidableEq

def Call.Result : Call → Type
  | first _ => Option Row
  | every _ => List Row
  | affected => Nat

structure Driver (δ τ : Type) where
  database : δ → Nat → Database
  dialect : δ → Nat → Dialect
  beginDelay : δ → Nat → Nat
  begin : δ → Nat → Except Failure τ × List LogLine × δ
  delay : δ → τ → Nat
  run : δ → τ → (c : Call) → Statement → Except Failure c.Result × δ
  commit : δ → τ → Except Failure Unit × δ
  rollback : δ → τ → Except Failure Unit × δ
  /-- Gives up a transaction. One that is still open is rolled back if the driver has a runtime to
  do so in. -/
  release : δ → τ → Bool → List LogLine × δ
  close : δ → Nat → δ

end UnitOfWork
