import UnitOfWork.Sqlite.Affinity
import UnitOfWork.Statement.Clause

namespace UnitOfWork.Sqlite

inductive Term where
  | column (name : String) (offset : Nat)
  | parameter (number : Nat)
  | literal (c : Cell)
deriving DecidableEq

inductive Condition (α : Type) where
  | compare (comparison : Comparison) (left right : α)
  | null (term : α) (negated : Bool)
  | among (term : α) (list : List α)
  | truth (term : α)
deriving DecidableEq

namespace Condition

variable {α β ε : Type}

def terms : Condition α → List α
  | compare _ left right => [left, right]
  | null term _ => [term]
  | among term list => term :: list
  | truth term => [term]

def mapM (f : α → Except ε β) : Condition α → Except ε (Condition β)
  | compare c left right => do return compare c (← f left) (← f right)
  | null term negated => do return null (← f term) negated
  | among term list => do return among (← f term) (← list.mapM f)
  | truth term => do return truth (← f term)

end Condition

inductive Output where
  | all
  | count
  | term (t : Term) (name : Option String)
  | textOf (t : Term)
deriving DecidableEq

structure OrderKey (α : Type) where
  term : α
  ascending : Bool
deriving DecidableEq

structure Query where
  outputs : List Output
  table : Option String
  conditions : List (Condition Term)
  order : List (OrderKey Term)
deriving DecidableEq

structure ColumnDefinition where
  name : String
  type : String
  primary : Bool
  notNull : Bool
deriving DecidableEq

inductive Command where
  | create (table : String) (columns : List ColumnDefinition) (offset : Nat)
  | drop (table : String)
  | select (first : Query) (others : List Query)
  | insert (table : String) (columns : List String) (values : List Term)
  | update (table : String) (assignments : List (String × Term))
    (conditions : List (Condition Term))
  | delete (table : String) (conditions : List (Condition Term))
  | begin
  | commit
  | rollback
deriving DecidableEq

end UnitOfWork.Sqlite
