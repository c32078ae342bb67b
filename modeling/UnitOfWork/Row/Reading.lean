import UnitOfWork.Failure
import UnitOfWork.Row.Basic
import UnitOfWork.Text.Digits

namespace UnitOfWork

structure Source where
  width : Nat
  capture : Nat → Except Failure Value

namespace Source

def ofValues (vs : List Value) : Source where
  width := vs.length
  capture i :=
    match vs[i]? with
    | some v => .ok v
    | none => .error (.execution ("column " ++ Text.decimalText i ++ " out of range"))

def fill (src : Source) (i : Nat) (names : List String) (r : Row) : Except Failure Row :=
  match names with
  | [] => .ok r
  | name :: names =>
    match src.capture i with
    | .error e => .error e
    | .ok v => src.fill (i + 1) names (r.put name v)

def widthMismatch (width expected : Nat) : Failure :=
  .execution ("row has " ++ Text.decimalText width ++ " columns, expected " ++
    Text.decimalText expected)

def materialize (src : Source) (names : List String) : Except Failure Row :=
  if src.width ≠ names.length then .error (widthMismatch src.width names.length)
  else src.fill 0 names .empty

end Source

abbrev Found := Except Failure Source

def Found.row (names : List String) : Found → Except Failure Row
  | .error e => .error e
  | .ok src => src.materialize names

/-- Reads rows until there are as many as the limit; the limit is looked at after each row. -/
def readThrough (names : List String) (limit : Option Nat) (taken : Nat) :
    List Found → Except Failure (List Row)
  | [] => .ok []
  | found :: rest =>
    match found.row names with
    | .error e => .error e
    | .ok r =>
      if limit.any (· ≤ taken + 1) then .ok [r]
      else
        match readThrough names limit (taken + 1) rest with
        | .error e => .error e
        | .ok rs => .ok (r :: rs)

def readWithin (names : List String) (limit : Option Nat) (taken : Nat) :
    List Found → Except Failure (List Row)
  | [] => .ok []
  | found :: rest =>
    if limit.any (· ≤ taken) then .ok []
    else
      match found.row names with
      | .error e => .error e
      | .ok r =>
        match readWithin names limit (taken + 1) rest with
        | .error e => .error e
        | .ok rs => .ok (r :: rs)

end UnitOfWork
