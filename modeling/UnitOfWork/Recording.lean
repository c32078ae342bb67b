import UnitOfWork.Driver
import UnitOfWork.Row.Reading

namespace UnitOfWork

structure Recording where
  dialect : Dialect
  begins : Nat
  commits : Nat
  rollbacks : Nat
  executed : List Statement
  rows : List (List (List Value))
  failBegin : Option String
  failNext : Option String
  failCommit : Option String
  failRollback : Option String
  delay : Nat

namespace Recording

def initial (dialect : Dialect) : Recording :=
  ⟨dialect, 0, 0, 0, [], [], none, none, none, none, 0⟩

def begin (r : Recording) : Except Failure Unit × Recording :=
  match r.failBegin with
  | some message => (.error (.connection message), { r with failBegin := none })
  | none => (.ok (), { r with begins := r.begins + 1 })

def record (r : Recording) (st : Statement) : Except Failure Unit × Recording :=
  let r := { r with executed := r.executed ++ [st] }
  match r.failNext with
  | some message => (.error (.execution message), { r with failNext := none })
  | none => (.ok (), r)

def nextRows (r : Recording) : List (List Value) × Recording :=
  (r.rows.headD [], { r with rows := r.rows.tail })

def materialize (names : List String) (row : List Value) : Except Failure Row :=
  (Source.ofValues row).materialize names

def materializeAll (names : List String) : List (List Value) → Except Failure (List Row)
  | [] => .ok []
  | row :: rows =>
    match materialize names row with
    | .error e => .error e
    | .ok r =>
      match materializeAll names rows with
      | .error e => .error e
      | .ok rs => .ok (r :: rs)

def materializeFirst (names : List String) : List (List Value) → Except Failure (Option Row)
  | [] => .ok none
  | row :: _ => (materialize names row).map some

def run (r : Recording) (c : Call) (st : Statement) : Except Failure c.Result × Recording :=
  match r.record st with
  | (.error e, r) => (.error e, r)
  | (.ok (), r) =>
    match c with
    | .first names => (materializeFirst names r.nextRows.1, r.nextRows.2)
    | .every names => (materializeAll names r.nextRows.1, r.nextRows.2)
    | .affected => (.ok (1 : Nat), r)

def commit (r : Recording) : Except Failure Unit × Recording :=
  match r.failCommit with
  | some message => (.error (.execution message), { r with failCommit := none })
  | none => (.ok (), { r with commits := r.commits + 1 })

def rollback (r : Recording) : Except Failure Unit × Recording :=
  let r := { r with rollbacks := r.rollbacks + 1 }
  match r.failRollback with
  | some message => (.error (.execution message), { r with failRollback := none })
  | none => (.ok (), r)

def driver : Driver Recording Unit where
  database _ _ := .recording
  dialect r _ := r.dialect
  beginDelay r _ := r.delay
  begin r _ := (r.begin.1, [], r.begin.2)
  delay r _ := r.delay
  run r _ c st := r.run c st
  commit r _ := r.commit
  rollback r _ := r.rollback
  release r _ _ := ([], r)
  close r _ := r

end Recording

end UnitOfWork
