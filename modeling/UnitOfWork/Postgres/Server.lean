import UnitOfWork.Fault
import UnitOfWork.Postgres.ColumnType

namespace UnitOfWork.Postgres

abbrev Cell := Option (List UInt8)

structure Described where
  parameters : List ColumnType
  columns : List ColumnType

structure Executed where
  rows : List (List Cell)
  tag : String

structure Server (σ : Type) where
  simple : σ → Nat → String → Except Fault String × σ
  prepare : σ → Nat → String → Except Fault Described × σ
  execute : σ → Nat → List Cell → Except Fault Executed × σ

structure Reply where
  described : Described
  executed : Executed
  failPrepare : Option Fault
  failExecute : Option Fault

def Reply.initial : Reply := ⟨⟨[], []⟩, ⟨[], "SELECT 0"⟩, none, none⟩

inductive Entry where
  | simple (sql : String)
  | prepare (sql : String)
  | bind (cells : List Cell)

structure Script where
  replies : List Reply
  current : Reply
  failing : List (String × Fault)
  log : List Entry

namespace Script

def initial : Script := ⟨[], .initial, [], []⟩

def simple (s : Script) (sql : String) : Except Fault String × Script :=
  let s := { s with log := s.log ++ [Entry.simple sql] }
  match s.failing.find? fun f => f.1 = sql with
  | some f => (.error f.2, { s with failing := s.failing.eraseP fun g => g.1 = sql })
  | none => (.ok sql, s)

def prepare (s : Script) (sql : String) : Except Fault Described × Script :=
  let reply := s.replies.headD .initial
  let s := { s with
    replies := s.replies.tail, current := reply, log := s.log ++ [Entry.prepare sql] }
  match reply.failPrepare with
  | some f => (.error f, s)
  | none => (.ok reply.described, s)

def execute (s : Script) (cells : List Cell) : Except Fault Executed × Script :=
  let s := { s with log := s.log ++ [Entry.bind cells] }
  match s.current.failExecute with
  | some f => (.error f, s)
  | none => (.ok s.current.executed, s)

def server : Server Script where
  simple s _ sql := s.simple sql
  prepare s _ sql := s.prepare sql
  execute s _ cells := s.execute cells

end Script

end UnitOfWork.Postgres
