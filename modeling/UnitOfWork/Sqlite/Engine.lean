import UnitOfWork.Row.Reading
import UnitOfWork.Sqlite.Grammar
import UnitOfWork.Sqlite.Run

/-!
Connections to databases, and their transactions. A transaction sees the database as of its first
look at it, with its own changes; others see these once they are committed. One connection at a time
may change a database.
-/
namespace UnitOfWork.Sqlite

structure Store where
  catalog : Catalog
  version : Nat
  writeAhead : Bool

structure View where
  catalog : Catalog
  version : Nat
  writing : Bool
  changed : Bool
  /-- Whether nobody else may start to look, since others still look at what is to be replaced. -/
  blocking : Bool

inductive Transaction where
  | idle
  | begun
  | viewing (v : View)

structure Connection where
  store : Nat
  transaction : Transaction
  changes : Nat

namespace Connection

def isViewing (c : Connection) : Bool :=
  match c.transaction with
  | .viewing _ => true
  | _ => false

def isWriting (c : Connection) : Bool :=
  match c.transaction with
  | .viewing v => v.writing
  | _ => false

def isBlocking (c : Connection) : Bool :=
  match c.transaction with
  | .viewing v => v.blocking
  | _ => false

end Connection

def sourceOf (cells : List Cell) : Source where
  width := cells.length
  capture i :=
    match cells[i]? with
    | some c => c.toValue i
    | none => .error (.execution ("column " ++ Text.decimalText i ++ " out of range"))

def Catalog.prepare (c : Catalog) (sql : String) (args : Nat) : Except Fault Plan := do
  let p ← Prepared.ofText sql
  let plan ← Plan.ofCommand sql c p.command
  if args = p.parameters then return plan
  else .error (.parameterCount (min args (p.parameters + 1)) p.parameters)

structure Engine where
  stores : List Store
  connections : List Connection

namespace Engine

def initial (writeAhead : Bool) : Engine := ⟨[⟨.empty, 0, writeAhead⟩], []⟩

def connect (e : Engine) (store : Nat) : Engine :=
  { e with connections := e.connections ++ [⟨store, .idle, 0⟩] }

def connectApart (e : Engine) : Engine :=
  Engine.connect { e with stores := e.stores ++ [⟨.empty, 0, false⟩] } e.stores.length

def connection (e : Engine) (i : Nat) : Connection := e.connections[i]?.getD ⟨0, .idle, 0⟩

def storeOf (e : Engine) (i : Nat) : Store :=
  e.stores[(e.connection i).store]?.getD ⟨.empty, 0, false⟩

def setTransaction (e : Engine) (i : Nat) (t : Transaction) : Engine :=
  { e with connections := e.connections.modify i fun c => { c with transaction := t } }

def setChanges (e : Engine) (i : Nat) (n : Nat) : Engine :=
  { e with connections := e.connections.modify i fun c => { c with changes := n } }

def others (e : Engine) (i : Nat) : List Connection :=
  (e.connections.eraseIdx i).filter fun c => c.store = (e.connection i).store

def catalog (e : Engine) (i : Nat) : Catalog :=
  match (e.connection i).transaction with
  | .viewing v => v.catalog
  | _ => (e.storeOf i).catalog

def begin (e : Engine) (i : Nat) : Except Fault Unit × Engine :=
  match (e.connection i).transaction with
  | .idle => (.ok (), e.setTransaction i .begun)
  | _ => (.error .nestedTransaction, e)

/-- Commits what a connection has changed. Without write-ahead logging nobody else may be looking at
the database, even where it was claimed and nothing has changed. -/
def commit (e : Engine) (i : Nat) : Except Fault Unit × Engine :=
  match (e.connection i).transaction with
  | .idle => (.error .nothingToCommit, e)
  | .begun => (.ok (), e.setTransaction i .idle)
  | .viewing v =>
    if v.writing && !(e.storeOf i).writeAhead && (e.others i).any Connection.isViewing then
      (.error .locked, e.setTransaction i (.viewing { v with blocking := true }))
    else if v.changed then
      let stores := e.stores.modify (e.connection i).store fun s =>
        { s with catalog := v.catalog, version := s.version + 1 }
      (.ok (), setTransaction { e with stores := stores } i .idle)
    else (.ok (), e.setTransaction i .idle)

def rollback (e : Engine) (i : Nat) : Except Fault Unit × Engine :=
  match (e.connection i).transaction with
  | .idle => (.error .nothingToRollBack, e)
  | _ => (.ok (), e.setTransaction i .idle)

def view (e : Engine) (i : Nat) : View :=
  match (e.connection i).transaction with
  | .viewing v => v
  | _ => ⟨(e.storeOf i).catalog, (e.storeOf i).version, false, false, false⟩

def claim (e : Engine) (i : Nat) : Except Fault View :=
  let v := e.view i
  if (e.others i).any Connection.isWriting then .error .locked
  else if !v.writing && v.version != (e.storeOf i).version then .error .locked
  else .ok { v with writing := true }

def refused (e : Engine) (i : Nat) (p : Plan) : Engine := if p.counts then e.setChanges i 0 else e

def perform (e : Engine) (i : Nat) (args : List Cell) (p : Plan) :
    Except Fault Outcome × Engine :=
  if p.writes then
    match e.claim i with
    | .error f => (.error f, e.refused i p)
    | .ok v =>
      match p.run v.catalog args with
      | .error f => (.error f, (e.setTransaction i (.viewing v)).setChanges i 0)
      | .ok (.changed n, c) =>
        let v := { v with catalog := c, changed := v.changed || n != 0 }
        (.ok (.changed n), (e.setTransaction i (.viewing v)).setChanges i n)
      | .ok (o, c) =>
        (.ok o, e.setTransaction i (.viewing { v with catalog := c, changed := true }))
  else if p.reads then
    if !(e.connection i).isViewing && (e.others i).any Connection.isBlocking then
      (.error .locked, e)
    else ((p.run (e.view i).catalog args).map Prod.fst, e.setTransaction i (.viewing (e.view i)))
  else ((p.run (e.view i).catalog args).map Prod.fst, e)

def performAlone (e : Engine) (i : Nat) (args : List Cell) (p : Plan) :
    Except Fault Outcome × Engine :=
  match (e.connection i).transaction with
  | .idle =>
    match e.perform i args p with
    | (.error f, after) => (.error f, after.setTransaction i .idle)
    | (.ok o, after) =>
      match after.commit i with
      | (.error .locked, after) => (.error .locked, (after.setTransaction i .idle).refused i p)
      | (_, after) => (.ok o, after.setTransaction i .idle)
  | _ => e.perform i args p

def step (e : Engine) (i : Nat) (args : List Cell) (p : Plan) : Except Fault Outcome × Engine :=
  match p with
  | .begin => ((e.begin i).1.map fun _ => .done, (e.begin i).2)
  | .commit => ((e.commit i).1.map fun _ => .done, (e.commit i).2)
  | .rollback => ((e.rollback i).1.map fun _ => .done, (e.rollback i).2)
  | p => e.performAlone i args p

def prepare (e : Engine) (i : Nat) (sql : String) (args : Nat) : Except Fault Plan :=
  (e.catalog i).prepare sql args

def execute (e : Engine) (i : Nat) (sql : String) (args : List Cell) :
    Except Fault Nat × Engine :=
  match e.prepare i sql args.length with
  | .error f => (.error f, e)
  | .ok p =>
    match e.step i args p with
    | (.error f, e) => (.error f, e)
    | (.ok (.rows (_ :: _)), e) => (.error .returnedRows, e)
    | (.ok _, e) => (.ok (e.connection i).changes, e)

def query (e : Engine) (i : Nat) (sql : String) (args : List Cell) :
    Except Fault (List Found) × Engine :=
  match e.prepare i sql args.length with
  | .error f => (.error f, e)
  | .ok p =>
    match e.step i args p with
    | (.error f, e) => (.error f, e)
    | (.ok (.rows rows), e) => (.ok (rows.map fun cells => .ok (sourceOf cells)), e)
    | (.ok _, e) => (.ok [], e)

def fetch (e : Engine) (i : Nat) (sql : String) (args : List Cell) (names : List String)
    (limit : Option Nat) : Except Failure (List Row) × Engine :=
  match e.query i sql args with
  | (.error f, e) => (.error (.sqlite f), e)
  | (.ok steps, e) => (readThrough names limit 0 steps, e)

end Engine

end UnitOfWork.Sqlite
