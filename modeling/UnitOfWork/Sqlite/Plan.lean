import UnitOfWork.Sqlite.Table

namespace UnitOfWork.Sqlite

structure Catalog where
  tables : List Table
deriving DecidableEq

namespace Catalog

def empty : Catalog := ⟨[]⟩

def find? (c : Catalog) (name : String) : Option Table :=
  c.tables.find? fun t => folded t.name = folded name

def table (c : Catalog) (name : String) : Except Fault Table :=
  match c.find? name with
  | some t => .ok t
  | none => .error (.noSuchTable name)

def replace (c : Catalog) (t : Table) : Catalog :=
  ⟨c.tables.map fun u => if folded u.name = folded t.name then t else u⟩

def add (c : Catalog) (t : Table) : Catalog := ⟨c.tables ++ [t]⟩

def remove (c : Catalog) (t : Table) : Catalog :=
  ⟨c.tables.filter fun u => folded u.name ≠ folded t.name⟩

end Catalog

inductive Operand where
  | column (position : Nat) (affinity : Affinity)
  | parameter (number : Nat)
  | literal (c : Cell)
deriving DecidableEq

inductive Shown where
  | count
  | operand (o : Operand)
  | textOf (o : Operand)
deriving DecidableEq

structure Selection where
  shown : List Shown
  table : Option Table
  conditions : List (Condition Operand)
  order : List (OrderKey Operand)
deriving DecidableEq

inductive Plan where
  | create (t : Table)
  | drop (t : Table)
  | select (selections : List Selection)
  | insert (t : Table) (values : List (Option Operand))
  | update (t : Table) (assignments : List (Nat × Operand)) (conditions : List (Condition Operand))
  | delete (t : Table) (conditions : List (Condition Operand))
  | begin
  | commit
  | rollback
deriving DecidableEq

namespace Plan

def operand (sql : String) (t : Option Table) : Term → Except Fault Operand
  | .column name offset =>
    match t with
    | none => .error (.noSuchColumn name sql offset)
    | some t =>
      match t.position? name with
      | none => .error (.noSuchColumn name sql offset)
      | some i => .ok (.column i ((t.columns[i]?.map Column.affinity).getD .blob))
  | .parameter n => .ok (.parameter n)
  | .literal c => .ok (.literal c)

def conditions (sql : String) (t : Option Table) (cs : List (Condition Term)) :
    Except Fault (List (Condition Operand)) :=
  cs.mapM (Condition.mapM (operand sql t))

def allColumns (t : Table) : List Shown :=
  t.columns.mapIdx fun i c => .operand (.column i c.affinity)

def output (sql : String) (t : Option Table) : Output → Except Fault (List Shown)
  | .all =>
    match t with
    | none => .error .noTables
    | some t => .ok (allColumns t)
  | .count => .ok [.count]
  | .term x _ => (operand sql t x).map fun o => [.operand o]
  | .textOf x => (operand sql t x).map fun o => [.textOf o]

def named? (outputs : List Output) (name : String) : Option Term :=
  outputs.findSome? fun
    | .term t (some n) => if folded n = folded name then some t else none
    | _ => none

def orderKey (sql : String) (t : Option Table) (outputs : List Output) (k : OrderKey Term) :
    Except Fault (OrderKey Operand) :=
  let term := match k.term with
    | .column name offset => (named? outputs name).getD (.column name offset)
    | x => x
  (operand sql t term).map fun o => ⟨o, k.ascending⟩

def selection (sql : String) (c : Catalog) (q : Query) : Except Fault Selection := do
  let t ← match q.table with
    | none => pure none
    | some name => some <$> c.table name
  let shown ← q.outputs.mapM (output sql t)
  let conditions ← conditions sql t q.conditions
  let order ← q.order.mapM (orderKey sql t q.outputs)
  return ⟨shown.flatten, t, conditions, order⟩

def insertion (c : Catalog) (table : String) (columns : List String) (values : List Term) :
    Except Fault Plan := do
  let t ← c.table table
  let positions ← columns.mapM fun name =>
    match t.position? name with
    | some i => .ok i
    | none => .error (.noColumnNamed table name)
  if values.length ≠ columns.length then .error (.valueCount values.length columns.length)
  let operands ← values.mapM (operand "" none)
  let assigned := positions.zip operands
  return .insert t (t.columns.mapIdx fun i _ => (assigned.find? fun a => a.1 == i).map Prod.snd)

def change (sql : String) (c : Catalog) (table : String) (assignments : List (String × Term))
    (cs : List (Condition Term)) : Except Fault Plan := do
  let t ← c.table table
  let assigned ← assignments.mapM fun a => do
    let o ← operand sql (some t) a.2
    match t.position? a.1 with
    | some i => pure (i, o)
    | none => .error (.noColumnToSet a.1)
  return .update t assigned (← conditions sql (some t) cs)

def ofCommand (sql : String) (c : Catalog) : Command → Except Fault Plan
  | .create name columns offset =>
    match c.find? name with
    | some _ => .error (.tableExists name sql offset)
    | none => .ok (.create (Table.ofDefinitions name columns))
  | .drop name => (c.table name).map .drop
  | .select first others => do
    let selections ← (first :: others).mapM (selection sql c)
    match selections with
    | [] => return .select []
    | s :: rest =>
      if rest.all fun r => r.shown.length = s.shown.length then return .select selections
      else .error .unequalWidths
  | .insert table columns values => insertion c table columns values
  | .update table assignments cs => change sql c table assignments cs
  | .delete table cs => do
    let t ← c.table table
    return .delete t (← conditions sql (some t) cs)
  | .begin => .ok .begin
  | .commit => .ok .commit
  | .rollback => .ok .rollback

def counts : Plan → Bool
  | insert _ _ | update _ _ _ | delete _ _ => true
  | create _ | drop _ | select _ | begin | commit | rollback => false

def writes : Plan → Bool
  | create _ | drop _ => true
  | plan => plan.counts

def reads : Plan → Bool
  | select selections => selections.any fun s => s.table.isSome
  | plan => plan.writes

end Plan

end UnitOfWork.Sqlite
