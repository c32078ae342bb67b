import UnitOfWork.Fault
import UnitOfWork.Sqlite.Command

namespace UnitOfWork.Sqlite

structure Column where
  name : String
  affinity : Affinity
  notNull : Bool
deriving DecidableEq

inductive Key where
  | arrival
  | integer (column : Nat)
  | indexed (column : Nat)
deriving DecidableEq

structure Table where
  name : String
  columns : List Column
  key : Key
  rows : List (List Cell)
deriving DecidableEq

def folded (name : String) : String := String.ofList (name.toList.map Char.toLower)

namespace Table

def keyOf (columns : List ColumnDefinition) : Key :=
  match columns.findIdx? ColumnDefinition.primary with
  | none => .arrival
  | some i =>
    if (columns[i]?.map fun c => folded c.type) = some "integer" then .integer i else .indexed i

def ofDefinitions (name : String) (columns : List ColumnDefinition) : Table where
  name := name
  columns := columns.map fun c => ⟨c.name, Affinity.ofTypeName c.type, c.notNull⟩
  key := keyOf columns
  rows := []

def position? (t : Table) (column : String) : Option Nat :=
  t.columns.findIdx? fun c => folded c.name = folded column

def cell (row : List Cell) (i : Nat) : Cell := row[i]?.getD .null

def columnName (t : Table) (i : Nat) : String := (t.columns[i]?.map Column.name).getD ""

def integersIn (column : Nat) (rows : List (List Cell)) : List Int :=
  rows.filterMap fun row =>
    match cell row column with
    | .integer i => some i.toInt
    | _ => none

def nextInteger (used : List Int) : Int :=
  match used.max? with
  | none => 1
  | some m =>
    if m < Int64.maxValue.toInt then m + 1
    else
      let candidates := (List.range (used.length + 1)).map fun n => Int.ofNat (n + 1)
      (candidates.find? fun n => !used.contains n).getD 1

def stored (t : Table) (cells : List Cell) : List Cell :=
  (t.columns.zip cells).map fun p => p.1.affinity.apply p.2

def keyed (t : Table) (others : List (List Cell)) (fresh : Bool) (row : List Cell) :
    Except Fault (List Cell) :=
  match t.key with
  | .integer column =>
    match Affinity.toNumeric (cell row column) with
    | .integer i => .ok (row.set column (.integer i))
    | .null =>
      if fresh then
        .ok (row.set column (.integer (Int64.ofInt (nextInteger (integersIn column others)))))
      else .error .datatypeMismatch
    | _ => .error .datatypeMismatch
  | _ => .ok row

def missing? (t : Table) (row : List Cell) : Option Nat :=
  (List.range t.columns.length).find? fun i =>
    (t.columns[i]?.any Column.notNull) && cell row i == .null

def repeated? (t : Table) (others : List (List Cell)) (row : List Cell) : Option Nat :=
  let clash (column : Nat) : Option Nat :=
    if cell row column ≠ .null ∧
        others.any fun other => (cell other column).compare (cell row column) == .eq then
      some column
    else none
  match t.key with
  | .arrival => none
  | .integer column | .indexed column => clash column

def accept (t : Table) (others : List (List Cell)) (fresh : Bool) (cells : List Cell) :
    Except Fault (List Cell) :=
  match t.keyed others fresh (t.stored cells) with
  | .error e => .error e
  | .ok row =>
    match t.missing? row with
    | some i => .error (.notNull t.name (t.columnName i))
    | none =>
      match t.repeated? others row with
      | some i => .error (.unique t.name (t.columnName i))
      | none => .ok row

def arranged (t : Table) (rows : List (List Cell)) : List (List Cell) :=
  match t.key with
  | .integer column =>
    rows.mergeSort fun a b => (cell a column).compare (cell b column) != .gt
  | _ => rows

def insert (t : Table) (cells : List Cell) : Except Fault Table :=
  match t.accept t.rows true cells with
  | .error e => .error e
  | .ok row => .ok { t with rows := t.arranged (t.rows ++ [row]) }

/-- Replaces each chosen row, one after the other, next to those before it as they are by then and
those behind it as they were. -/
def replaceRows (t : Table) (chosen : List Cell → Bool) (new : List Cell → List Cell) :
    List (List Cell) → List (List Cell) → Except Fault (List (List Cell))
  | before, [] => .ok before
  | before, row :: behind =>
    if chosen row then
      match t.accept (before ++ behind) false (new row) with
      | .error e => .error e
      | .ok row => replaceRows t chosen new (before ++ [row]) behind
    else replaceRows t chosen new (before ++ [row]) behind

def update (t : Table) (chosen : List Cell → Bool) (new : List Cell → List Cell) :
    Except Fault Table :=
  match t.replaceRows chosen new [] t.rows with
  | .error e => .error e
  | .ok rows => .ok { t with rows := t.arranged rows }

def delete (t : Table) (chosen : List Cell → Bool) : Table :=
  { t with rows := t.rows.filter fun row => !chosen row }

end Table

end UnitOfWork.Sqlite
