import UnitOfWork.Sqlite.Plan

namespace UnitOfWork.Sqlite

def Operand.affinity? : Operand → Option Affinity
  | column _ a => some a
  | _ => none

def Operand.eval (args row : List Cell) : Operand → Cell
  | column i _ => Table.cell row i
  | parameter n => args[n]?.getD .null
  | literal c => c

def Operand.isColumn (position : Nat) : Operand → Bool
  | column i _ => i == position
  | _ => false

def Operand.isConstant : Operand → Bool
  | column _ _ => false
  | _ => true

def holdsFor : Comparison → Ordering → Bool
  | .eq, o => o == .eq
  | .ne, o => o != .eq
  | .lt, o => o == .lt
  | .le, o => o != .gt
  | .gt, o => o == .gt
  | .ge, o => o != .lt

def compareCells (a : Affinity) (c : Comparison) (left right : Cell) : Option Bool :=
  if left = .null ∨ right = .null then none
  else some (holdsFor c ((a.apply left).compare (a.apply right)))

namespace Condition

def truthOn (args row : List Cell) : Condition Operand → Option Bool
  | compare c left right =>
    compareCells (Affinity.joint left.affinity? right.affinity?) c (left.eval args row)
      (right.eval args row)
  | null term negated => some ((term.eval args row == .null) != negated)
  | among term list =>
    let answers := list.map fun item =>
      compareCells (Affinity.joint term.affinity? none) .eq (term.eval args row)
        (item.eval args row)
    if answers.contains (some true) then some true
    else if answers.contains none then none
    else some false
  | truth term =>
    match term.eval args row with
    | .null => none
    | c => some c.isTrue

def usesIndex (column : Nat) : Condition Operand → Bool
  | compare .ne _ _ => false
  | compare _ left right =>
    (left.isColumn column && right.isConstant) || (right.isColumn column && left.isConstant)
  | null term negated => term.isColumn column && !negated
  | among term list => term.isColumn column && !list.isEmpty && list.all Operand.isConstant
  | truth _ => false

end Condition

def meetsAll (args : List Cell) (cs : List (Condition Operand)) (row : List Cell) : Bool :=
  cs.all fun c => c.truthOn args row == some true

namespace Shown

def operands : Shown → List Operand
  | count => []
  | operand o | textOf o => [o]

def castText : Cell → Cell
  | .integer i => .ofText (Text.signedText i.toInt)
  | .real x => .ofText (Numeral.realText x)
  | .blob b => .text b
  | c => c

def eval (args : List Cell) (total : Nat) (row : List Cell) : Shown → Cell
  | count => .integer (Int64.ofNat total)
  | operand o => o.eval args row
  | textOf o => castText (o.eval args row)

end Shown

namespace Selection

def operands (s : Selection) : List Operand :=
  s.shown.flatMap Shown.operands ++ s.conditions.flatMap Condition.terms ++
    s.order.map OrderKey.term

/-- Whether the selection walks along the index on a column: because it mentions no other column, or
finds or sorts its rows by that one. -/
def walksIndex (s : Selection) (column : Nat) : Bool :=
  s.operands.all (fun o => o.isConstant || o.isColumn column) ||
    s.conditions.any (·.usesIndex column) ||
    (s.order.head?.any fun k => k.term.isColumn column)

def cellsInOrder (ascending : Bool) (a b : Cell) : Ordering :=
  if ascending then a.compare b else b.compare a

def walk (s : Selection) (t : Table) : List (List Cell) :=
  match t.key with
  | .indexed column =>
    if s.walksIndex column then
      let rows := t.rows.mergeSort fun a b =>
        (Table.cell a column).compare (Table.cell b column) != .gt
      if s.order.head?.any fun k => k.term.isColumn column && !k.ascending then rows.reverse
      else rows
    else t.rows
  | _ => t.rows

def compareRows (args : List Cell) (a b : List Cell) : List (OrderKey Operand) → Ordering
  | [] => .eq
  | k :: ks =>
    match cellsInOrder k.ascending (k.term.eval args a) (k.term.eval args b) with
    | .eq => compareRows args a b ks
    | o => o

def matching (s : Selection) (args : List Cell) : List (List Cell) :=
  let rows := match s.table with
    | none => [[]]
    | some t => s.walk t
  rows.filter (meetsAll args s.conditions)

def run (s : Selection) (args : List Cell) : List (List Cell) :=
  let rows := s.matching args
  let display (row : List Cell) := s.shown.map (Shown.eval args rows.length row)
  if s.shown.contains .count then [display (rows.head?.getD [])]
  else
    (rows.mergeSort fun a b => compareRows args a b s.order != .gt).map display

end Selection

inductive Outcome where
  | rows (cells : List (List Cell))
  | changed (count : Nat)
  | done
deriving DecidableEq

namespace Plan

def assign (args : List Cell) (assignments : List (Nat × Operand)) (row : List Cell) :
    List Cell :=
  assignments.foldl (fun new a => new.set a.1 (a.2.eval args row)) row

def changing (c : Catalog) (count : Nat) (t : Table) : Outcome × Catalog :=
  (.changed count, if count = 0 then c else c.replace t)

def run (c : Catalog) (args : List Cell) : Plan → Except Fault (Outcome × Catalog)
  | create t => .ok (.done, c.add t)
  | drop t => .ok (.done, c.remove t)
  | select selections => .ok (.rows (selections.flatMap (·.run args)), c)
  | insert t values => do
    let t ← t.insert (values.map fun v => (v.map (Operand.eval args [])).getD .null)
    return changing c 1 t
  | update t assignments cs => do
    let chosen := meetsAll args cs
    let new ← t.update chosen (assign args assignments)
    return changing c (t.rows.countP chosen) new
  | delete t cs =>
    let chosen := meetsAll args cs
    .ok (changing c (t.rows.countP chosen) (t.delete chosen))
  | begin | commit | rollback => .ok (.done, c)

end Plan

end UnitOfWork.Sqlite
