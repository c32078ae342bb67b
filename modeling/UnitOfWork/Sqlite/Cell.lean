import UnitOfWork.Calendar.Timestamp
import UnitOfWork.Failure
import UnitOfWork.Text.Utf8
import UnitOfWork.Value.Basic

/-!
Cells: what the engine stores, by storage class. Cells are ordered by class, numbers by their exact
value, and texts and bytes byte by byte.
-/
namespace UnitOfWork.Sqlite

inductive Cell where
  | null
  | integer (i : Int64)
  | real (x : Decimal.Float64)
  | text (bytes : List UInt8)
  | blob (bytes : List UInt8)
deriving DecidableEq

namespace Cell

open Text

def ofText (s : String) : Cell := text (encodeUtf8 s)

def ofValue : Value → Cell
  | .null => null
  | .int i => integer i
  | .float x => real x
  | .text s => ofText s
  | .bool b => integer (if b then 1 else 0)
  | .timestamp t => ofText t.spaced
  | .blob b => blob b

def taken : Cell → Cell
  | real x => if x.isNaN then null else real x
  | c => c

def ofParameter (v : Value) : Cell := (ofValue v).taken

def toValue (column : Nat) : Cell → Except Failure Value
  | null => .ok .null
  | integer i => .ok (.int i)
  | real x => .ok (.float x)
  | text b =>
    match decodeUtf8 b with
    | .ok s => .ok (.text s)
    | .error e =>
      .error (.execution ("column " ++ decimalText column ++ " is not valid UTF-8: " ++ e.message))
  | blob b => .ok (.blob b)

def rank : Cell → Nat
  | null => 0
  | integer _ | real _ => 1
  | text _ => 2
  | blob _ => 3

def fraction (x : Decimal.Float64) : Int × Nat :=
  match x.meaning with
  | .nan => (0, 1)
  | .infinite negative => (if negative then -(Nat.pow 2 1024 : Nat) else (Nat.pow 2 1024 : Nat), 1)
  | .finite negative significand power =>
    let (up, down) := Decimal.powerParts 2 power
    (if negative then -(significand * up : Nat) else (significand * up : Nat), down)

def number : Cell → Int × Nat
  | integer i => (i.toInt, 1)
  | real x => fraction x
  | _ => (0, 1)

def bytes : Cell → List UInt8
  | text b | blob b => b
  | _ => []

def compareBytes (a b : List UInt8) : Ordering :=
  if a < b then .lt else if a = b then .eq else .gt

def compare (a b : Cell) : Ordering :=
  match Ord.compare a.rank b.rank with
  | .eq =>
    match Ord.compare (a.number.1 * b.number.2) (b.number.1 * a.number.2) with
    | .eq => compareBytes a.bytes b.bytes
    | o => o
  | o => o

def isTrue (c : Cell) : Bool := c.number.1 != 0

end Cell

end UnitOfWork.Sqlite
