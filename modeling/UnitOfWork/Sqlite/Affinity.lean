import UnitOfWork.Decimal.Shortest
import UnitOfWork.Sqlite.Cell
import UnitOfWork.Text.Digits

namespace UnitOfWork.Sqlite

inductive Affinity where
  | integer
  | text
  | blob
  | real
  | numeric
deriving DecidableEq

namespace Numeral

open Text

def isSpace (c : Char) : Bool := c = ' ' ∨ ('\t' ≤ c ∧ c ≤ '\r')

def readSign : List Char → Bool × List Char
  | '-' :: s => (true, s)
  | '+' :: s => (false, s)
  | s => (false, s)

def splitDigits (s : List Char) : List Char × List Char :=
  (s.takeWhile Char.isDigit, s.dropWhile Char.isDigit)

def readFraction : List Char → Option (List Char) × List Char
  | '.' :: s => (some (splitDigits s).1, (splitDigits s).2)
  | s => (none, s)

def readExponent (s : List Char) : Option (Option Int × List Char) :=
  match s with
  | c :: r =>
    if c = 'e' ∨ c = 'E' then
      let (negative, r) := readSign r
      match splitDigits r with
      | ([], _) => none
      | (ds, r) =>
        let e := (digitsValue ds : Int)
        some (some (if negative then -e else e), r)
    else some (none, s)
  | [] => some (none, [])

def nearestReal (negative : Bool) (digits : Nat) (exponent : Int) : Decimal.Float64 :=
  let bound := 400 + (decimal digits).length
  let (up, down) := Decimal.powerParts 10 (max (-bound) (min bound exponent))
  .ofNat (Decimal.binary64.nearest negative (digits * up) down)

def fitsInteger (i : Int) : Bool :=
  decide (Int64.minValue.toInt ≤ i ∧ i ≤ Int64.maxValue.toInt)

def read (s : List Char) : Option Cell := do
  let (negative, s) := readSign (s.dropWhile isSpace)
  let (whole, s) := splitDigits s
  let (fraction, s) := readFraction s
  let ds := whole ++ fraction.getD []
  if ds = [] then none
  let (exponent, s) ← readExponent s
  if s.dropWhile isSpace ≠ [] then none
  let n := digitsValue ds
  let i : Int := if negative then -(n : Int) else n
  if fraction = none ∧ exponent = none ∧ fitsInteger i then return .integer (Int64.ofInt i)
  return .real (nearestReal negative n (exponent.getD 0 - (fraction.getD []).length))

def layout : Decimal.Layout := ⟨-4, 14, "+", .up, true, 2⟩

def realText (x : Decimal.Float64) : String :=
  match x.meaning with
  | .nan => ""
  | .infinite negative => if negative then "-Inf" else "Inf"
  | .finite _ _ _ =>
    let (num, den) := Cell.fraction x
    layout.finite (decide (num < 0)) (Decimal.nearestDigits 15 num.natAbs den)

end Numeral

namespace Affinity

def ofTypeName (name : String) : Affinity :=
  let s := name.toList.map Char.toUpper
  let mentions (part : String) : Bool :=
    (List.range s.length).any fun i => part.toList.isPrefixOf (s.drop i)
  if mentions "INT" then integer
  else if ["CHAR", "CLOB", "TEXT"].any mentions then text
  else if s = [] ∨ mentions "BLOB" then blob
  else if ["REAL", "FLOA", "DOUB"].any mentions then real
  else numeric

def wholeToInteger (c : Cell) : Cell :=
  match c with
  | .real x =>
    let (num, den) := Cell.fraction x
    if num % den = 0 ∧ Int64.minValue.toInt < num / den ∧
        num / den < Int64.maxValue.toInt then
      .integer (Int64.ofInt (num / den))
    else c
  | c => c

def toNumeric (c : Cell) : Cell :=
  match c with
  | .text b => ((Numeral.read (b.map fun b => Char.ofNat b.toNat)).map wholeToInteger).getD c
  | c => wholeToInteger c

def apply : Affinity → Cell → Cell
  | integer, c | numeric, c => toNumeric c
  | real, c =>
    match toNumeric c with
    | .integer i => .real (.ofInt i.toInt)
    | c => c
  | text, .integer i => .ofText (Text.signedText i.toInt)
  | text, .real x => .ofText (Numeral.realText x)
  | text, c => c
  | blob, c => c

def isNumeric : Affinity → Bool
  | integer | real | numeric => true
  | text | blob => false

def joint : Option Affinity → Option Affinity → Affinity
  | some a, some b => if a.isNumeric || b.isNumeric then numeric else blob
  | some a, none | none, some a => if a.isNumeric then numeric else a
  | none, none => blob

end Affinity

end UnitOfWork.Sqlite
