import UnitOfWork.Decimal.Binary
import UnitOfWork.Text.Digits

namespace UnitOfWork.Decimal

inductive Tie where
  | even
  | up
deriving DecidableEq

structure Digits where
  digits : Nat
  exponent : Int
deriving DecidableEq

namespace Digits

def trim : Nat → Digits → Digits
  | 0, d => d
  | fuel + 1, d =>
    if d.digits % 10 = 0 ∧ d.digits ≠ 0 then trim fuel ⟨d.digits / 10, d.exponent + 1⟩ else d

def leading (d : Digits) : Int := d.exponent + ((Text.decimal d.digits).length - 1 : Nat)

end Digits

def floorLog10 (num den : Nat) : Int :=
  if den ≤ num then ((Text.decimal (num / den)).length - 1 : Nat)
  else -((Text.decimal ((den - 1) / num)).length : Int)

/-- The reals that round to `significand * 2 ^ power`, as multiples of `2 ^ (power - 2)`. The lower
half is narrower where the next smaller number has a finer last place. -/
structure Interval where
  low : Nat
  value : Nat
  high : Nat
  closed : Bool

def Format.interval (f : Format) (significand : Nat) (power : Int) : Interval where
  low := 4 * significand -
    if significand = Nat.pow 2 f.fractionBits ∧ f.leastPower < power then 1 else 2
  value := 4 * significand
  high := 4 * significand + 2
  closed := significand % 2 == 0

def Interval.contains (i : Interval) (scale x : Nat) : Bool :=
  if i.closed then decide (i.low * scale ≤ x ∧ x ≤ i.high * scale)
  else decide (i.low * scale < x ∧ x < i.high * scale)

def Interval.onGrid (i : Interval) (power : Int) (tie : Tie) (exponent : Int) : Option Digits :=
  let (tens, tenths) := powerParts 10 exponent
  let (up, down) := powerParts 2 (power - 2)
  let unit := tens * down
  let scale := up * tenths
  let value := i.value * scale
  let below := value / unit
  let above := below + 1
  let belowIn := i.contains scale (below * unit)
  let aboveIn := i.contains scale (above * unit)
  let goesUp := match compare (2 * (value % unit)) unit with
    | .lt => false
    | .gt => true
    | .eq => match tie with
      | .up => true
      | .even => below % 2 == 1
  if aboveIn && (goesUp || !belowIn) then some ⟨above, exponent⟩
  else if belowIn then some ⟨below, exponent⟩
  else none

def Interval.search (i : Interval) (power : Int) (tie : Tie) (first : Int) : Nat → Digits
  | 0 => ⟨0, 0⟩
  | fuel + 1 =>
    match i.onGrid power tie first with
    | some d => d
    | none => i.search power tie (first - 1) fuel

def Format.shortest (f : Format) (tie : Tie) (significand : Nat) (power : Int) : Digits :=
  if significand = 0 then ⟨0, 0⟩
  else
    let (up, down) := powerParts 2 power
    let first := floorLog10 (significand * up) down
    ((f.interval significand power).search power tie first 18).trim 18

def nearestDigits (count num den : Nat) : Digits :=
  if num = 0 then ⟨0, 0⟩
  else
    let exponent := floorLog10 num den - (count - 1 : Nat)
    let (tens, tenths) := powerParts 10 exponent
    Digits.trim (count + 1) ⟨(2 * num * tenths + den * tens) / (2 * den * tens), exponent⟩

/-- How digits become text: which exponents are written out by position, what stands before a
positive exponent, where ties go, whether a lone digit before an exponent gets a point, and how many
digits an exponent has at least. -/
structure Layout where
  least : Int
  most : Int
  plus : String
  tie : Tie
  pointed : Bool
  exponentDigits : Nat

namespace Layout

def positional (d : Digits) : List Char :=
  let ds := Text.decimal d.digits
  match d.exponent with
  | .ofNat n => ds ++ List.replicate n '0' ++ ['.', '0']
  | .negSucc n =>
    let places := n + 1
    let full := ds.leftpad (places + 1) '0'
    full.take (full.length - places) ++ '.' :: full.drop (full.length - places)

def scientific (l : Layout) (d : Digits) : List Char :=
  let e := d.leading
  let mantissa := match Text.decimal d.digits with
    | [c] => if l.pointed then [c, '.', '0'] else [c]
    | c :: ds => c :: '.' :: ds
    | [] => []
  let sign := if 0 ≤ e then l.plus.toList else ['-']
  mantissa ++ 'e' :: sign ++ Text.padded l.exponentDigits e.natAbs

def finite (l : Layout) (negative : Bool) (d : Digits) : String :=
  let shown :=
    if d.digits = 0 then ['0', '.', '0']
    else if l.least ≤ d.leading ∧ d.leading ≤ l.most then positional d
    else l.scientific d
  String.ofList (if negative then '-' :: shown else shown)

end Layout

end UnitOfWork.Decimal
