import UnitOfWork.Decimal.Binary
import UnitOfWork.Text.Digits

/-!
Reading a decimal number in two rounding steps: as many digits as 64 bits hold are taken as an
integer, which is then multiplied or divided by a power of ten.
-/
namespace UnitOfWork.Decimal

def largestTenPower : Nat := 308

namespace Float64

def tenPower (n : Nat) : Float64 := ofNat (binary64.nearest false (Nat.pow 10 n) 1)

def isInfinite (x : Float64) : Bool := x.bits.toNat % 0x8000000000000000 == binary64.infinity

def isZero (x : Float64) : Bool := x.bits.toNat % 0x8000000000000000 == 0

def ratio (x : Float64) : Nat × Nat :=
  match x.meaning with
  | .finite _ significand power =>
    let (up, down) := powerParts 2 power
    (significand * up, down)
  | _ => (0, 1)

def times (x y : Float64) : Float64 :=
  ofNat (binary64.nearest false (x.ratio.1 * y.ratio.1) (x.ratio.2 * y.ratio.2))

def quotient (x y : Float64) : Float64 :=
  ofNat (binary64.nearest false (x.ratio.1 * y.ratio.2) (x.ratio.2 * y.ratio.1))

def shiftDown (x : Float64) (n : Nat) : Float64 :=
  if n ≤ largestTenPower then x.quotient (tenPower n)
  else if x.isZero then x
  else shiftDown (x.quotient (tenPower largestTenPower)) (n - largestTenPower)
termination_by n
decreasing_by simp only [largestTenPower] at *; omega

def scaled? (significand : Nat) (exponent : Int) : Option Float64 :=
  let x := ofInt significand
  match exponent with
  | .negSucc n => some (x.shiftDown (n + 1))
  | .ofNat n =>
    if n ≤ largestTenPower then
      let y := x.times (tenPower n)
      if y.isInfinite then none else some y
    else if x.isZero then some x
    else none

def negate (x : Float64) : Float64 := ⟨x.bits ^^^ 0x8000000000000000⟩

end Float64

structure Literal where
  negative : Bool
  whole : List Char
  fraction : List Char
  exponent : Int

def fitting (limit : Nat) (taken : Nat) : List Char → Nat × List Char
  | [] => (taken, [])
  | c :: ds =>
    let next := 10 * taken + Text.digitsValue [c]
    if limit ≤ next then (taken, c :: ds) else fitting limit next ds

def Literal.value? (l : Literal) : Option Float64 :=
  let (whole, rest) := fitting UInt64.size 0 l.whole
  let (significand, unread) := fitting UInt64.size whole l.fraction
  let places := l.fraction.length - unread.length
  let exponent := l.exponent + rest.length - places
  (Float64.scaled? significand exponent).map fun x => if l.negative then x.negate else x

end UnitOfWork.Decimal
