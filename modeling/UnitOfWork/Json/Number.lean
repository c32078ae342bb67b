import UnitOfWork.Decimal.Scaled
import UnitOfWork.Text.Digits

namespace UnitOfWork.Json

def isSpace (c : Char) : Bool := c = ' ' ∨ c = '\n' ∨ c = '\t' ∨ c = '\r'

def dropSpace (s : List Char) : List Char := s.dropWhile isSpace

structure Number where
  negative : Bool
  whole : List Char
  fraction : Option (List Char)
  exponent : Option Int

def digitsOf (s : List Char) : List Char := s.takeWhile Char.isDigit

def afterDigits (s : List Char) : List Char := s.dropWhile Char.isDigit

def readWhole (s : List Char) : Option (List Char × List Char) :=
  match digitsOf s with
  | [] => none
  | '0' :: _ :: _ => none
  | ds => some (ds, afterDigits s)

def readFraction : List Char → Option (Option (List Char) × List Char)
  | '.' :: r =>
    match digitsOf r with
    | [] => none
    | ds => some (some ds, afterDigits r)
  | s => some (none, s)

def readSign : List Char → Bool × List Char
  | '-' :: r => (true, r)
  | '+' :: r => (false, r)
  | s => (false, s)

def readExponent : List Char → Option (Option Int × List Char)
  | [] => some (none, [])
  | c :: r =>
    if c = 'e' ∨ c = 'E' then
      let (negative, r) := readSign r
      match digitsOf r with
      | [] => none
      | ds =>
        let n : Int := Text.digitsValue ds
        some (some (if negative then -n else n), afterDigits r)
    else some (none, c :: r)

def readUnsigned (negative : Bool) (s : List Char) : Option (Number × List Char) := do
  let (whole, s) ← readWhole s
  let (fraction, s) ← readFraction s
  let (exponent, s) ← readExponent s
  some (⟨negative, whole, fraction, exponent⟩, s)

def readNumber : List Char → Option (Number × List Char)
  | '-' :: s => readUnsigned true s
  | s => readUnsigned false s

def Number.integer? (n : Number) : Option Int :=
  match n.fraction, n.exponent with
  | none, none =>
    let value := Text.digitsValue n.whole
    if n.negative then if value = 0 then none else some (-value) else some value
  | _, _ => none

def Number.float? (n : Number) : Option Decimal.Float64 :=
  Decimal.Literal.value? ⟨n.negative, n.whole, n.fraction.getD [], n.exponent.getD 0⟩

end UnitOfWork.Json
