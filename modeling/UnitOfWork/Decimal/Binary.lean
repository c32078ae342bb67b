namespace UnitOfWork.Decimal

def roundHalfEven (num den : Nat) : Nat :=
  let q := num / den
  let r := num % den
  if den < 2 * r ∨ (2 * r = den ∧ q % 2 = 1) then q + 1 else q

def powerParts (base : Nat) (e : Int) : Nat × Nat :=
  match e with
  | .ofNat n => (Nat.pow base n, 1)
  | .negSucc n => (1, Nat.pow base (n + 1))

structure Format where
  fractionBits : Nat
  exponentBits : Nat

def binary64 : Format := ⟨52, 11⟩

def binary32 : Format := ⟨23, 8⟩

/-- What a bit pattern stands for; a finite number is `significand * 2 ^ power`. -/
inductive Meaning where
  | nan
  | infinite (negative : Bool)
  | finite (negative : Bool) (significand : Nat) (power : Int)
deriving DecidableEq

namespace Format

def bias (f : Format) : Nat := Nat.pow 2 (f.exponentBits - 1) - 1

def leastPower (f : Format) : Int := 1 - (f.bias + f.fractionBits : Nat)

def signBit (f : Format) (negative : Bool) : Nat :=
  if negative then Nat.pow 2 (f.fractionBits + f.exponentBits) else 0

def infinity (f : Format) : Nat :=
  (Nat.pow 2 f.exponentBits - 1) * Nat.pow 2 f.fractionBits

def quietNaN (f : Format) : Nat := f.infinity + Nat.pow 2 (f.fractionBits - 1)

def meaning (f : Format) (bits : Nat) : Meaning :=
  let negative := bits / Nat.pow 2 (f.fractionBits + f.exponentBits) % 2 == 1
  let exponent := bits / Nat.pow 2 f.fractionBits % Nat.pow 2 f.exponentBits
  let fraction := bits % Nat.pow 2 f.fractionBits
  if exponent = Nat.pow 2 f.exponentBits - 1 then
    if fraction = 0 then .infinite negative else .nan
  else if exponent = 0 then .finite negative fraction f.leastPower
  else
    .finite negative (Nat.pow 2 f.fractionBits + fraction) (f.leastPower + (exponent - 1 : Nat))

def floorLog2 (num den : Nat) : Int :=
  let e : Int := (Nat.log2 num : Int) - Nat.log2 den
  let (up, down) := powerParts 2 e
  if den * up ≤ num * down then e else e - 1

/-- The pattern of the number nearest to `num / den`; ties go to the even pattern, and a ratio too
large for the format goes to infinity. -/
def nearest (f : Format) (negative : Bool) (num den : Nat) : Nat :=
  if num = 0 then f.signBit negative
  else
    let power := max (floorLog2 num den - f.fractionBits) f.leastPower
    let (up, down) := powerParts 2 power
    let significand := roundHalfEven (num * down) (den * up)
    let steps := (power - f.leastPower).toNat
    f.signBit negative + min (steps * Nat.pow 2 f.fractionBits + significand) f.infinity

def ofMeaning (f : Format) : Meaning → Nat
  | .nan => f.quietNaN
  | .infinite negative => f.signBit negative + f.infinity
  | .finite negative significand power =>
    let (up, down) := powerParts 2 power
    f.nearest negative (significand * up) down

end Format

structure Float64 where
  bits : UInt64
deriving DecidableEq

namespace Float64

def ofNat (bits : Nat) : Float64 := ⟨bits.toUInt64⟩

def meaning (x : Float64) : Meaning := binary64.meaning x.bits.toNat

def isNaN (x : Float64) : Bool := x.meaning = .nan

def ofInt (i : Int) : Float64 := ofNat (binary64.nearest (i < 0) i.natAbs 1)

def ofBits32 (bits : UInt32) : Float64 :=
  ofNat (binary64.ofMeaning (binary32.meaning bits.toNat))

def toBits32 (x : Float64) : UInt32 := (binary32.ofMeaning x.meaning).toUInt32

def equal (x y : Float64) : Bool :=
  match x.meaning, y.meaning with
  | .nan, _ | _, .nan => false
  | .finite _ 0 _, .finite _ 0 _ => true
  | _, _ => x.bits == y.bits

end Float64

end UnitOfWork.Decimal
