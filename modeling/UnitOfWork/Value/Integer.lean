import UnitOfWork.Value.Basic

namespace UnitOfWork

inductive IntegerType where
  | i8
  | i16
  | i32
  | i64
  | isize
  | u8
  | u16
  | u32
  | u64
  | usize
deriving DecidableEq

namespace IntegerType

def bits : IntegerType → Nat
  | i8 | u8 => 8
  | i16 | u16 => 16
  | i32 | u32 => 32
  | i64 | isize | u64 | usize => 64

def signed : IntegerType → Bool
  | i8 | i16 | i32 | i64 | isize => true
  | u8 | u16 | u32 | u64 | usize => false

def widens : IntegerType → Bool
  | isize | u64 | usize => false
  | _ => true

def least (t : IntegerType) : Int := if t.signed then -(Nat.pow 2 (t.bits - 1) : Nat) else 0

def most (t : IntegerType) : Int :=
  (Nat.pow 2 (if t.signed then t.bits - 1 else t.bits) : Nat) - 1

def Holds (t : IntegerType) (i : Int) : Prop := t.least ≤ i ∧ i ≤ t.most

instance (t : IntegerType) (i : Int) : Decidable (t.Holds i) :=
  inferInstanceAs (Decidable (_ ∧ _))

def narrow (t : IntegerType) (i : Int64) : Int :=
  if t.signed then i.toInt.bmod (Nat.pow 2 t.bits) else i.toInt % (Nat.pow 2 t.bits : Nat)

end IntegerType

namespace Value

def ofInteger (t : IntegerType) (i : Int) (_ : t.widens = true ∧ t.Holds i) : Value :=
  .int (Int64.ofInt i)

def ofBits32 (bits : UInt32) : Value := .float (.ofBits32 bits)

def ofOption {α : Type} (f : α → Value) : Option α → Value
  | none => .null
  | some a => f a

end Value

end UnitOfWork
