namespace UnitOfWork.Text

def bigEndian : Nat → Nat → List UInt8
  | 0, _ => []
  | width + 1, n => (n / Nat.pow 256 width).toUInt8 :: bigEndian width n

def ofBigEndianFrom (n : Nat) : List UInt8 → Nat
  | [] => n
  | b :: bytes => ofBigEndianFrom (256 * n + b.toNat) bytes

def ofBigEndian (bytes : List UInt8) : Nat := ofBigEndianFrom 0 bytes

theorem length_bigEndian (width n : Nat) : (bigEndian width n).length = width := by
  induction width with
  | zero => rfl
  | succ width ih => simp [bigEndian, ih]

theorem ofBigEndianFrom_bigEndian (width m n : Nat) :
    ofBigEndianFrom m (bigEndian width n) = m * Nat.pow 256 width + n % Nat.pow 256 width := by
  induction width generalizing m with
  | zero => simp [bigEndian, ofBigEndianFrom, Nat.mod_one]
  | succ width ih =>
    have h : (n / Nat.pow 256 width).toUInt8.toNat = n / Nat.pow 256 width % 256 := by simp
    have hp : Nat.pow 256 (width + 1) = Nat.pow 256 width * 256 := rfl
    rw [bigEndian, ofBigEndianFrom, ih, h, hp, Nat.mod_mul]
    grind

theorem ofBigEndian_bigEndian {width n : Nat} (h : n < Nat.pow 256 width) :
    ofBigEndian (bigEndian width n) = n := by
  rw [ofBigEndian, ofBigEndianFrom_bigEndian, Nat.zero_mul, Nat.zero_add, Nat.mod_eq_of_lt h]

def bigEndianSigned (width : Nat) (i : Int) : List UInt8 :=
  bigEndian width (i % Nat.pow 256 width).toNat

def ofBigEndianSigned (bytes : List UInt8) : Int :=
  (ofBigEndian bytes : Int).bmod (Nat.pow 256 bytes.length)

end UnitOfWork.Text
