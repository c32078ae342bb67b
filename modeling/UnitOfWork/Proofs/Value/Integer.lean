import Mathlib.Data.Int.ModEq
import UnitOfWork.Value.Integer

namespace UnitOfWork

namespace IntegerType

def ofBits (t : IntegerType) (b : BitVec t.bits) : Int := if t.signed then b.toInt else b.toNat

variable {t : IntegerType} {i : Int64} {m n : Int}

theorem most_eq (t : IntegerType) : t.most = t.least + 2 ^ t.bits - 1 := by
  cases t <;> rfl

theorem pow_bits (t : IntegerType) : Nat.pow 2 t.bits = 2 * Nat.pow 2 (t.bits - 1) := by
  cases t <;> rfl

theorem bits_dvd (t : IntegerType) : Nat.pow 2 t.bits ∣ Nat.pow 2 64 := by
  have hbits : t.bits ≤ 64 := by cases t <;> decide
  exact Nat.pow_dvd_pow 2 hbits

theorem holds_zero (t : IntegerType) : t.Holds 0 := by
  cases t <;> decide

theorem holds_i64 (i : Int64) : i64.Holds i.toInt :=
  ⟨i.le_toInt, Int.le_sub_one_of_lt i.toInt_lt⟩

theorem holds_i64_of_widens (hwidens : t.widens = true) (h : t.Holds n) : i64.Holds n := by
  have hrange : i64.least ≤ t.least ∧ t.most ≤ i64.most := by
    cases t with
    | isize | u64 | usize => cases hwidens
    | _ => decide
  exact ⟨Int.le_trans hrange.1 h.1, Int.le_trans h.2 hrange.2⟩

theorem toInt_ofInt_of_widens (hwidens : t.widens = true) (h : t.Holds n) :
    (Int64.ofInt n).toInt = n := by
  obtain ⟨hleast, hmost⟩ := holds_i64_of_widens hwidens h
  exact Int64.toInt_ofInt_of_le hleast (Int.lt_of_le_sub_one hmost)

theorem eq_of_modEq (hm : t.Holds m) (hn : t.Holds n) (h : m ≡ n [ZMOD 2 ^ t.bits]) : m = n := by
  have hmost := t.most_eq
  obtain ⟨hmleast, hmmost⟩ := hm
  obtain ⟨hnleast, hnmost⟩ := hn
  -- a type has only as many numbers as its bits can write
  have hnear : |n - m| < 2 ^ t.bits := by
    rw [abs_lt]
    constructor <;> omega
  have hzero := Int.eq_zero_of_abs_lt_dvd h.dvd hnear
  omega

theorem holds_narrow (t : IntegerType) (i : Int64) : t.Holds (t.narrow i) := by
  have hpos : 0 < Nat.pow 2 t.bits := Nat.two_pow_pos _
  have hhalf := t.pow_bits
  rw [Holds, least, most, narrow]
  cases t.signed with
  | true =>
    have hleast := Int.le_bmod (x := i.toInt) hpos
    have hmost := Int.bmod_lt (x := i.toInt) hpos
    simp only [if_true]
    omega
  | false =>
    have hleast := Int.emod_nonneg i.toInt (Int.natCast_ne_zero.mpr hpos.ne')
    have hmost := Int.emod_lt_of_pos i.toInt (Int.natCast_pos.mpr hpos)
    simp only [Bool.false_eq_true, if_false]
    omega

theorem narrow_modEq (t : IntegerType) (i : Int64) : t.narrow i ≡ i.toInt [ZMOD 2 ^ t.bits] := by
  have hpow : ((Nat.pow 2 t.bits : Nat) : Int) = 2 ^ t.bits := Nat.cast_pow 2 t.bits
  rw [narrow, ← hpow]
  split
  · exact Int.bmod_emod
  · exact Int.emod_emod_of_dvd _ (dvd_refl _)

theorem narrow_eq_iff : t.narrow i = n ↔ t.Holds n ∧ n ≡ i.toInt [ZMOD 2 ^ t.bits] := by
  constructor
  · rintro rfl
    exact ⟨t.holds_narrow i, t.narrow_modEq i⟩
  · rintro ⟨hholds, hmod⟩
    exact eq_of_modEq (t.holds_narrow i) hholds ((t.narrow_modEq i).trans hmod.symm)

theorem narrow_eq_self_iff : t.narrow i = i.toInt ↔ t.Holds i.toInt :=
  narrow_eq_iff.trans (and_iff_left (Int.ModEq.refl _))

theorem narrow_eq_zero_iff : t.narrow i = 0 ↔ (2 : Int) ^ t.bits ∣ i.toInt := by
  rw [narrow_eq_iff, and_iff_right t.holds_zero, Int.modEq_comm, Int.modEq_zero_iff_dvd]

theorem narrow_eq_ofBits (t : IntegerType) (i : Int64) :
    t.narrow i = t.ofBits (i.toBitVec.setWidth t.bits) := by
  have hi : i.toInt = (i.toBitVec.toNat : Int).bmod (Nat.pow 2 64) :=
    BitVec.toInt_eq_toNat_bmod i.toBitVec
  rw [narrow, ofBits, hi]
  split
  · rw [BitVec.toInt_setWidth]
    exact Int.bmod_bmod_of_dvd t.bits_dvd
  · rw [BitVec.toNat_setWidth, Int.natCast_emod]
    exact Int.ModEq.of_dvd (Int.natCast_dvd_natCast.mpr t.bits_dvd) Int.bmod_emod

end IntegerType

end UnitOfWork
