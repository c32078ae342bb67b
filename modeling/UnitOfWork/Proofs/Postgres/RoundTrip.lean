import Mathlib.Algebra.Group.Int.Defs
import Mathlib.Algebra.Group.Nat.Defs
import UnitOfWork.Postgres.Binary
import UnitOfWork.Proofs.Calendar.Date
import UnitOfWork.Proofs.Text.Utf8
import UnitOfWork.Proofs.Value.Integer

namespace UnitOfWork.Text

theorem pow_256 (width : Nat) : Nat.pow 256 width = Nat.pow 2 (8 * width) :=
  (Nat.pow_mul 2 8 width).symm

theorem pow_256_half {width : Nat} (h : 0 < width) :
    Nat.pow 256 width = 2 * Nat.pow 2 (8 * width - 1) := by
  have hsucc : 8 * width = 8 * width - 1 + 1 := by omega
  rw [pow_256, hsucc]
  exact Nat.pow_succ'

theorem ofBigEndianSigned_bigEndianSigned {width : Nat} {i : Int} (hwidth : 0 < width)
    (hleast : -(Nat.pow 2 (8 * width - 1) : Nat) ≤ i)
    (hmost : i < (Nat.pow 2 (8 * width - 1) : Nat)) :
    ofBigEndianSigned (bigEndianSigned width i) = i := by
  have hhalf := pow_256_half hwidth
  have hpos : 0 < Nat.pow 2 (8 * width - 1) := Nat.pow_pos (by decide)
  have hnonneg : 0 ≤ i % (Nat.pow 256 width : Nat) := Int.emod_nonneg _ (by omega)
  have hlt : i % (Nat.pow 256 width : Nat) < (Nat.pow 256 width : Nat) :=
    Int.emod_lt_of_pos _ (by omega)
  have hread : (ofBigEndian (bigEndianSigned width i) : Int) = i % (Nat.pow 256 width : Nat) := by
    rw [bigEndianSigned, ofBigEndian_bigEndian (by omega), Int.toNat_of_nonneg hnonneg]
  rw [ofBigEndianSigned, hread, bigEndianSigned, length_bigEndian, Int.emod_bmod]
  exact Int.bmod_eq_of_le (by omega) (by omega)

end UnitOfWork.Text

namespace UnitOfWork.Postgres

open Text

theorem ofBigEndianSigned_eight {i : Int} (hleast : -2 ^ 63 ≤ i) (hmost : i < 2 ^ 63) :
    ofBigEndianSigned (bigEndianSigned 8 i) = i :=
  ofBigEndianSigned_bigEndianSigned (by decide) hleast hmost

def Micros (t : Timestamp) : Prop := t.nano < 1000000000 ∧ t.nano % 1000 = 0

instance (t : Timestamp) : Decidable (Micros t) := inferInstanceAs (Decidable (_ ∧ _))

theorem microsSinceEpoch_eq {t : Timestamp} (h : Micros t) :
    microsSinceEpoch t =
      ((t.dayNumber - epochDay) * 86400 + t.secondOfDay) * 1000000 + (t.nano / 1000 : Nat) := by
  obtain ⟨-, hmicros⟩ := h
  have hnano : nanosSinceEpoch t =
      (((t.dayNumber - epochDay) * 86400 + t.secondOfDay) * 1000000 + (t.nano / 1000 : Nat)) *
        1000 := by
    unfold nanosSinceEpoch
    omega
  rw [microsSinceEpoch, hnano, Int.mul_tdiv_cancel _ (by decide)]

theorem ofMicrosSinceEpoch?_microsSinceEpoch {t : Timestamp} (h : Micros t) :
    ofMicrosSinceEpoch? (microsSinceEpoch t) = some t := by
  have hsecond := t.secondOfDay_lt
  have heq := microsSinceEpoch_eq h
  obtain ⟨hleap, hmicros⟩ := h
  have hday : epochDay + microsSinceEpoch t / 1000000 / 86400 = t.dayNumber := by omega
  have hrest : (microsSinceEpoch t / 1000000 % 86400).toNat = t.secondOfDay := by omega
  have hnano : (microsSinceEpoch t % 1000000).toNat * 1000 = t.nano := by omega
  rw [ofMicrosSinceEpoch?, hday, hrest, hnano, t.ofDaySecond?_fields]

theorem microsSinceEpoch_bounds (t : Timestamp) :
    -2 ^ 63 ≤ microsSinceEpoch t ∧ microsSinceEpoch t < 2 ^ 63 := by
  obtain ⟨hlow, hhigh⟩ := Calendar.dayNumber_bounds t.isDate
  obtain ⟨hleast, hmost, -⟩ := t.isDate
  have hlast : t.year + 1 ≤ 262143 := by
    unfold Calendar.mostYear at hmost
    omega
  have hfrom := Calendar.daysBeforeYear_mono hleast
  have hto := Calendar.daysBeforeYear_mono hlast
  -- the first and the last day there are lie near enough for 64 bits
  have hfirstDay : Calendar.daysBeforeYear Calendar.leastYear = -95746130 := by decide
  have hlastDay : Calendar.daysBeforeYear 262143 = 95745399 := by decide
  have hepoch : epochDay = 730119 := by decide
  have hday : t.dayNumber = Calendar.dayNumber t.year t.month t.day := rfl
  have hsecond := t.secondOfDay_lt
  have hnano := t.isTime.2.2.2
  have habs : (nanosSinceEpoch t).natAbs < 2 ^ 63 * 1000 := by
    unfold nanosSinceEpoch
    omega
  have hmicros : (microsSinceEpoch t).natAbs = (nanosSinceEpoch t).natAbs / 1000 :=
    Int.natAbs_tdiv _ _
  omega

theorem ofBigEndianSigned_micros (t : Timestamp) :
    ofBigEndianSigned (bigEndianSigned 8 (microsSinceEpoch t)) = microsSinceEpoch t :=
  ofBigEndianSigned_eight (microsSinceEpoch_bounds t).1 (microsSinceEpoch_bounds t).2

def ColumnType.integer? : ColumnType → Option IntegerType
  | .int2 => some .i16
  | .int4 => some .i32
  | .int8 => some .i64
  | _ => none

theorem encodeInteger_of_holds {t : IntegerType} {width : Nat} {i : Int}
    (hsigned : t.signed = true) (hbits : t.bits = 8 * width) (h : t.Holds i) :
    encodeInteger width i = .ok (bigEndianSigned width i) := by
  obtain ⟨hleast, hmost⟩ := h
  simp only [IntegerType.least, IntegerType.most, hsigned, hbits, if_true] at hleast hmost
  rw [encodeInteger, if_neg (by omega), if_neg (by omega)]

theorem encodeInteger_of_not_holds {t : IntegerType} {width : Nat} {i : Int}
    (hsigned : t.signed = true) (hbits : t.bits = 8 * width) (h : ¬t.Holds i) :
    ∃ f, encodeInteger width i = .error f := by
  simp only [IntegerType.Holds, IntegerType.least, IntegerType.most, hsigned, hbits,
    if_true] at h
  by_cases hmost : (Nat.pow 2 (8 * width - 1) : Nat) ≤ i
  · exact ⟨.tooLarge, if_pos hmost⟩
  · refine ⟨.tooSmall, ?_⟩
    rw [encodeInteger, if_neg hmost, if_pos (by omega)]

theorem decodeInteger_of_holds {t : IntegerType} {width : Nat} {i : Int64} (hwidth : 0 < width)
    (hsigned : t.signed = true) (hbits : t.bits = 8 * width) (h : t.Holds i.toInt) :
    decodeInteger width (bigEndianSigned width i.toInt) = some (.int i) := by
  obtain ⟨hleast, hmost⟩ := h
  simp only [IntegerType.least, IntegerType.most, hsigned, hbits, if_true] at hleast hmost
  have hlength : (bigEndianSigned width i.toInt).length = width := length_bigEndian _ _
  have hi := ofBigEndianSigned_bigEndianSigned hwidth hleast (by omega)
  rw [decodeInteger, if_pos hlength, hi, Int64.ofInt_toInt]

theorem exists_width {type : ColumnType} {t : IntegerType} (htype : type.integer? = some t) :
    ∃ width, 0 < width ∧ t.signed = true ∧ t.bits = 8 * width ∧
      (∀ i, encode type (.int i) = (encodeInteger width i.toInt).map some) ∧
      ∀ bytes, decode type (some bytes) = decodeInteger width bytes := by
  cases type with
  | int2 =>
    cases htype
    exact ⟨2, by decide, rfl, rfl, fun _ => rfl, fun _ => rfl⟩
  | int4 =>
    cases htype
    exact ⟨4, by decide, rfl, rfl, fun _ => rfl, fun _ => rfl⟩
  | int8 =>
    cases htype
    refine ⟨8, by decide, rfl, rfl, ?_, fun _ => rfl⟩
    intro i
    rw [encodeInteger_of_holds rfl rfl (IntegerType.holds_i64 i)]
    rfl
  | _ => cases htype

theorem encode_int_of_holds {type : ColumnType} {t : IntegerType}
    (htype : type.integer? = some t) {i : Int64} (h : t.Holds i.toInt) :
    ∃ cell, encode type (.int i) = .ok cell ∧ decode type cell = some (.int i) := by
  obtain ⟨width, hwidth, hsigned, hbits, hencode, hdecode⟩ := exists_width htype
  refine ⟨some (bigEndianSigned width i.toInt), ?_, ?_⟩
  · rw [hencode, encodeInteger_of_holds hsigned hbits h]
    rfl
  · rw [hdecode, decodeInteger_of_holds hwidth hsigned hbits h]

theorem encode_int_of_not_holds {type : ColumnType} {t : IntegerType}
    (htype : type.integer? = some t) {i : Int64} (h : ¬t.Holds i.toInt) :
    ∃ f, encode type (.int i) = .error f := by
  obtain ⟨width, -, hsigned, hbits, hencode, -⟩ := exists_width htype
  obtain ⟨f, hf⟩ := encodeInteger_of_not_holds hsigned hbits h
  refine ⟨f, ?_⟩
  rw [hencode, hf]
  rfl

theorem ofBigEndian_bits (x : Decimal.Float64) :
    Decimal.Float64.ofNat (ofBigEndian (bigEndian 8 x.bits.toNat)) = x := by
  have hlt : x.bits.toNat < Nat.pow 256 8 := x.bits.toNat_lt
  rw [ofBigEndian_bigEndian hlt]
  exact congrArg Decimal.Float64.mk UInt64.ofNat_toNat

def ColumnType.IsText (type : ColumnType) : Prop :=
  type = .text ∨ type = .varchar ∨ type = .bpchar ∨ type = .name

def ColumnType.IsTime (type : ColumnType) : Prop := type = .timestamp ∨ type = .timestamptz

inductive Matches : Value → ColumnType → Prop where
  | null (type : ColumnType) (h : type.accepted = true) : Matches .null type
  | int (i : Int64) (type : ColumnType) (t : IntegerType) (h : type.integer? = some t) :
    Matches (.int i) type
  | float (x : Decimal.Float64) : Matches (.float x) .float8
  | bool (b : Bool) : Matches (.bool b) .bool
  | text (s : String) (type : ColumnType) (h : type.IsText) : Matches (.text s) type
  | blob (bytes : List UInt8) : Matches (.blob bytes) .bytea
  | timestamp (t : Timestamp) (type : ColumnType) (h : type.IsTime) (hmicros : Micros t) :
    Matches (.timestamp t) type

theorem Matches.accepted {v : Value} {type : ColumnType} (h : Matches v type) :
    type.accepted = true := by
  cases h with
  | null type h => exact h
  | int i type t h => cases type <;> first | rfl | cases h
  | text s type h => obtain rfl | rfl | rfl | rfl := h <;> rfl
  | timestamp t type h hmicros => obtain rfl | rfl := h <;> rfl
  | _ => rfl

theorem decode_timestamp {t : Timestamp} {type : ColumnType} (htype : type.IsTime)
    (hmicros : Micros t) :
    decode type (some (bigEndianSigned 8 (microsSinceEpoch t))) = some (.timestamp t) := by
  have hlength : (bigEndianSigned 8 (microsSinceEpoch t)).length = 8 := length_bigEndian _ _
  have hread := ofMicrosSinceEpoch?_microsSinceEpoch hmicros
  obtain rfl | rfl := htype <;>
    simp only [decode, decodeBytes, hlength, if_true, ofBigEndianSigned_micros, hread,
      Option.map_some]

theorem decode_text (s : String) {type : ColumnType} (htype : type.IsText) :
    decode type (some (encodeUtf8 s)) = some (.text s) := by
  obtain rfl | rfl | rfl | rfl := htype <;>
    simp only [decode, decodeBytes, decodeUtf8_encodeUtf8, Except.toOption, Option.map_some]

theorem exists_encode {v : Value} {type : ColumnType} (h : Matches v type)
    (hkind : ∀ i, v ≠ .int i) :
    ∃ cell, encode type v = .ok cell ∧ decode type cell = some v := by
  cases h with
  | null type h =>
    have hreadable : type.readable = true := by rw [ColumnType.readable, h, Bool.true_or]
    exact ⟨none, rfl, if_pos hreadable⟩
  | int i type t h => exact absurd rfl (hkind i)
  | float x =>
    have hlength : (bigEndian 8 x.bits.toNat).length = 8 := length_bigEndian _ _
    refine ⟨some (bigEndian 8 x.bits.toNat), rfl, ?_⟩
    simp only [decode, decodeBytes, hlength, if_true, ofBigEndian_bits]
  | bool b => exact ⟨some [if b then 1 else 0], rfl, by cases b <;> rfl⟩
  | text s type h => exact ⟨some (encodeUtf8 s), rfl, decode_text s h⟩
  | blob bytes => exact ⟨some bytes, rfl, rfl⟩
  | timestamp t type h hmicros =>
    exact ⟨some (bigEndianSigned 8 (microsSinceEpoch t)), rfl, decode_timestamp h hmicros⟩

/-- A value of the parameter's kind is written and read back as it was. An integer is refused when
the type is too narrow for it, and nothing else is. -/
theorem bound_reads_back {v : Value} {type : ColumnType} (h : Matches v type) :
    encodeChecked type v = encode type v ∧
      ((∃ f, encode type v = .error f) ↔
        ∃ i t, v = .int i ∧ type.integer? = some t ∧ ¬t.Holds i.toInt) ∧
      ∀ cell, encode type v = .ok cell → decode type cell = some v := by
  refine ⟨if_pos h.accepted, ?_⟩
  by_cases hwide : ∃ i t, v = .int i ∧ type.integer? = some t ∧ ¬t.Holds i.toInt
  · obtain ⟨i, t, rfl, htype, hnot⟩ := hwide
    obtain ⟨f, hf⟩ := encode_int_of_not_holds htype hnot
    constructor
    · exact ⟨fun _ => ⟨i, t, rfl, htype, hnot⟩, fun _ => ⟨f, hf⟩⟩
    · intro cell hcell
      cases hf.symm.trans hcell
  · have hwritten : ∃ cell, encode type v = .ok cell ∧ decode type cell = some v := by
      by_cases hkind : ∃ i, v = .int i
      · obtain ⟨i, rfl⟩ := hkind
        cases h with
        | int i type t htype =>
          by_cases hholds : t.Holds i.toInt
          · exact encode_int_of_holds htype hholds
          · exact absurd ⟨i, t, rfl, htype, hholds⟩ hwide
      · exact exists_encode h (fun i hi => hkind ⟨i, hi⟩)
    obtain ⟨cell, hok, hread⟩ := hwritten
    constructor
    · constructor
      · rintro ⟨f, hf⟩
        cases hok.symm.trans hf
      · intro h
        exact absurd h hwide
    · intro cell' hcell'
      cases hok.symm.trans hcell'
      exact hread

theorem bound_reads_back_before_epoch :
    ∃ t : Timestamp, t.year = -43 ∧ t.nano = 999999000 ∧
      (encodeChecked .timestamptz (.timestamp t) = encode .timestamptz (.timestamp t) ∧
        ((∃ f, encode .timestamptz (.timestamp t) = .error f) ↔
          ∃ i u, Value.timestamp t = .int i ∧ ColumnType.timestamptz.integer? = some u ∧
            ¬u.Holds i.toInt) ∧
        ∀ cell, encode .timestamptz (.timestamp t) = .ok cell →
          decode .timestamptz cell = some (.timestamp t)) :=
  ⟨⟨-43, 12, 31, 23, 59, 59, 999999000, by decide, by decide⟩, rfl, rfl,
    bound_reads_back (.timestamp _ _ (.inr rfl) (by decide))⟩

end UnitOfWork.Postgres
