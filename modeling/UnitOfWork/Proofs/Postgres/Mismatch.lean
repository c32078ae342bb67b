import UnitOfWork.Proofs.Postgres.RoundTrip

namespace UnitOfWork.Decimal

def Meaning.Is (i : Int) : Meaning → Prop
  | .finite negative significand power =>
    let (up, down) := powerParts 2 power
    (if negative then -(significand * up : Nat) else (significand * up : Nat) : Int) = i * down
  | _ => False

theorem eq_zero_of_fraction {significand a p : Nat} (hp : 2 ≤ p) (hle : significand ≤ a)
    (h : significand = a * p) : a = 0 := by
  have htwice : a * 2 ≤ a * p := Nat.mul_le_mul_left a hp
  omega

/-- The numbers whose last place is an integer grow faster than their patterns: the two sequences
pass each other between two powers of two, without meeting. -/
theorem ne_pattern {fraction k a : Nat} (hf : fraction < 2 ^ 52) (hk : k ≤ 971)
    (ha : a = (1075 + k) * 2 ^ 52 + fraction ∨ a + k * 2 ^ 52 + fraction = 973 * 2 ^ 52) :
    (2 ^ 52 + fraction) * Nat.pow 2 k ≠ a := by
  intro h
  by_cases hsmall : k ≤ 8
  · have hle : (2 ^ 52 + fraction) * Nat.pow 2 k ≤ 2 ^ 53 * Nat.pow 2 8 :=
      Nat.mul_le_mul (by omega) (Nat.pow_le_pow_right (by decide) hsmall)
    have hpow : Nat.pow 2 8 = 256 := rfl
    omega
  by_cases hlarge : 11 ≤ k
  · have hle : 2 ^ 52 * Nat.pow 2 11 ≤ (2 ^ 52 + fraction) * Nat.pow 2 k :=
      Nat.mul_le_mul (by omega) (Nat.pow_le_pow_right (by decide) hlarge)
    have hpow : Nat.pow 2 11 = 2048 := rfl
    omega
  obtain rfl | rfl : k = 9 ∨ k = 10 := by omega
  · have hpow : Nat.pow 2 9 = 512 := rfl
    rw [hpow] at h
    omega
  · have hpow : Nat.pow 2 10 = 1024 := rfl
    rw [hpow] at h
    omega

theorem powerParts_of_lt {n : Nat} (h : n < 1074) :
    powerParts 2 (binary64.leastPower + n) = (1, Nat.pow 2 (1074 - n)) := by
  have hleast : binary64.leastPower = -1074 := rfl
  have heq : binary64.leastPower + n = .negSucc (1073 - n) := by omega
  have hsucc : 1073 - n + 1 = 1074 - n := by omega
  rw [heq, powerParts, hsucc]

theorem powerParts_of_le {n : Nat} (h : 1074 ≤ n) :
    powerParts 2 (binary64.leastPower + n) = (Nat.pow 2 (n - 1074), 1) := by
  have hleast : binary64.leastPower = -1074 := rfl
  have heq : binary64.leastPower + n = .ofNat (n - 1074) := by
    rw [Int.ofNat_eq_natCast]
    omega
  rw [heq, powerParts]

theorem Meaning.Is.natAbs {negative : Bool} {significand up down : Nat} {power i : Int}
    (hparts : powerParts 2 power = (up, down)) (h : Is i (.finite negative significand power)) :
    significand * up = i.natAbs * down := by
  simp only [Is, hparts] at h
  have habs := congrArg Int.natAbs h
  rw [Int.natAbs_mul, Int.natAbs_natCast] at habs
  cases negative with
  | false => rw [← habs, if_neg Bool.false_ne_true, Int.natAbs_natCast]
  | true => rw [← habs, if_pos rfl, Int.natAbs_neg, Int.natAbs_natCast]

theorem fields_of_meaning {b significand : Nat} {negative : Bool} {power : Int}
    (h : binary64.meaning b = .finite negative significand power) :
    ∃ n : Nat, power = binary64.leastPower + n ∧ n ≤ 2045 ∧
      ((significand = b % 2 ^ 52 ∧ n = 0 ∧ b / 2 ^ 52 % 2 ^ 11 = 0) ∨
        (significand = 2 ^ 52 + b % 2 ^ 52 ∧ b / 2 ^ 52 % 2 ^ 11 = n + 1)) := by
  rw [Format.meaning] at h
  split at h
  · split at h <;> cases h
  split at h
  case isTrue hexponent =>
    cases h
    exact ⟨0, (Int.add_zero _).symm, by decide, .inl ⟨rfl, rfl, hexponent⟩⟩
  case isFalse hlast hexponent =>
    cases h
    have hlt : b / 2 ^ 52 % 2 ^ 11 ≠ 2 ^ 11 - 1 := hlast
    have hpos : b / 2 ^ 52 % 2 ^ 11 ≠ 0 := hexponent
    exact ⟨b / 2 ^ 52 % 2 ^ 11 - 1, rfl, by omega, .inr ⟨rfl, by omega⟩⟩

theorem eq_zero_of_is {b : Nat} (hb : b < 2 ^ 64)
    (h : (binary64.meaning b).Is ((b : Int).bmod (2 ^ 64))) : b = 0 := by
  have hdistance : ((b : Int).bmod (2 ^ 64)).natAbs = if b < 2 ^ 63 then b else 2 ^ 64 - b := by
    rw [Int.bmod_def]
    split <;> split <;> omega
  cases hmeaning : binary64.meaning b with
  | nan | infinite =>
    rw [hmeaning] at h
    exact h.elim
  | finite negative significand power =>
    rw [hmeaning] at h
    obtain ⟨n, rfl, hn, hfields⟩ := fields_of_meaning hmeaning
    by_cases hfraction : n < 1074
    · have heq := h.natAbs (powerParts_of_lt hfraction)
      have hpow : 2 ^ 1 ≤ Nat.pow 2 (1074 - n) := Nat.pow_le_pow_right (by decide) (by omega)
      have hle : significand ≤ ((b : Int).bmod (2 ^ 64)).natAbs := by
        rw [hdistance]
        split <;> omega
      have hzero := eq_zero_of_fraction hpow hle (by omega)
      rw [hdistance] at hzero
      split at hzero <;> omega
    · have heq := h.natAbs (powerParts_of_le (by omega))
      obtain ⟨-, rfl, -⟩ | ⟨rfl, hexponent⟩ := hfields
      · omega
      · rw [Nat.mul_one] at heq
        refine absurd heq (ne_pattern (by omega) (by omega) ?_)
        rw [hdistance]
        split <;> omega

theorem is_zero : (binary64.meaning 0).Is 0 := by
  have hmeaning : binary64.meaning 0 = .finite false 0 (-1074) := by decide
  rw [hmeaning]
  exact (Int.zero_mul _).symm

theorem meaning_ofNat {b : Nat} (hb : b < 2 ^ 64) :
    (Float64.ofNat b).meaning = binary64.meaning b :=
  congrArg binary64.meaning (UInt64.toNat_ofNat_of_lt hb)

end UnitOfWork.Decimal

namespace UnitOfWork.Postgres

open Text

def ColumnType.kind? : ColumnType → Option Kind
  | .int2 | .int4 | .int8 => some .int
  | .float4 | .float8 => some .float
  | .text | .varchar | .bpchar | .name => some .text
  | .bool => some .bool
  | .timestamp | .timestamptz => some .timestamp
  | .bytea => some .blob
  | _ => none

def SameNumber : Value → Value → Prop
  | .int i, .float x => x.meaning.Is i.toInt
  | .float x, .int i => x.meaning.Is i.toInt
  | _, _ => False

def Faithful (type : ColumnType) (v : Value) : Prop :=
  (∃ f, encode type v = .error f) ∨
    (∃ bytes, encode type v = .ok (some bytes) ∧ type.width? ≠ some bytes.length) ∨
    ∃ w, type.kind? = some w.kind ∧ SameNumber v w ∧ encode type v = encode type w

/-- A value is written in the width of the type and read as another. -/
def Misread (type : ColumnType) (v : Value) : Prop :=
  ∃ bytes w, encode type v = .ok (some bytes) ∧ type.width? = some bytes.length ∧
    decode type (some bytes) = some w ∧ ¬SameNumber v w

inductive Clashes : ColumnType → Value → Prop where
  | integer_as_float (i : Int64) (h : i ≠ 0) : Clashes .float8 (.int i)
  | float_as_integer (x : Decimal.Float64) (h : x.bits ≠ 0) : Clashes .int8 (.float x)
  | integer_as_time (type : ColumnType) (h : type.IsTime) (i : Int64) : Clashes type (.int i)
  | float_as_time (type : ColumnType) (h : type.IsTime) (x : Decimal.Float64) :
    Clashes type (.float x)
  | time_as_integer (t : Timestamp) : Clashes .int8 (.timestamp t)
  | time_as_float (t : Timestamp) : Clashes .float8 (.timestamp t)

theorem kind_of_decode {type : ColumnType} (htype : type.IsTime) {bytes : List UInt8} {w : Value}
    (h : decode type (some bytes) = some w) : type.kind? = some w.kind := by
  obtain rfl | rfl := htype <;>
  · simp only [decode, decodeBytes] at h
    split at h
    · obtain ⟨t, -, rfl⟩ := Option.map_eq_some_iff.mp h
      rfl
    · cases h

theorem of_other_width {type : ColumnType} {v : Value} {bytes : List UInt8}
    (hencode : encode type v = .ok (some bytes)) (hwidth : type.width? ≠ some bytes.length) :
    Faithful type v ∧ ¬Misread type v := by
  constructor
  · exact .inr (.inl ⟨bytes, hencode, hwidth⟩)
  · rintro ⟨bytes', w, hencode', hwidth', -⟩
    cases hencode.symm.trans hencode'
    exact hwidth hwidth'

theorem of_width {type : ColumnType} {v : Value} {bytes : List UInt8}
    (hencode : encode type v = .ok (some bytes)) (hwidth : type.width? = some bytes.length) :
    (Faithful type v ↔
      ∃ w, type.kind? = some w.kind ∧ SameNumber v w ∧ encode type v = encode type w) ∧
    (Misread type v ↔ ∃ w, decode type (some bytes) = some w ∧ ¬SameNumber v w) := by
  constructor
  · constructor
    · rintro (⟨f, hf⟩ | ⟨bytes', hencode', hwidth'⟩ | h)
      · cases hencode.symm.trans hf
      · cases hencode.symm.trans hencode'
        exact absurd hwidth hwidth'
      · exact h
    · exact fun h => .inr (.inr h)
  · constructor
    · rintro ⟨bytes', w, hencode', -, hdecode, hnot⟩
      cases hencode.symm.trans hencode'
      exact ⟨w, hdecode, hnot⟩
    · rintro ⟨w, hdecode, hnot⟩
      exact ⟨bytes, w, hencode, hwidth, hdecode, hnot⟩

structure Verdict (type : ColumnType) (v : Value) : Prop where
  faithful : Faithful type v ↔ ¬Clashes type v
  misread : Misread type v ↔
    Clashes type v ∧ ∃ cell w, encode type v = .ok cell ∧ decode type cell = some w
  number : Clashes type v → ¬type.IsTime → Misread type v

theorem Verdict.of_faithful {type : ColumnType} {v : Value}
    (h : Faithful type v ∧ ¬Misread type v) (hno : ¬Clashes type v) : Verdict type v := by
  constructor
  · exact ⟨fun _ => hno, fun _ => h.1⟩
  · constructor
    · intro hmisread
      exact absurd hmisread h.2
    · rintro ⟨hclash, -⟩
      exact absurd hclash hno
  · intro hclash
    exact absurd hclash hno

theorem Verdict.of_misread {type : ColumnType} {v : Value}
    (h : ¬Faithful type v ∧ Misread type v) (hclash : Clashes type v) : Verdict type v := by
  constructor
  · constructor
    · intro hfaithful
      exact absurd hfaithful h.1
    · intro hno
      exact absurd hclash hno
  · obtain ⟨bytes, w, hencode, -, hdecode, -⟩ := h.2
    exact ⟨fun _ => ⟨hclash, some bytes, w, hencode, hdecode⟩, fun _ => h.2⟩
  · exact fun _ _ => h.2

theorem not_sameNumber_of_time {type : ColumnType} {w : Value} (htype : type.IsTime)
    (hkind : type.kind? = some w.kind) (v : Value) : ¬SameNumber v w := by
  have htime : w.kind = .timestamp := by
    obtain rfl | rfl := htype <;> exact (Option.some.inj hkind).symm
  cases w with
  | timestamp t =>
    intro h
    cases v <;> exact h
  | _ => cases htime

theorem Verdict.of_time {type : ColumnType} {v : Value} {bytes : List UInt8}
    (htype : type.IsTime) (hencode : encode type v = .ok (some bytes))
    (hlength : bytes.length = 8) (hclash : Clashes type v) : Verdict type v := by
  have hwidth : type.width? = some bytes.length := by
    rw [hlength]
    obtain rfl | rfl := htype <;> rfl
  obtain ⟨hfaithful, hmisread⟩ := of_width hencode hwidth
  constructor
  · rw [hfaithful]
    constructor
    · rintro ⟨w, hw, hsame, -⟩
      exact absurd hsame (not_sameNumber_of_time htype hw v)
    · intro hno
      exact absurd hclash hno
  · rw [hmisread]
    constructor
    · rintro ⟨w, hdecode, -⟩
      exact ⟨hclash, some bytes, w, hencode, hdecode⟩
    · rintro ⟨-, cell, w, hencode', hdecode⟩
      cases hencode.symm.trans hencode'
      exact ⟨w, hdecode, not_sameNumber_of_time htype (kind_of_decode htype hdecode) v⟩
  · intro _ hnot
    exact absurd htype hnot

theorem matches_of_kind {type : ColumnType} {w : Value} (htype : type = .int8 ∨ type = .float8)
    (hkind : type.kind? = some w.kind) : Matches w type := by
  obtain rfl | rfl := htype
  · cases w with
    | int i => exact .int i _ .i64 rfl
    | _ => cases hkind
  · cases w with
    | float x => exact .float x
    | _ => cases hkind

theorem misread_of_number {type : ColumnType} {v w : Value} {bytes : List UInt8}
    (htype : type = .int8 ∨ type = .float8) (hencode : encode type v = .ok (some bytes))
    (hlength : bytes.length = 8) (hdecode : decode type (some bytes) = some w)
    (hnot : ¬SameNumber v w) : ¬Faithful type v ∧ Misread type v := by
  have hwidth : type.width? = some bytes.length := by
    rw [hlength]
    obtain rfl | rfl := htype <;> rfl
  obtain ⟨hfaithful, hmisread⟩ := of_width hencode hwidth
  refine ⟨?_, hmisread.mpr ⟨w, hdecode, hnot⟩⟩
  rw [hfaithful]
  rintro ⟨w', hkind, hsame, heq⟩
  have hread := (bound_reads_back (matches_of_kind htype hkind)).2.2 _ (heq.symm.trans hencode)
  cases hdecode.symm.trans hread
  exact hnot hsame

theorem faithful_of_number {type : ColumnType} {v w : Value}
    (htype : type = .int8 ∨ type = .float8) (hkind : type.kind? = some w.kind)
    (hsame : SameNumber v w) (heq : encode type v = encode type w) :
    Faithful type v ∧ ¬Misread type v := by
  refine ⟨.inr (.inr ⟨w, hkind, hsame, heq⟩), ?_⟩
  rintro ⟨bytes, w', hencode, -, hdecode, hnot⟩
  have hread := (bound_reads_back (matches_of_kind htype hkind)).2.2 _ (heq.symm.trans hencode)
  cases hdecode.symm.trans hread
  exact hnot hsame

theorem integer_in_float8 (i : Int64) : Verdict .float8 (.int i) := by
  by_cases hzero : i = 0
  · subst hzero
    have hsame : SameNumber (.int 0) (.float ⟨0⟩) := Decimal.is_zero
    refine .of_faithful (faithful_of_number (.inr rfl) rfl hsame rfl) ?_
    intro h
    cases h with
    | integer_as_float i h => exact h rfl
    | integer_as_time type h i => obtain h | h := h <;> cases h
  · have hbits : (i.toInt % 2 ^ 64).toNat < Nat.pow 256 8 := by
      have hpow : Nat.pow 256 8 = 2 ^ 64 := rfl
      omega
    generalize hb : (i.toInt % 2 ^ 64).toNat = b at hbits
    have hencode : encode .float8 (.int i) = .ok (some (bigEndian 8 b)) := by
      rw [← hb]
      rfl
    have hlength : (bigEndian 8 b).length = 8 := length_bigEndian _ _
    have hdecode : decode .float8 (some (bigEndian 8 b)) = some (.float (.ofNat b)) := by
      simp only [decode, decodeBytes, hlength, if_true, ofBigEndian_bigEndian hbits]
    have hsigned : i.toInt = (b : Int).bmod (2 ^ 64) := by
      have hleast := i.le_toInt
      have hmost := i.toInt_lt
      rw [Int.bmod_def]
      split <;> omega
    have hnot : ¬SameNumber (.int i) (.float (.ofNat b)) := by
      intro hsame
      have his : (Decimal.binary64.meaning b).Is ((b : Int).bmod (2 ^ 64)) := by
        rw [← hsigned, ← Decimal.meaning_ofNat hbits]
        exact hsame
      rw [Decimal.eq_zero_of_is hbits his] at hsigned
      exact hzero (Int64.toInt_inj.mp hsigned)
    exact .of_misread (misread_of_number (.inr rfl) hencode hlength hdecode hnot)
      (.integer_as_float i hzero)

theorem float_in_int8 (x : Decimal.Float64) : Verdict .int8 (.float x) := by
  by_cases hzero : x.bits = 0
  · obtain ⟨_⟩ := x
    subst hzero
    have hsame : SameNumber (.float ⟨0⟩) (.int 0) := Decimal.is_zero
    refine .of_faithful (faithful_of_number (.inl rfl) rfl hsame rfl) ?_
    intro h
    cases h with
    | float_as_integer x h => exact h rfl
    | float_as_time type h x => obtain h | h := h <;> cases h
  · have hbits : x.bits.toNat < Nat.pow 256 8 := x.bits.toNat_lt
    have hlength : (bigEndian 8 x.bits.toNat).length = 8 := length_bigEndian _ _
    have hdecode : decode .int8 (some (bigEndian 8 x.bits.toNat)) =
        some (.int (Int64.ofInt ((x.bits.toNat : Int).bmod (Nat.pow 256 8)))) := by
      simp only [decode, decodeBytes, decodeInteger, hlength, if_true, ofBigEndianSigned,
        ofBigEndian_bigEndian hbits]
    have hint : (Int64.ofInt ((x.bits.toNat : Int).bmod (Nat.pow 256 8))).toInt =
        (x.bits.toNat : Int).bmod (2 ^ 64) := by
      rw [Int64.toInt_ofInt]
      exact Int.bmod_bmod
    have hnot : ¬SameNumber (.float x)
        (.int (Int64.ofInt ((x.bits.toNat : Int).bmod (Nat.pow 256 8)))) := by
      intro hsame
      have his : (Decimal.binary64.meaning x.bits.toNat).Is
          ((x.bits.toNat : Int).bmod (2 ^ 64)) := by
        rw [← hint]
        exact hsame
      exact hzero (UInt64.toNat_inj.mp (Decimal.eq_zero_of_is hbits his))
    exact .of_misread (misread_of_number (.inl rfl) rfl hlength hdecode hnot)
      (.float_as_integer x hzero)

theorem time_in_number {type : ColumnType} (htype : type = .int8 ∨ type = .float8)
    (t : Timestamp) : Verdict type (.timestamp t) := by
  have hlength : (bigEndianSigned 8 (microsSinceEpoch t)).length = 8 := length_bigEndian _ _
  have hnot : ∀ w, ¬SameNumber (.timestamp t) w := fun _ h => h
  have hencode : encode type (.timestamp t) =
      .ok (some (bigEndianSigned 8 (microsSinceEpoch t))) := rfl
  have hdecode : ∃ w, decode type (some (bigEndianSigned 8 (microsSinceEpoch t))) = some w := by
    obtain rfl | rfl := htype <;>
      simp only [decode, decodeBytes, decodeInteger, hlength, if_true, Option.some.injEq,
        exists_eq']
  obtain ⟨w, hw⟩ := hdecode
  refine .of_misread (misread_of_number htype hencode hlength hw (hnot w)) ?_
  obtain rfl | rfl := htype
  · exact .time_as_integer t
  · exact .time_as_float t

theorem Verdict.of_other_width {type : ColumnType} {v : Value} {bytes : List UInt8} {width : Nat}
    (hencode : encode type v = .ok (some bytes)) (htype : type.width? = some width)
    (hlength : bytes.length ≠ width) (hno : ¬Clashes type v) : Verdict type v := by
  refine .of_faithful (Postgres.of_other_width hencode ?_) hno
  rw [htype]
  intro h
  exact hlength (Option.some.inj h).symm

theorem Clashes.width {type : ColumnType} {v : Value} (h : Clashes type v) :
    type.width? = some 8 := by
  cases h with
  | integer_as_time type h | float_as_time type h => obtain rfl | rfl := h <;> rfl
  | _ => rfl

theorem Clashes.not_bool {type : ColumnType} {b : Bool} : ¬Clashes type (.bool b) := by
  rintro ⟨⟩

/-- Off its own kind, a value of eight bytes is misread in a parameter of eight bytes, and nothing
else is; only the number zero is the same as an integer and as a float. -/
theorem misread_iff {type : ColumnType} {v : Value}
    (hv : v.kind = .int ∨ v.kind = .float ∨ v.kind = .bool ∨ v.kind = .timestamp)
    (hwidth : type.width? ≠ none) (hkind : type.kind? ≠ some v.kind) : Verdict type v := by
  have hother : ∀ bytes width, encode type v = .ok (some bytes) → type.width? = some width →
      bytes.length = 8 → width ≠ 8 → Verdict type v := by
    intro bytes width hencode htype hlength hne
    refine .of_other_width hencode htype (by omega) ?_
    intro h
    exact hne (Option.some.inj (htype.symm.trans h.width))
  cases v with
  | int i =>
    have hlength : (bigEndianSigned 8 i.toInt).length = 8 := length_bigEndian _ _
    cases type with
    | float8 => exact integer_in_float8 i
    | timestamp => exact .of_time (.inl rfl) rfl hlength (.integer_as_time _ (.inl rfl) i)
    | timestamptz => exact .of_time (.inr rfl) rfl hlength (.integer_as_time _ (.inr rfl) i)
    | bool | float4 => exact hother _ _ rfl rfl hlength (by decide)
    | _ => first | exact absurd rfl hkind | exact absurd rfl hwidth
  | float x =>
    have hlength : (bigEndian 8 x.bits.toNat).length = 8 := length_bigEndian _ _
    cases type with
    | int8 => exact float_in_int8 x
    | timestamp => exact .of_time (.inl rfl) rfl hlength (.float_as_time _ (.inl rfl) x)
    | timestamptz => exact .of_time (.inr rfl) rfl hlength (.float_as_time _ (.inr rfl) x)
    | bool | int2 | int4 => exact hother _ _ rfl rfl hlength (by decide)
    | _ => first | exact absurd rfl hkind | exact absurd rfl hwidth
  | timestamp t =>
    have hlength : (bigEndianSigned 8 (microsSinceEpoch t)).length = 8 := length_bigEndian _ _
    cases type with
    | int8 => exact time_in_number (.inl rfl) t
    | float8 => exact time_in_number (.inr rfl) t
    | bool | int2 | int4 | float4 => exact hother _ _ rfl rfl hlength (by decide)
    | _ => first | exact absurd rfl hkind | exact absurd rfl hwidth
  | bool b =>
    cases type with
    | bool => exact absurd rfl hkind
    | _ =>
      first
      | exact absurd rfl hwidth
      | exact .of_other_width rfl rfl (by decide : 1 ≠ _) Clashes.not_bool
  | null | text | blob => obtain h | h | h | h := hv <;> cases h

theorem misread_iff_negative_zero :
    Value.kind (.float ⟨0x8000000000000000⟩) = .float ∧ ColumnType.int8.width? ≠ none ∧
      ColumnType.int8.kind? ≠ some (Value.kind (.float ⟨0x8000000000000000⟩)) ∧
      Verdict .int8 (.float ⟨0x8000000000000000⟩) ∧ Clashes .int8 (.float ⟨0x8000000000000000⟩) :=
  ⟨rfl, by decide, by decide, misread_iff (.inr (.inl rfl)) (by decide) (by decide),
    .float_as_integer _ (by decide)⟩

/-- The integer one, written for a float, is read as the least float above zero. -/
theorem one_misread :
    encode .float8 (.int 1) = .ok (some [0, 0, 0, 0, 0, 0, 0, 1]) ∧
      decode .float8 (some [0, 0, 0, 0, 0, 0, 0, 1]) = some (.float ⟨1⟩) ∧
      Decimal.Float64.meaning ⟨1⟩ = .finite false 1 (-1074) ∧
      ¬Faithful .float8 (.int 1) ∧ Misread .float8 (.int 1) := by
  have hclash : Clashes .float8 (.int 1) := .integer_as_float 1 (by decide)
  have hverdict := integer_in_float8 1
  refine ⟨rfl, rfl, by decide, ?_, hverdict.number hclash ?_⟩
  · rw [hverdict.faithful]
    exact not_not_intro hclash
  · rintro (h | h) <;> cases h

end UnitOfWork.Postgres
