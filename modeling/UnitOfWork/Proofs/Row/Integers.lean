import UnitOfWork.Proofs.Row.Columns
import UnitOfWork.Proofs.Value.Integer
import UnitOfWork.Row.Getters

namespace UnitOfWork

abbrev IntegerType.Number (t : IntegerType) : Type := { x : Int // t.widens = true ∧ t.Holds x }

namespace Value

inductive Carries {t : IntegerType} (x : t.Number) : Value → Prop where
  | given : Carries x (ofInteger t x.1 x.2)
  | present : Carries x (ofOption (fun y : t.Number => ofInteger t y.1 y.2) (some x))

theorem Carries.eq {t : IntegerType} {x : t.Number} {v : Value} (h : Carries x v) :
    v = .int (Int64.ofInt x.1) := by
  cases h <;> rfl

end Value

namespace Row

variable {r : Row} {key : String} {i : Int64}

structure ReadsInteger (r : Row) (key : String) (i : Int64) : Prop where
  one_number : ∀ t : IntegerType, ∃! n, t.Holds n ∧ n ≡ i.toInt [ZMOD 2 ^ t.bits]
  integer?_iff : ∀ (t : IntegerType) n, r.integer? t key = some n ↔
    t.Holds n ∧ n ≡ i.toInt [ZMOD 2 ^ t.bits]
  low_bits : ∀ t : IntegerType,
    r.integer? t key = some (t.ofBits (i.toBitVec.setWidth t.bits))
  exact_iff : ∀ t : IntegerType, r.integer? t key = some i.toInt ↔ t.Holds i.toInt
  int64? : r.int64? key = some i
  integer?_i64 : r.integer? .i64 key = some i.toInt
  bool? : ∃ b, r.bool? key = some b ∧ (b = true ↔ i.toInt ≠ 0)
  zero_iff : ∀ t : IntegerType, r.integer? t key = some 0 ↔ (2 : Int) ^ t.bits ∣ i.toInt

theorem readsInteger (h : r.get? key = some (.int i)) : ReadsInteger r key i := by
  have hread : ∀ t : IntegerType, r.integer? t key = some (t.narrow i) := by
    intro t
    rw [integer?, h]
    rfl
  have hread_iff : ∀ (t : IntegerType) n, r.integer? t key = some n ↔ t.narrow i = n := by
    intro t n
    rw [hread, Option.some.injEq]
  constructor
  case one_number =>
    intro t
    refine ⟨t.narrow i, ⟨t.holds_narrow i, t.narrow_modEq i⟩, ?_⟩
    intro n hn
    exact (IntegerType.narrow_eq_iff.mpr hn).symm
  case integer?_iff => exact fun t n => (hread_iff t n).trans IntegerType.narrow_eq_iff
  case low_bits => exact fun t => (hread_iff t _).mpr (t.narrow_eq_ofBits i)
  case exact_iff => exact fun t => (hread_iff t _).trans IntegerType.narrow_eq_self_iff
  case int64? =>
    rw [Row.int64?, h]
    rfl
  case integer?_i64 =>
    exact (hread_iff _ _).mpr (IntegerType.narrow_eq_self_iff.mpr (IntegerType.holds_i64 i))
  case bool? =>
    refine ⟨i != 0, ?_, ?_⟩
    · rw [Row.bool?, h]
      rfl
    · rw [bne_iff_ne, ne_eq, ne_eq, ← Int64.toInt_inj]
      rfl
  case zero_iff => exact fun t => (hread_iff t 0).trans IntegerType.narrow_eq_zero_iff

/-- Each type reads an integer that is stored as the one of its numbers that is congruent to it, and
reads the numbers that it has written as they were. -/
theorem integers_read_back (steps : List Step) (r : Row) (hr : r ∈ made steps) (key : String) :
    (∀ i, r.get? key = some (.int i) → ReadsInteger r key i) ∧
      ∀ (t : IntegerType) (x : t.Number) v, Value.Carries x v →
        (r.insert key v).2.integer? t key = some x.1 ∧
          ∃ i : Int64, i.toInt = x.1 ∧ ReadsInteger (r.insert key v).2 key i := by
  refine ⟨fun i hi => readsInteger hi, ?_⟩
  intro t x v hv
  obtain ⟨x, hwidens, hx⟩ := x
  have hkept := IntegerType.toInt_ofInt_of_widens hwidens hx
  have hstored : (r.put key v).get? key = some (.int (Int64.ofInt x)) := by
    rw [(indexed_of_made hr).get?_put, if_pos rfl, hv.eq]
  have hreads := readsInteger hstored
  refine ⟨?_, _, hkept, hreads⟩
  have hexact := (hreads.exact_iff t).mpr (hkept.symm ▸ hx)
  rwa [hkept] at hexact

theorem integers_read_back_zero_byte :
    let steps : List Step := [.insert 0 "a" (.int (-256)), .put 0 "b" .null]
    let x : IntegerType.u32.Number := ⟨4294967295, by decide⟩
    ∃ r ∈ made steps, r.get? "a" = some (.int (-256)) ∧ ReadsInteger r "a" (-256) ∧
      r.integer? .u8 "a" = some 0 ∧ r.integer? .u64 "a" = some 18446744073709551360 ∧
      r.integer? .i16 "a" = some (-256) ∧ r.bool? "a" = some true ∧
      (r.insert "a" (Value.ofOption (fun y : IntegerType.u32.Number =>
        Value.ofInteger .u32 y.1 y.2) (some x))).2.integer? .u32 "a" = some 4294967295 := by
  intro steps x
  obtain ⟨r, hr, hget⟩ : ∃ r, (made steps)[0]? = some r ∧ r.get? "a" = some (.int (-256)) :=
    ⟨_, rfl, by decide +kernel⟩
  have hr := List.mem_of_getElem? hr
  obtain ⟨hreads, hwritten⟩ := integers_read_back steps r hr "a"
  have hreads := hreads (-256) hget
  obtain ⟨b, hb, htrue⟩ := hreads.bool?
  refine ⟨r, hr, hget, hreads, (hreads.zero_iff .u8).mpr (by decide),
    (hreads.integer?_iff .u64 _).mpr (by decide), (hreads.exact_iff .i16).mpr (by decide), ?_,
    (hwritten .u32 x _ .present).1⟩
  rw [hb, htrue.mpr (by decide)]

end Row

end UnitOfWork
