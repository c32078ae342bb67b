import UnitOfWork.Proofs.Sqlite.Runs

namespace UnitOfWork.Sqlite

theorem transCmp_through {α β : Type} (cmp : β → β → Ordering) [Std.TransCmp cmp] (f : α → β) :
    Std.TransCmp fun a b => cmp (f a) (f b) :=
  @Std.TransCmp.mk _ _ ⟨Std.OrientedCmp.eq_swap⟩ Std.TransCmp.isLE_trans

namespace Cell

theorem fraction_den_pos (x : Decimal.Float64) : 0 < (fraction x).2 := by
  have hparts (power : Int) : 0 < (Decimal.powerParts 2 power).2 := by
    cases power with
    | ofNat n => exact Nat.one_pos
    | negSucc n => exact Nat.pow_pos (by decide)
  unfold fraction
  cases x.meaning with
  | nan | infinite => exact Nat.one_pos
  | finite negative significand power => exact hparts power

theorem number_den_pos (c : Cell) : 0 < c.number.2 := by
  cases c with
  | real x => exact fraction_den_pos x
  | null | integer | text | blob => exact Nat.one_pos

def compareNumbers (a b : Cell) : Ordering :=
  Ord.compare (a.number.1 * b.number.2) (b.number.1 * a.number.2)

instance : Std.TransCmp compareNumbers where
  eq_swap := Std.OrientedOrd.eq_swap
  isLE_trans {a b c} hab hbc := by
    simp only [compareNumbers, Int.isLE_compare] at hab hbc ⊢
    have ha : (0 : Int) < a.number.2 := Int.natCast_pos.mpr a.number_den_pos
    have hb : (0 : Int) < b.number.2 := Int.natCast_pos.mpr b.number_den_pos
    have hc : (0 : Int) < c.number.2 := Int.natCast_pos.mpr c.number_den_pos
    apply Int.le_of_mul_le_mul_right _ hb
    calc a.number.1 * c.number.2 * b.number.2
        = a.number.1 * b.number.2 * c.number.2 := by grind
      _ ≤ b.number.1 * a.number.2 * c.number.2 :=
          Int.mul_le_mul_of_nonneg_right hab (Int.le_of_lt hc)
      _ = b.number.1 * c.number.2 * a.number.2 := by grind
      _ ≤ c.number.1 * b.number.2 * a.number.2 :=
          Int.mul_le_mul_of_nonneg_right hbc (Int.le_of_lt ha)
      _ = _ := by grind

instance : Std.TransCmp compareBytes :=
  Std.TransCmp.compareOfLessAndEq_of_irrefl_of_trans_of_antisymm List.lt_irrefl List.lt_trans
    fun hxy hyx => List.le_antisymm (List.not_lt.mp hyx) (List.not_lt.mp hxy)

theorem compare_eq : Cell.compare = compareLex (compareOn rank)
    (compareLex compareNumbers fun a b => compareBytes a.bytes b.bytes) := by
  funext a b
  unfold Cell.compare compareLex compareOn compareNumbers
  cases Ord.compare a.rank b.rank <;> rfl

instance : Std.TransCmp Cell.compare := by
  have hbytes := transCmp_through compareBytes Cell.bytes
  rw [compare_eq]
  infer_instance

end Cell

namespace Selection

instance transCmp_cellsInOrder (ascending : Bool) : Std.TransCmp (cellsInOrder ascending) := by
  cases ascending with
  | true => exact inferInstanceAs (Std.TransCmp Cell.compare)
  | false => exact inferInstanceAs (Std.TransCmp fun a b => Cell.compare b a)

theorem transCmp_compareRows (args : List Cell) (order : List (OrderKey Operand)) :
    Std.TransCmp fun a b => compareRows args a b order := by
  induction order with
  | nil => exact @Std.TransCmp.mk _ _ ⟨rfl⟩ fun _ _ => rfl
  | cons k ks ih =>
    have hkey := transCmp_through (cellsInOrder k.ascending) (k.term.eval args)
    have heq : (fun a b => compareRows args a b (k :: ks)) =
        compareLex (fun a b => cellsInOrder k.ascending (k.term.eval args a) (k.term.eval args b))
          fun a b => compareRows args a b ks := by
      funext a b
      rw [compareRows, compareLex]
      cases cellsInOrder k.ascending (k.term.eval args a) (k.term.eval args b) <;> rfl
    rw [heq]
    infer_instance

theorem isLE_of_compareRows_cons {args a b : List Cell} {k : OrderKey Operand}
    {ks : List (OrderKey Operand)} (h : (compareRows args a b (k :: ks)).isLE = true) :
    (cellsInOrder k.ascending (k.term.eval args a) (k.term.eval args b)).isLE = true := by
  rw [compareRows] at h
  generalize cellsInOrder k.ascending (k.term.eval args a) (k.term.eval args b) = o at h ⊢
  cases o with
  | eq => rfl
  | lt | gt => exact h

theorem pairwise_sorted (s : Selection) (args : List Cell) :
    (s.sorted args).Pairwise fun a b => (compareRows args a b s.order).isLE = true := by
  have hcmp := transCmp_compareRows args s.order
  have hle (a b : List Cell) :
      (compareRows args a b s.order != .gt) = (compareRows args a b s.order).isLE := by
    cases compareRows args a b s.order <;> rfl
  simp only [sorted, hle]
  apply List.pairwise_mergeSort
  · exact fun a b c => hcmp.isLE_trans
  · intro a b
    rw [hcmp.eq_swap]
    cases compareRows args b a s.order <;> rfl

end Selection

end UnitOfWork.Sqlite
