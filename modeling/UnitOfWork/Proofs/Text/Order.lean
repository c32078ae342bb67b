import UnitOfWork.Proofs.Text.Digits
import UnitOfWork.Text.Utf8

namespace UnitOfWork.Text

theorem append_lt_append_iff {α : Type} [LT α] [Std.Irrefl fun a b : α => a < b]
    {xs ys : List α} (h : xs.length = ys.length) (rest rest' : List α) :
    xs ++ rest < ys ++ rest' ↔ xs < ys ∨ xs = ys ∧ rest < rest' := by
  induction xs generalizing ys with
  | nil =>
    obtain rfl := List.length_eq_zero_iff.mp h.symm
    simp
  | cons x xs ih =>
    cases ys with
    | nil => cases h
    | cons y ys =>
      simp only [List.cons_append, List.cons_lt_cons_iff, ih (Nat.succ.inj h), List.cons.injEq]
      grind

theorem cons_lt_cons {α : Type} [LT α] [Std.Irrefl fun a b : α => a < b] {x : α}
    {xs ys : List α} : x :: xs < x :: ys ↔ xs < ys := by
  rw [List.cons_lt_cons_iff]
  constructor
  · rintro (h | ⟨-, h⟩)
    · exact absurd h (Std.Irrefl.irrefl x)
    · exact h
  · exact fun h => .inr ⟨rfl, h⟩

def filledValue (width : Nat) (ds : List Char) : Nat := digitsValue ds * 10 ^ (width - ds.length)

theorem ofDigitChars_bounds {ds : List Char} (hds : ∀ c ∈ ds, c.isDigit = true) (n : Nat) :
    n * 10 ^ ds.length ≤ Nat.ofDigitChars 10 ds n ∧
      Nat.ofDigitChars 10 ds n < (n + 1) * 10 ^ ds.length := by
  induction ds generalizing n with
  | nil => simp [Nat.ofDigitChars]
  | cons d ds ih =>
    rw [List.forall_mem_cons] at hds
    obtain ⟨hlow, hhigh⟩ := digit_bounds hds.1
    have hzero : '0'.toNat = 48 := rfl
    obtain ⟨hfrom, hto⟩ := ih hds.2 (10 * n + (d.toNat - '0'.toNat))
    rw [Nat.ofDigitChars_cons, List.length_cons, Nat.pow_succ]
    constructor
    · calc n * (10 ^ ds.length * 10) = 10 * n * 10 ^ ds.length := by grind
        _ ≤ (10 * n + (d.toNat - '0'.toNat)) * 10 ^ ds.length :=
          Nat.mul_le_mul_right _ (Nat.le_add_right _ _)
        _ ≤ _ := hfrom
    · calc Nat.ofDigitChars 10 ds (10 * n + (d.toNat - '0'.toNat))
          < (10 * n + (d.toNat - '0'.toNat) + 1) * 10 ^ ds.length := hto
        _ ≤ 10 * (n + 1) * 10 ^ ds.length := Nat.mul_le_mul_right _ (by omega)
        _ = _ := by grind

theorem pow_mul_pow_sub {k width : Nat} (h : k ≤ width) (n : Nat) :
    n * 10 ^ k * 10 ^ (width - k) = n * 10 ^ width := by
  rw [Nat.mul_assoc, ← Nat.pow_add, Nat.add_sub_cancel' h]

theorem ofDigitChars_le_of_lt {xs ys : List Char} (hlt : xs < ys)
    (hxs : ∀ c ∈ xs, c.isDigit = true) (hys : ∀ c ∈ ys, c.isDigit = true) {width : Nat}
    (hx : xs.length ≤ width) (hy : ys.length ≤ width) (n : Nat) :
    Nat.ofDigitChars 10 xs n * 10 ^ (width - xs.length) ≤
      Nat.ofDigitChars 10 ys n * 10 ^ (width - ys.length) := by
  induction hlt generalizing width n with
  | @nil y ys =>
    obtain ⟨hfrom, -⟩ := ofDigitChars_bounds hys n
    calc n * 10 ^ width = n * 10 ^ (y :: ys).length * 10 ^ (width - (y :: ys).length) :=
          (pow_mul_pow_sub hy n).symm
      _ ≤ _ := Nat.mul_le_mul_right _ hfrom
  | @rel x xs y ys hxy =>
    obtain ⟨width, rfl⟩ : ∃ w, width = w + 1 := ⟨width - 1, by simp at hx; omega⟩
    rw [List.forall_mem_cons] at hxs hys
    have hdigits : x.toNat - '0'.toNat + 1 ≤ y.toNat - '0'.toNat := by
      have hlow := (digit_bounds hxs.1).1
      have hval : x.toNat < y.toNat := hxy
      have hzero : '0'.toNat = 48 := rfl
      omega
    obtain ⟨-, hto⟩ := ofDigitChars_bounds hxs.2 (10 * n + (x.toNat - '0'.toNat))
    obtain ⟨hfrom, -⟩ := ofDigitChars_bounds hys.2 (10 * n + (y.toNat - '0'.toNat))
    simp only [List.length_cons, Nat.add_sub_add_right, Nat.ofDigitChars_cons,
      Nat.add_le_add_iff_right] at hx hy ⊢
    -- what stands behind the first digit in which the runs differ does not make up for it
    calc Nat.ofDigitChars 10 xs (10 * n + (x.toNat - '0'.toNat)) * 10 ^ (width - xs.length)
        ≤ (10 * n + (x.toNat - '0'.toNat) + 1) * 10 ^ xs.length * 10 ^ (width - xs.length) :=
          Nat.mul_le_mul_right _ (Nat.le_of_lt hto)
      _ = (10 * n + (x.toNat - '0'.toNat) + 1) * 10 ^ width := pow_mul_pow_sub hx _
      _ ≤ (10 * n + (y.toNat - '0'.toNat)) * 10 ^ width := Nat.mul_le_mul_right _ (by omega)
      _ = (10 * n + (y.toNat - '0'.toNat)) * 10 ^ ys.length * 10 ^ (width - ys.length) :=
          (pow_mul_pow_sub hy _).symm
      _ ≤ _ := Nat.mul_le_mul_right _ hfrom
  | @cons x xs ys hlt ih =>
    obtain ⟨width, rfl⟩ : ∃ w, width = w + 1 := ⟨width - 1, by simp at hx; omega⟩
    rw [List.forall_mem_cons] at hxs hys
    simp only [List.length_cons, Nat.add_sub_add_right, Nat.ofDigitChars_cons]
    exact ih hxs.2 hys.2 (Nat.le_of_succ_le_succ hx) (Nat.le_of_succ_le_succ hy) _

theorem filledValue_le_of_lt {xs ys : List Char} (hlt : xs < ys)
    (hxs : ∀ c ∈ xs, c.isDigit = true) (hys : ∀ c ∈ ys, c.isDigit = true) {width : Nat}
    (hx : xs.length ≤ width) (hy : ys.length ≤ width) :
    filledValue width xs ≤ filledValue width ys :=
  ofDigitChars_le_of_lt hlt hxs hys hx hy 0

theorem lt_iff_lt_of_le {xs ys : List Char} {m n : Nat} (heq : xs = ys ↔ m = n)
    (hle : xs < ys → m ≤ n) (hge : ys < xs → n ≤ m) : xs < ys ↔ m < n := by
  constructor
  · intro hlt
    apply Nat.lt_of_le_of_ne (hle hlt)
    rintro hmn
    rw [heq.mpr hmn] at hlt
    exact List.lt_irrefl ys hlt
  · intro hmn
    obtain hlt | hsame | hgt := Std.lt_trichotomy xs ys
    · exact hlt
    · exact absurd (heq.mp hsame) (Nat.ne_of_lt hmn)
    · exact absurd (hge hgt) (Nat.not_le_of_lt hmn)

theorem padded_inj {width m n : Nat} : padded width m = padded width n ↔ m = n :=
  ⟨fun h => by rw [← digitsValue_padded width m, h, digitsValue_padded], congrArg _⟩

theorem filledValue_padded {width k n : Nat} (hk : 0 < k) (hn : n < 10 ^ k) :
    filledValue width (padded k n) = n * 10 ^ (width - k) := by
  rw [filledValue, digitsValue_padded, length_padded hk hn]

theorem padded_lt_padded_iff {width m n : Nat} (hw : 0 < width) (hm : m < 10 ^ width)
    (hn : n < 10 ^ width) : padded width m < padded width n ↔ m < n := by
  have hle {m n : Nat} (hm : m < 10 ^ width) (hn : n < 10 ^ width)
      (hlt : padded width m < padded width n) : m ≤ n := by
    have hfilled := filledValue_le_of_lt hlt (fun _ => isDigit_of_mem_padded)
      (fun _ => isDigit_of_mem_padded) (Nat.le_of_eq (length_padded hw hm))
      (Nat.le_of_eq (length_padded hw hn))
    simpa [filledValue_padded hw hm, filledValue_padded hw hn] using hfilled
  exact lt_iff_lt_of_le padded_inj (hle hm hn) (hle hn hm)

theorem padded_append_lt_iff {width m n : Nat} (hw : 0 < width) (hm : m < 10 ^ width)
    (hn : n < 10 ^ width) (rest rest' : List Char) :
    padded width m ++ rest < padded width n ++ rest' ↔ m < n ∨ m = n ∧ rest < rest' := by
  have hlength : (padded width m).length = (padded width n).length := by
    rw [length_padded hw hm, length_padded hw hn]
  rw [append_lt_append_iff hlength, padded_lt_padded_iff hw hm hn, padded_inj]

def IsAscii (cs : List Char) : Prop := ∀ c ∈ cs, c.toNat ≤ 127

namespace IsAscii

variable {c : Char} {cs ds : List Char}

theorem nil : IsAscii [] := List.forall_mem_nil _

theorem cons (hc : c.toNat ≤ 127) (h : IsAscii cs) : IsAscii (c :: cs) :=
  List.forall_mem_cons.mpr ⟨hc, h⟩

theorem append (h : IsAscii cs) (h' : IsAscii ds) : IsAscii (cs ++ ds) :=
  List.forall_mem_append.mpr ⟨h, h'⟩

theorem of_digits (h : ∀ c ∈ cs, c.isDigit = true) : IsAscii cs := by
  intro c hc
  have hbounds := digit_bounds (h c hc)
  omega

theorem padded (width n : Nat) : IsAscii (padded width n) :=
  of_digits fun _ => isDigit_of_mem_padded

end IsAscii

theorem utf8EncodeChar_of_le {c : Char} (h : c.toNat ≤ 127) :
    String.utf8EncodeChar c = [UInt8.ofNat c.toNat] := if_pos h

theorem toNat_ofNat_of_le {c : Char} (h : c.toNat ≤ 127) : (UInt8.ofNat c.toNat).toNat = c.toNat :=
  UInt8.toNat_ofNat_of_lt' (Nat.lt_of_le_of_lt h (by decide))

theorem encodeUtf8_lt_iff {s t : String} (hs : IsAscii s.toList) (ht : IsAscii t.toList) :
    encodeUtf8 s < encodeUtf8 t ↔ s.toList < t.toList := by
  unfold encodeUtf8
  unfold IsAscii at hs ht
  generalize s.toList = xs at hs
  generalize t.toList = ys at ht
  induction xs generalizing ys with
  | nil =>
    cases ys with
    | nil => simp
    | cons y ys => simp [utf8EncodeChar_of_le (List.forall_mem_cons.mp ht).1]
  | cons x xs ih =>
    cases ys with
    | nil => simp
    | cons y ys =>
      rw [List.forall_mem_cons] at hs ht
      have hlt : UInt8.ofNat x.toNat < UInt8.ofNat y.toNat ↔ x < y := by
        rw [UInt8.lt_iff_toNat_lt, toNat_ofNat_of_le hs.1, toNat_ofNat_of_le ht.1]
        rfl
      have heq : UInt8.ofNat x.toNat = UInt8.ofNat y.toNat ↔ x = y := by
        rw [← UInt8.toNat_inj, toNat_ofNat_of_le hs.1, toNat_ofNat_of_le ht.1, Char.toNat_inj]
      simp only [List.flatMap_cons, utf8EncodeChar_of_le hs.1, utf8EncodeChar_of_le ht.1,
        List.singleton_append, List.cons_lt_cons_iff, hlt, heq, ih hs.2 ys ht.2]

end UnitOfWork.Text
