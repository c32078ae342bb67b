import Mathlib.Data.List.Forall2
import UnitOfWork.Text.Utf8

namespace UnitOfWork.Text

namespace Utf8

variable {start : Nat} {tail : List UInt8}

abbrev Follow (ranges : List (UInt8 × UInt8)) (bytes : List UInt8) : Prop :=
  List.Forall₂ (fun r b => r.1 ≤ b ∧ b ≤ r.2) ranges bytes

def pointFrom (point : Nat) (bytes : List UInt8) : Nat :=
  bytes.foldl (fun p b => p * 0x40 + b.toNat % 0x40) point

theorem go_append {rest bytes : List UInt8} {ranges : List (UInt8 × UInt8)}
    (hbytes : Follow ranges bytes) (taken point : Nat)
    (h : (bytes ++ tail).length ≤ rest.length) :
    ∃ h', next.go start rest ranges taken point (bytes ++ tail) h =
      .ok (Char.ofNat (pointFrom point bytes), ⟨tail, h'⟩) := by
  induction hbytes generalizing taken point with
  | nil => exact ⟨h, by simp only [List.nil_append, next.go, pointFrom, List.foldl_nil]⟩
  | cons hb hbytes ih =>
    simp only [List.cons_append] at h ⊢
    obtain ⟨h', hgo⟩ := ih (taken + 1) (point * 0x40 + _) (Nat.le_trans (Nat.le_succ _) h)
    refine ⟨h', ?_⟩
    rw [next.go, if_pos hb, hgo]
    rfl

theorem decodeFrom_append {lead : UInt8} {bytes : List UInt8} {ranges : List (UInt8 × UInt8)}
    {c : Char} (hlead : followers lead = some ranges) (hbytes : Follow ranges bytes)
    (hpoint : pointFrom (leadBits lead) bytes = c.toNat) (start : Nat) (tail : List UInt8) :
    ∃ next, decodeFrom start (lead :: (bytes ++ tail)) = (decodeFrom next tail).map (c :: ·) := by
  obtain ⟨h, hgo⟩ := go_append hbytes 1 (leadBits lead) (Nat.le_refl (bytes ++ tail).length)
  have hnext : next start lead (bytes ++ tail) = .ok (c, ⟨tail, h⟩) := by
    rw [hpoint, Char.ofNat_toNat] at hgo
    rw [next, hlead]
    exact hgo
  refine ⟨start + (1 + (bytes ++ tail).length - tail.length), ?_⟩
  rw [decodeFrom, hnext]
  dsimp only
  cases decodeFrom (start + (1 + (bytes ++ tail).length - tail.length)) tail <;> rfl

theorem follow_low (n : Nat) :
    0x80 ≤ UInt8.ofNat (n % 0x40 + 0x80) ∧ UInt8.ofNat (n % 0x40 + 0x80) ≤ 0xbf := by
  simp only [UInt8.le_iff_toNat_le, UInt8.toNat_ofNat', UInt8.reduceToNat]
  omega

theorem decodeFrom_two {c : Char} (hlow : 0x80 ≤ c.toNat) (hhigh : c.toNat ≤ 0x7ff)
    (start : Nat) (tail : List UInt8) :
    ∃ next, decodeFrom start (UInt8.ofNat (c.toNat / 64 % 0x20 + 0xc0) ::
      ([UInt8.ofNat (c.toNat % 0x40 + 0x80)] ++ tail)) = (decodeFrom next tail).map (c :: ·) := by
  have hlead : followers (UInt8.ofNat (c.toNat / 64 % 0x20 + 0xc0)) = some [(0x80, 0xbf)] := by
    simp only [followers, UInt8.lt_iff_toNat_lt, UInt8.le_iff_toNat_le, UInt8.toNat_ofNat',
      UInt8.reduceToNat]
    rw [if_neg (by omega), if_pos (by omega)]
  refine decodeFrom_append hlead (.cons (follow_low _) .nil) ?_ start tail
  simp only [pointFrom, leadBits, List.foldl_cons, List.foldl_nil,
    UInt8.lt_iff_toNat_lt, UInt8.toNat_ofNat', UInt8.reduceToNat]
  rw [if_neg (by omega), if_pos (by omega)]
  omega

theorem decodeFrom_three {c : Char} (hlow : 0x800 ≤ c.toNat) (hhigh : c.toNat ≤ 0xffff)
    (start : Nat) (tail : List UInt8) :
    ∃ next, decodeFrom start (UInt8.ofNat (c.toNat / 4096 % 0x10 + 0xe0) ::
      ([UInt8.ofNat (c.toNat / 64 % 0x40 + 0x80), UInt8.ofNat (c.toNat % 0x40 + 0x80)] ++ tail)) =
        (decodeFrom next tail).map (c :: ·) := by
  have hvalid : c.toNat < 0xd800 ∨ 0xdfff < c.toNat := c.valid.imp id And.left
  have hlead : ∃ r, followers (UInt8.ofNat (c.toNat / 4096 % 0x10 + 0xe0)) =
      some [r, (0x80, 0xbf)] ∧ r.1 ≤ UInt8.ofNat (c.toNat / 64 % 0x40 + 0x80) ∧
        UInt8.ofNat (c.toNat / 64 % 0x40 + 0x80) ≤ r.2 := by
    simp only [followers, UInt8.lt_iff_toNat_lt, UInt8.le_iff_toNat_le, ← UInt8.toNat_inj,
      UInt8.toNat_ofNat', UInt8.reduceToNat]
    rw [if_neg (by omega), if_neg (by omega)]
    by_cases hfirst : c.toNat / 4096 = 0
    · rw [if_pos (by omega)]
      refine ⟨_, rfl, ?_⟩
      simp only [UInt8.reduceToNat]
      omega
    · rw [if_neg (by omega)]
      by_cases hlast : c.toNat / 4096 = 0xd
      · rw [if_pos (by omega)]
        refine ⟨_, rfl, ?_⟩
        simp only [UInt8.reduceToNat]
        omega
      · rw [if_neg (by omega), if_pos (by omega)]
        refine ⟨_, rfl, ?_⟩
        simp only [UInt8.reduceToNat]
        omega
  obtain ⟨r, hlead, hr⟩ := hlead
  refine decodeFrom_append hlead (.cons hr (.cons (follow_low _) .nil)) ?_ start tail
  simp only [pointFrom, leadBits, List.foldl_cons, List.foldl_nil,
    UInt8.lt_iff_toNat_lt, UInt8.toNat_ofNat', UInt8.reduceToNat]
  rw [if_neg (by omega), if_neg (by omega), if_pos (by omega)]
  omega

theorem decodeFrom_four {c : Char} (hlow : 0x10000 ≤ c.toNat) (start : Nat) (tail : List UInt8) :
    ∃ next, decodeFrom start (UInt8.ofNat (c.toNat / 262144 % 0x08 + 0xf0) ::
      ([UInt8.ofNat (c.toNat / 4096 % 0x40 + 0x80), UInt8.ofNat (c.toNat / 64 % 0x40 + 0x80),
        UInt8.ofNat (c.toNat % 0x40 + 0x80)] ++ tail)) = (decodeFrom next tail).map (c :: ·) := by
  have hvalid : c.toNat < 0x110000 := c.valid.elim (fun h => Nat.lt_trans h (by decide)) And.right
  have hlead : ∃ r, followers (UInt8.ofNat (c.toNat / 262144 % 0x08 + 0xf0)) =
      some [r, (0x80, 0xbf), (0x80, 0xbf)] ∧
        r.1 ≤ UInt8.ofNat (c.toNat / 4096 % 0x40 + 0x80) ∧
        UInt8.ofNat (c.toNat / 4096 % 0x40 + 0x80) ≤ r.2 := by
    simp only [followers, UInt8.lt_iff_toNat_lt, UInt8.le_iff_toNat_le, ← UInt8.toNat_inj,
      UInt8.toNat_ofNat', UInt8.reduceToNat]
    rw [if_neg (by omega), if_neg (by omega), if_neg (by omega), if_neg (by omega),
      if_neg (by omega)]
    by_cases hfirst : c.toNat / 262144 = 0
    · rw [if_pos (by omega)]
      refine ⟨_, rfl, ?_⟩
      simp only [UInt8.reduceToNat]
      omega
    · rw [if_neg (by omega)]
      by_cases hlast : c.toNat / 262144 = 4
      · rw [if_pos (by omega)]
        refine ⟨_, rfl, ?_⟩
        simp only [UInt8.reduceToNat]
        omega
      · rw [if_neg (by omega), if_pos (by omega)]
        refine ⟨_, rfl, ?_⟩
        simp only [UInt8.reduceToNat]
        omega
  obtain ⟨r, hlead, hr⟩ := hlead
  refine decodeFrom_append hlead (.cons hr (.cons (follow_low _) (.cons (follow_low _) .nil))) ?_
    start tail
  simp only [pointFrom, leadBits, List.foldl_cons, List.foldl_nil,
    UInt8.lt_iff_toNat_lt, UInt8.toNat_ofNat', UInt8.reduceToNat]
  rw [if_neg (by omega), if_neg (by omega), if_neg (by omega)]
  omega

theorem decodeFrom_encodeChar (c : Char) (start : Nat) (tail : List UInt8) :
    ∃ next, decodeFrom start (String.utf8EncodeChar c ++ tail) =
      (decodeFrom next tail).map (c :: ·) := by
  have hval : c.val.toNat = c.toNat := rfl
  simp only [String.utf8EncodeChar, hval]
  by_cases h1 : c.toNat ≤ 0x7f
  · rw [if_pos h1]
    have hlead : followers (UInt8.ofNat c.toNat) = some [] := by
      simp only [followers, UInt8.lt_iff_toNat_lt, UInt8.toNat_ofNat', UInt8.reduceToNat]
      rw [if_pos (by omega)]
    refine decodeFrom_append hlead .nil ?_ start tail
    simp only [pointFrom, leadBits, List.foldl_nil, UInt8.lt_iff_toNat_lt, UInt8.toNat_ofNat',
      UInt8.reduceToNat]
    rw [if_pos (by omega)]
    omega
  · rw [if_neg h1]
    by_cases h2 : c.toNat ≤ 0x7ff
    · rw [if_pos h2]
      exact decodeFrom_two (by omega) h2 start tail
    · rw [if_neg h2]
      by_cases h3 : c.toNat ≤ 0xffff
      · rw [if_pos h3]
        exact decodeFrom_three (by omega) h3 start tail
      · rw [if_neg h3]
        exact decodeFrom_four (by omega) start tail

theorem decodeFrom_encode (cs : List Char) (start : Nat) :
    decodeFrom start (cs.flatMap String.utf8EncodeChar) = .ok cs := by
  induction cs generalizing start with
  | nil => rw [List.flatMap_nil, decodeFrom]
  | cons c cs ih =>
    obtain ⟨next, hc⟩ := decodeFrom_encodeChar c start (cs.flatMap String.utf8EncodeChar)
    rw [List.flatMap_cons, hc, ih]
    rfl

end Utf8

theorem decodeUtf8_encodeUtf8 (s : String) : decodeUtf8 (encodeUtf8 s) = .ok s := by
  rw [decodeUtf8, encodeUtf8, Utf8.decodeFrom_encode]
  exact congrArg Except.ok String.ofList_toList

end UnitOfWork.Text
