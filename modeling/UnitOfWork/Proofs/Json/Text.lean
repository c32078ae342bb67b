import UnitOfWork.Json.Text

namespace UnitOfWork.Json

open Text (hexValue?)

theorem hexValue?_hexDigit : ∀ n < 16, hexValue? (hexDigit n) = some n := by decide

theorem readPoint_control {c : Char} (h : c.toNat < 0x20) (rest : List Char) :
    readPoint ('0' :: '0' :: hexDigit (c.toNat / 16) :: hexDigit (c.toNat % 16) :: rest) =
      some (c, rest) := by
  have hzero : hexValue? '0' = some 0 := by decide
  have hhigh := hexValue?_hexDigit (c.toNat / 16) (by omega)
  have hlow := hexValue?_hexDigit (c.toNat % 16) (by omega)
  have hunit : readUnit
      ('0' :: '0' :: hexDigit (c.toNat / 16) :: hexDigit (c.toNat % 16) :: rest) =
        some (c.toNat, rest) := by
    simp only [readUnit, hzero, hhigh, hlow, Option.bind_eq_bind, Option.bind_some,
      Option.some.injEq, Prod.mk.injEq, and_true]
    omega
  have hone : c.toNat < 0xd800 := by omega
  simp only [readPoint, hunit, Option.bind_eq_bind, Option.bind_some, if_pos (Or.inl hone),
    Char.ofNat_toNat]

theorem escapeChar_cases (c : Char) :
    (escapeChar c = [c] ∧ c ≠ '"' ∧ c ≠ '\\' ∧ ¬c.toNat < 0x20) ∨
      ∃ code, escapeChar c = '\\' :: code ∧
        ∀ rest, readEscape (code ++ rest) = some (c, rest) := by
  by_cases hquote : c = '"'
  · subst c
    exact .inr ⟨['"'], rfl, fun _ => rfl⟩
  by_cases hslash : c = '\\'
  · subst c
    exact .inr ⟨['\\'], rfl, fun _ => rfl⟩
  by_cases hback : c = '\x08'
  · subst c
    exact .inr ⟨['b'], rfl, fun _ => rfl⟩
  by_cases hfeed : c = '\x0c'
  · subst c
    exact .inr ⟨['f'], rfl, fun _ => rfl⟩
  by_cases hline : c = '\n'
  · subst c
    exact .inr ⟨['n'], rfl, fun _ => rfl⟩
  by_cases hreturn : c = '\r'
  · subst c
    exact .inr ⟨['r'], rfl, fun _ => rfl⟩
  by_cases htab : c = '\t'
  · subst c
    exact .inr ⟨['t'], rfl, fun _ => rfl⟩
  by_cases hcontrol : c.toNat < 0x20
  · right
    refine ⟨['u', '0', '0', hexDigit (c.toNat / 16), hexDigit (c.toNat % 16)], ?_,
      readPoint_control hcontrol⟩
    simp only [escapeChar, hquote, hslash, hback, hfeed, hline, hreturn, htab, hcontrol, if_true,
      if_false]
  · left
    refine ⟨?_, hquote, hslash, hcontrol⟩
    simp only [escapeChar, hquote, hslash, hback, hfeed, hline, hreturn, htab, hcontrol, if_false]

theorem readBody_escapeChar (c : Char) (rest : List Char) :
    readBody (escapeChar c ++ rest) = (readBody rest).map fun p => (c :: p.1, p.2) := by
  obtain ⟨hself, hquote, hslash, hcontrol⟩ | ⟨code, hescaped, hcode⟩ := escapeChar_cases c
  · rw [hself, List.singleton_append, readBody, if_neg hquote, if_neg hslash, if_neg hcontrol]
  · rw [hescaped, List.cons_append, readBody, if_neg (by decide), if_pos rfl]
    split
    · rename_i hnone
      cases (hcode rest).symm.trans hnone
    · rename_i d r hsome
      cases (hcode rest).symm.trans hsome
      rfl

theorem readBody_escaped (cs rest : List Char) :
    readBody (cs.flatMap escapeChar ++ '"' :: rest) = some (cs, rest) := by
  induction cs with
  | nil => rw [List.flatMap_nil, List.nil_append, readBody, if_pos rfl]
  | cons c cs ih =>
    rw [List.flatMap_cons, List.append_assoc, readBody_escapeChar, ih]
    rfl

end UnitOfWork.Json
