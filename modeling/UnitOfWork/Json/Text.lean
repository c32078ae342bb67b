import UnitOfWork.Text.Digits

namespace UnitOfWork.Json

open Text (hexValue?)

def hexDigit (n : Nat) : Char := Nat.digitChar n

def escapeChar (c : Char) : List Char :=
  if c = '"' then ['\\', '"']
  else if c = '\\' then ['\\', '\\']
  else if c = '\x08' then ['\\', 'b']
  else if c = '\x0c' then ['\\', 'f']
  else if c = '\n' then ['\\', 'n']
  else if c = '\r' then ['\\', 'r']
  else if c = '\t' then ['\\', 't']
  else if c.toNat < 0x20 then
    ['\\', 'u', '0', '0', hexDigit (c.toNat / 16), hexDigit (c.toNat % 16)]
  else [c]

def writeText (s : String) : List Char :=
  '"' :: s.toList.flatMap escapeChar ++ ['"']

def readUnit : List Char → Option (Nat × List Char)
  | a :: b :: c :: d :: r => do
    let a ← hexValue? a
    let b ← hexValue? b
    let c ← hexValue? c
    let d ← hexValue? d
    some (((a * 16 + b) * 16 + c) * 16 + d, r)
  | _ => none

def readPoint (s : List Char) : Option (Char × List Char) := do
  let (n, r) ← readUnit s
  if n < 0xd800 ∨ 0xe000 ≤ n then some (Char.ofNat n, r)
  else if n < 0xdc00 then
    match r with
    | '\\' :: 'u' :: r => do
      let (m, r) ← readUnit r
      if 0xdc00 ≤ m ∧ m < 0xe000 then
        some (Char.ofNat (0x10000 + (n - 0xd800) * 0x400 + (m - 0xdc00)), r)
      else none
    | _ => none
  else none

def readEscape : List Char → Option (Char × List Char)
  | [] => none
  | c :: r =>
    if c = '"' ∨ c = '\\' ∨ c = '/' then some (c, r)
    else if c = 'b' then some ('\x08', r)
    else if c = 'f' then some ('\x0c', r)
    else if c = 'n' then some ('\n', r)
    else if c = 'r' then some ('\r', r)
    else if c = 't' then some ('\t', r)
    else if c = 'u' then readPoint r
    else none

theorem readUnit_length {s r : List Char} {n : Nat} (h : readUnit s = some (n, r)) :
    r.length < s.length := by
  unfold readUnit at h
  split at h
  · simp only [Option.bind_eq_bind, Option.bind_eq_some_iff] at h
    obtain ⟨_, _, _, _, _, _, _, _, h⟩ := h
    simp only [Option.some.injEq, Prod.mk.injEq] at h
    simp [← h.2]
    omega
  · cases h

theorem readPoint_length {s r : List Char} {c : Char} (h : readPoint s = some (c, r)) :
    r.length < s.length := by
  unfold readPoint at h
  simp only [Option.bind_eq_bind, Option.bind_eq_some_iff, Prod.exists] at h
  obtain ⟨n, t, ht, h⟩ := h
  have hlt := readUnit_length ht
  split at h
  · simp only [Option.some.injEq, Prod.mk.injEq] at h
    exact h.2 ▸ hlt
  split at h
  · split at h
    · simp only [Option.bind_eq_some_iff, Prod.exists] at h
      obtain ⟨m, u, hu, h⟩ := h
      have hu := readUnit_length hu
      split at h
      · simp only [Option.some.injEq, Prod.mk.injEq] at h
        simp only [List.length_cons] at hlt
        rw [← h.2]
        omega
      · cases h
    · cases h
  · cases h

theorem readEscape_length {s r : List Char} {c : Char} (h : readEscape s = some (c, r)) :
    r.length < s.length := by
  cases s with
  | nil => cases h
  | cons d t =>
    unfold readEscape at h
    have hp : ∀ e, readPoint t = some (e, r) → r.length < (d :: t).length := fun e he =>
      Nat.lt_succ_of_lt (readPoint_length he)
    grind [List.length_cons]

def readBody (s : List Char) : Option (List Char × List Char) :=
  match s with
  | [] => none
  | c :: r =>
    if c = '"' then some ([], r)
    else if c = '\\' then
      match _h : readEscape r with
      | none => none
      | some (d, r) => (readBody r).map fun p => (d :: p.1, p.2)
    else if c.toNat < 0x20 then none
    else (readBody r).map fun p => (c :: p.1, p.2)
termination_by s.length
decreasing_by
  · exact Nat.lt_succ_of_lt (readEscape_length _h)
  · simp

end UnitOfWork.Json
