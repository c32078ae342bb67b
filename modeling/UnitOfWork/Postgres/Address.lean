import UnitOfWork.Text.Digits

namespace UnitOfWork.Postgres

open Text

inductive Address where
  | v4 (bytes : List Nat)
  | v6 (units : List Nat)
deriving DecidableEq

namespace Address

def readByte (s : List Char) : Option (Nat × List Char) := do
  let (n, r) ← readDigits 3 s
  if n ≤ 255 ∧ (decimal n).length + r.length = s.length then some (n, r) else none

def readDotted (s : List Char) : Option (List Nat × List Char) := do
  let (a, s) ← readByte s
  let (b, s) ← readChar '.' s >>= readByte
  let (c, s) ← readChar '.' s >>= readByte
  let (d, s) ← readChar '.' s >>= readByte
  return ([a, b, c, d], s)

def readUnit (s : List Char) : Option (Nat × List Char) :=
  match (s.take 4).takeWhile fun c => (hexValue? c).isSome with
  | [] => none
  | ds => some (ds.foldl (fun n c => 16 * n + (hexValue? c).getD 0) 0, s.drop ds.length)

def pairUp : List Nat → List Nat
  | a :: b :: rest => (256 * a + b) :: pairUp rest
  | _ => []

def readUnits : Nat → Bool → List Char → List Nat × Bool × List Char
  | 0, _, s => ([], false, s)
  | limit + 1, first, s =>
    match if first then some s else readChar ':' s with
    | none => ([], false, s)
    | some r =>
      match if limit = 0 then none else readDotted r with
      | some (bytes, r) => (pairUp bytes, true, r)
      | none =>
        match readUnit r with
        | none => ([], false, s)
        | some (n, r) =>
          let (units, dotted, r) := readUnits limit false r
          (n :: units, dotted, r)

def readV6 (s : List Char) : Option (List Nat × List Char) :=
  let (head, dotted, s) := readUnits 8 true s
  if head.length = 8 then some (head, s)
  else if dotted then none
  else do
    let s ← readChar ':' s >>= readChar ':'
    let (tail, _, s) := readUnits (7 - head.length) true s
    return (head ++ List.replicate (8 - head.length - tail.length) 0 ++ tail, s)

def ofText? (s : List Char) : Option Address :=
  match readDotted s, readV6 s with
  | some (bytes, []), _ => some (v4 bytes)
  | _, some (units, []) => some (v6 units)
  | _, _ => none

def longestZeros (units : List Nat) : Nat × Nat :=
  (List.range units.length).foldl (fun best i =>
    let run := ((units.drop i).takeWhile (· == 0)).length
    if best.2 < run then (i, run) else best) (0, 0)

def dottedText (bytes : List Nat) : String := ".".intercalate (bytes.map decimalText)

def unitsText (units : List Nat) : String :=
  ":".intercalate (units.map fun n => String.ofList (Nat.toDigits 16 n))

def text : Address → String
  | v4 bytes => dottedText bytes
  | v6 [0, 0, 0, 0, 0, 0xffff, a, b] =>
    "::ffff:" ++ dottedText [a / 256, a % 256, b / 256, b % 256]
  | v6 units =>
    let (start, run) := longestZeros units
    if run ≤ 1 then unitsText units
    else unitsText (units.take start) ++ "::" ++ unitsText (units.drop (start + run))

end Address

end UnitOfWork.Postgres
