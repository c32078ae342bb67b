import UnitOfWork.Text.Digits

namespace UnitOfWork.Text

inductive Utf8Fault where
  | invalid (length start : Nat)
  | incomplete (start : Nat)
deriving DecidableEq

def Utf8Fault.message : Utf8Fault → String
  | .invalid length start => s!"invalid utf-8 sequence of {length} bytes from index {start}"
  | .incomplete start => s!"incomplete utf-8 byte sequence from index {start}"

def Utf8.followers (lead : UInt8) : Option (List (UInt8 × UInt8)) :=
  if lead < 0x80 then some []
  else if 0xc2 ≤ lead ∧ lead ≤ 0xdf then some [(0x80, 0xbf)]
  else if lead = 0xe0 then some [(0xa0, 0xbf), (0x80, 0xbf)]
  else if lead = 0xed then some [(0x80, 0x9f), (0x80, 0xbf)]
  else if 0xe1 ≤ lead ∧ lead ≤ 0xef then some [(0x80, 0xbf), (0x80, 0xbf)]
  else if lead = 0xf0 then some [(0x90, 0xbf), (0x80, 0xbf), (0x80, 0xbf)]
  else if lead = 0xf4 then some [(0x80, 0x8f), (0x80, 0xbf), (0x80, 0xbf)]
  else if 0xf1 ≤ lead ∧ lead ≤ 0xf3 then some [(0x80, 0xbf), (0x80, 0xbf), (0x80, 0xbf)]
  else none

def Utf8.leadBits (lead : UInt8) : Nat :=
  if lead < 0x80 then lead.toNat
  else if lead < 0xe0 then lead.toNat % 0x20
  else if lead < 0xf0 then lead.toNat % 0x10
  else lead.toNat % 0x8

def Utf8.next (start : Nat) (lead : UInt8) (rest : List UInt8) :
    Except Utf8Fault (Char × { r : List UInt8 // r.length ≤ rest.length }) :=
  match followers lead with
  | none => .error (.invalid 1 start)
  | some ranges => go ranges 1 (leadBits lead) rest (Nat.le_refl _)
where
  go (ranges : List (UInt8 × UInt8)) (taken point : Nat) (bytes : List UInt8)
      (h : bytes.length ≤ rest.length) :
      Except Utf8Fault (Char × { r : List UInt8 // r.length ≤ rest.length }) :=
    match ranges, bytes, h with
    | [], bytes, h => .ok (Char.ofNat point, ⟨bytes, h⟩)
    | _ :: _, [], _ => .error (.incomplete start)
    | (low, high) :: ranges, b :: bytes, h =>
      if low ≤ b ∧ b ≤ high then
        go ranges (taken + 1) (point * 0x40 + b.toNat % 0x40) bytes
          (Nat.le_trans (Nat.le_succ _) h)
      else .error (.invalid taken start)

def Utf8.decodeFrom (start : Nat) : List UInt8 → Except Utf8Fault (List Char)
  | [] => .ok []
  | lead :: rest =>
    match next start lead rest with
    | .error e => .error e
    | .ok (c, ⟨r, _⟩) =>
      match decodeFrom (start + (1 + rest.length - r.length)) r with
      | .error e => .error e
      | .ok cs => .ok (c :: cs)
termination_by bytes => bytes.length

def decodeUtf8 (bytes : List UInt8) : Except Utf8Fault String :=
  (Utf8.decodeFrom 0 bytes).map String.ofList

def Utf8.decodeLossyFrom : Nat → List UInt8 → List Char
  | 0, _ => []
  | fuel + 1, bytes =>
    match decodeFrom 0 bytes with
    | .ok cs => cs
    | .error (.incomplete start) =>
      (decodeFrom 0 (bytes.take start)).toOption.getD [] ++ ['\ufffd']
    | .error (.invalid length start) =>
      (decodeFrom 0 (bytes.take start)).toOption.getD [] ++
        '\ufffd' :: decodeLossyFrom fuel (bytes.drop (start + length))

def decodeLossy (bytes : List UInt8) : String :=
  String.ofList (Utf8.decodeLossyFrom (bytes.length + 1) bytes)

def encodeUtf8 (s : String) : List UInt8 := s.toList.flatMap String.utf8EncodeChar

def percent : UInt8 := 0x25

def hexByte? (a b : UInt8) : Option UInt8 := do
  let high ← hexValue? (Char.ofNat a.toNat)
  let low ← hexValue? (Char.ofNat b.toNat)
  return (16 * high + low).toUInt8

def percentDecode : List UInt8 → List UInt8
  | [] => []
  | [a] => [a]
  | [a, b] => [a, b]
  | a :: b :: c :: rest =>
    if a = percent then
      match hexByte? b c with
      | some d => d :: percentDecode rest
      | none => a :: percentDecode (b :: c :: rest)
    else a :: percentDecode (b :: c :: rest)

def percentBytes (s : List Char) : List UInt8 := percentDecode (encodeUtf8 (String.ofList s))

def percentText? (s : List Char) : Option String := (decodeUtf8 (percentBytes s)).toOption

end UnitOfWork.Text
