import UnitOfWork.Calendar.Reader
import UnitOfWork.Calendar.Timestamp
import UnitOfWork.Decimal.Shortest
import UnitOfWork.Json.Number
import UnitOfWork.Json.Text
import UnitOfWork.Value.Basic

namespace UnitOfWork

def Decimal.Layout.exchanged : Decimal.Layout := ⟨-5, 15, "+", .even, false, 1⟩

namespace Value

open Json

def floatToJson (x : Decimal.Float64) : List Char :=
  match x.meaning with
  | .finite negative significand power =>
    let layout := Decimal.Layout.exchanged
    (layout.finite negative (Decimal.binary64.shortest layout.tie significand power)).toList
  | _ => "null".toList

def bytesToJson (bytes : List UInt8) : List Char :=
  '[' :: [','].intercalate (bytes.map fun b => Text.decimal b.toNat) ++ [']']

def tagged (key : String) (content : List Char) : List Char :=
  '\x7b' :: writeText key ++ ':' :: content ++ ['\x7d']

def toJson : Value → List Char
  | null => writeText "Null"
  | text s => tagged "Text" (writeText s)
  | blob b => tagged "Blob" (bytesToJson b)
  | int i => tagged "Int" (Text.signed i.toInt)
  | float x => tagged "Float" (floatToJson x)
  | bool b => tagged "Bool" (if b then "true" else "false").toList
  | timestamp t => tagged "Timestamp" (writeText t.lettered)

def readWord (word : String) (s : List Char) : Option (List Char) :=
  if word.toList.isPrefixOf s then some (s.drop word.length) else none

def readString : List Char → Option (String × List Char)
  | '"' :: r => (readBody r).map fun p => (String.ofList p.1, p.2)
  | _ => none

def readInteger (least most : Int) (s : List Char) : Option (Int × List Char) := do
  let (n, r) ← readNumber s
  let i ← n.integer?
  if least ≤ i ∧ i ≤ most then some (i, r) else none

def readBytes (s : List Char) : Option (List UInt8 × List Char) :=
  match readInteger 0 255 (dropSpace s) with
  | none => none
  | some (i, r) =>
    match dropSpace r with
    | ',' :: r =>
      if _h : r.length < s.length then
        (readBytes r).map fun p => (i.toNat.toUInt8 :: p.1, p.2)
      else none
    | ']' :: r => some ([i.toNat.toUInt8], r)
    | _ => none
termination_by s.length

def readBlob : List Char → Option (List UInt8 × List Char)
  | '[' :: r =>
    match dropSpace r with
    | ']' :: r => some ([], r)
    | r => readBytes r
  | _ => none

def readContent (key : String) (s : List Char) : Option (Value × List Char) :=
  if key = "Null" then (readWord "null" s).map fun r => (null, r)
  else if key = "Text" then (readString s).map fun p => (text p.1, p.2)
  else if key = "Blob" then (readBlob s).map fun p => (blob p.1, p.2)
  else if key = "Int" then
    (readInteger Int64.minValue.toInt Int64.maxValue.toInt s).map fun p => (int (Int64.ofInt p.1), p.2)
  else if key = "Float" then do
    let (n, r) ← readNumber s
    let x ← n.float?
    some (float x, r)
  else if key = "Bool" then
    ((readWord "true" s).map fun r => (bool true, r)) <|>
      ((readWord "false" s).map fun r => (bool false, r))
  else if key = "Timestamp" then do
    let (t, r) ← readString s
    let t ← Timestamp.Style.relaxed.read t.toList
    some (timestamp t, r)
  else none

def readJson : List Char → Option (Value × List Char)
  | '\x7b' :: r => do
    let (key, r) ← readString (dropSpace r)
    let r ← Text.readChar ':' (dropSpace r)
    let (v, r) ← readContent key (dropSpace r)
    let r ← Text.readChar '\x7d' (dropSpace r)
    some (v, r)
  | s => do
    let (key, r) ← readString s
    if key = "Null" then some (null, r) else none

def ofJson? (s : List Char) : Option Value := do
  let (v, r) ← readJson (dropSpace s)
  match dropSpace r with
  | [] => some v
  | _ => none

end Value

end UnitOfWork
