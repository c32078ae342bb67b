import UnitOfWork.Calendar.Timestamp
import UnitOfWork.Text.Digits
import UnitOfWork.Text.Pieces

namespace UnitOfWork.Timestamp

open Text

/-- How strictly a zone-less timestamp is read: the character between date and time, or blanks
alone, and whether blanks may also stand before the punctuation and at the end. -/
structure Style where
  separator : Option Char
  loose : Bool

def readNumber (limit : Nat) (s : List Char) : Option (Nat × List Char) :=
  readDigits limit (dropBlanks s)

def readYear (s : List Char) : Option (Int × List Char) :=
  match dropBlanks s with
  | '-' :: r => (readDigits r.length r).map fun p => (-(p.1 : Int), p.2)
  | '+' :: r => (readDigits r.length r).map fun p => ((p.1 : Int), p.2)
  | r => (readDigits 4 r).map fun p => ((p.1 : Int), p.2)

def nanosOfDigits (ds : List Char) : Nat := digitsValue ((ds.take 9).rightpad 9 '0')

def readFraction : List Char → Option (Nat × List Char)
  | '.' :: r =>
    match r.takeWhile Char.isDigit with
    | [] => none
    | ds => some (nanosOfDigits ds, r.drop ds.length)
  | s => some (0, s)

namespace Style

def slack (style : Style) (s : List Char) : List Char :=
  if style.loose then dropBlanks s else s

def readMark (style : Style) (c : Char) (s : List Char) : Option (List Char) :=
  readChar c (style.slack s)

def readSeparator (style : Style) (s : List Char) : Option (List Char) :=
  match style.separator with
  | some c => style.readMark c s
  | none => some (dropBlanks s)

def read (style : Style) (s : List Char) : Option Timestamp := do
  let (year, s) ← readYear s
  let s ← style.readMark '-' s
  let (month, s) ← readNumber 2 s
  let s ← style.readMark '-' s
  let (day, s) ← readNumber 2 s
  let s ← style.readSeparator s
  let (hour, s) ← readNumber 2 s
  let s ← style.readMark ':' s
  let (minute, s) ← readNumber 2 s
  let s ← style.readMark ':' s
  let (second, s) ← readNumber 2 s
  let (nano, s) ← readFraction s
  match style.slack s with
  | [] => ofClock? year month day hour minute second nano
  | _ => none

def spaced : Style := ⟨none, false⟩

def lettered : Style := ⟨some 'T', false⟩

def relaxed : Style := ⟨some 'T', true⟩

end Style

def readFixed (count : Nat) (s : List Char) : Option (Nat × List Char) :=
  let ds := s.take count
  if ds.length = count ∧ ds.all Char.isDigit then some (digitsValue ds, s.drop count) else none

def minusSign : Char := '\u2212'

def readZone : List Char → Option (Int × List Char)
  | [] => none
  | c :: s =>
    if c = 'Z' ∨ c = 'z' then some (0, s)
    else if c = '+' ∨ c = '-' ∨ c = minusSign then do
      let (hours, s) ← readFixed 2 s
      let s ← readChar ':' s
      let (minutes, s) ← readFixed 2 s
      if minutes < 60 ∧ hours < 24 then
        let east : Int := (hours * 60 + minutes : Nat)
        some (if c = '+' then east else -east, s)
      else none
    else none

def readZoned (s : List Char) : Option Timestamp := do
  let (year, s) ← readFixed 4 s
  let s ← readChar '-' s
  let (month, s) ← readFixed 2 s
  let s ← readChar '-' s
  let (day, s) ← readFixed 2 s
  let s ← match s with
    | c :: r => if c = 'T' ∨ c = 't' ∨ c = ' ' then some r else none
    | [] => none
  let (hour, s) ← readFixed 2 s
  let s ← readChar ':' s
  let (minute, s) ← readFixed 2 s
  let s ← readChar ':' s
  let (second, s) ← readFixed 2 s
  let (nano, s) ← readFraction s
  let (zone, s) ← readZone s
  match s with
  | [] => (← ofClock? year month day hour minute second nano).minusMinutes? zone
  | _ => none

def ofText? (s : String) : Option Timestamp :=
  Style.spaced.read s.toList <|> Style.lettered.read s.toList <|> readZoned s.toList

end UnitOfWork.Timestamp
