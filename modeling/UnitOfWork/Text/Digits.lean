namespace UnitOfWork.Text

def decimal (n : Nat) : List Char := Nat.toDigits 10 n

def padded (width n : Nat) : List Char := (decimal n).leftpad width '0'

def signed : Int → List Char
  | .ofNat n => decimal n
  | .negSucc n => '-' :: decimal (n + 1)

def decimalText (n : Nat) : String := String.ofList (decimal n)

def signedText (i : Int) : String := String.ofList (signed i)

def digitsValue (ds : List Char) : Nat := Nat.ofDigitChars 10 ds 0

theorem digitsValue_decimal (n : Nat) : digitsValue (decimal n) = n :=
  Nat.ofDigitChars_ten_toDigits

def readDigits (limit : Nat) (s : List Char) : Option (Nat × List Char) :=
  match (s.take limit).takeWhile Char.isDigit with
  | [] => none
  | ds => some (digitsValue ds, s.drop ds.length)

def naturalOf? : List Char → Option Nat
  | [] => none
  | '+' :: ds => if ds ≠ [] ∧ ds.all Char.isDigit then some (digitsValue ds) else none
  | ds => if ds.all Char.isDigit then some (digitsValue ds) else none

def integerOf? : List Char → Option Int
  | '-' :: ds => if ds ≠ [] ∧ ds.all Char.isDigit then some (-(digitsValue ds : Int)) else none
  | s => (naturalOf? s).map Int.ofNat

def hexValue? (c : Char) : Option Nat :=
  if '0' ≤ c ∧ c ≤ '9' then some (c.toNat - '0'.toNat)
  else if 'a' ≤ c ∧ c ≤ 'f' then some (c.toNat - 'a'.toNat + 10)
  else if 'A' ≤ c ∧ c ≤ 'F' then some (c.toNat - 'A'.toNat + 10)
  else none

def readChar (c : Char) : List Char → Option (List Char)
  | [] => none
  | d :: r => if d = c then some r else none

end UnitOfWork.Text
