import UnitOfWork.Sqlite.Affinity
import UnitOfWork.Text.Utf8

namespace UnitOfWork.Sqlite

inductive Token where
  | word (s : String)
  | parameter (number : Nat)
  | number (c : Cell)
  | sign (s : String)
deriving DecidableEq

structure Lexeme where
  token : Token
  text : String
  offset : Nat

namespace Token

def isNameChar (c : Char) : Bool := c.isAlphanum || c = '_' || c = '$' || 0x80 ≤ c.toNat

def isNameStart (c : Char) : Bool := isNameChar c && !c.isDigit && c != '$'

def isGap (c : Char) : Bool := c = ' ' ∨ c = '\t' ∨ c = '\n' ∨ c = '\x0c' ∨ c = '\r'

def doubleSigns : List (List Char) :=
  ["<=", ">=", "<>", "!=", "=="].map String.toList

def signs : List Char := ['(', ')', ',', '=', '<', '>', '*', ';']

inductive Raw where
  | plain (t : Token)
  | parameter (name : Option String)

def first? (s : List Char) : Option (Nat × Raw) :=
  match s with
  | [] => none
  | c :: r =>
    let name := r.takeWhile isNameChar
    if isNameStart c then some (name.length + 1, .plain (word (String.ofList (c :: name))))
    else if c.isDigit then
      let digits := r.takeWhile fun d => d.isDigit || d = '.'
      (Numeral.read (c :: digits)).map fun n => (digits.length + 1, .plain (number n))
    else if c = '?' then some (1, .parameter none)
    else if (c = '$' ∨ c = ':') ∧ name ≠ [] then
      some (name.length + 1, .parameter (some (String.ofList (c :: name))))
    else if doubleSigns.contains (s.take 2) then
      some (2, .plain (sign (String.ofList (s.take 2))))
    else if signs.contains c then some (1, .plain (sign (String.ofList [c])))
    else none

def numbered (known : List (Option String)) : Raw → Token × List (Option String)
  | .plain t => (t, known)
  | .parameter none => (parameter known.length, known ++ [none])
  | .parameter (some name) =>
    match known.idxOf? (some name) with
    | some i => (parameter i, known)
    | none => (parameter known.length, known ++ [some name])

structure Scanned where
  lexemes : List Lexeme
  parameters : Nat

/-- The tokens of a text; `fuel` is at least its length. A character that begins no token is
returned with its offset. -/
def scan : Nat → Nat → List (Option String) → List Char → Except (String × Nat) Scanned
  | _, _, known, [] => .ok ⟨[], known.length⟩
  | 0, _, known, _ => .ok ⟨[], known.length⟩
  | fuel + 1, offset, known, c :: s =>
    if isGap c then scan fuel (offset + 1) known s
    else
      match first? (c :: s) with
      | none => .error (String.ofList [c], offset)
      | some (length, raw) =>
        let text := String.ofList ((c :: s).take length)
        let (token, known) := numbered known raw
        match scan fuel (offset + text.utf8ByteSize) known ((c :: s).drop length) with
        | .error e => .error e
        | .ok rest => .ok ⟨⟨token, text, offset⟩ :: rest.lexemes, rest.parameters⟩

def scanText (sql : String) : Except (String × Nat) Scanned :=
  scan sql.length 0 [] sql.toList

end Token

end UnitOfWork.Sqlite
