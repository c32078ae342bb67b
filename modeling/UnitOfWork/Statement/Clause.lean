import UnitOfWork.Statement.Draft

namespace UnitOfWork

inductive Comparison where
  | eq
  | ne
  | lt
  | le
  | gt
  | ge
deriving DecidableEq

namespace Comparison

def sign : Comparison → String
  | eq => "="
  | ne => "<>"
  | lt => "<"
  | le => "<="
  | gt => ">"
  | ge => ">="

def display : Comparison → String
  | eq => "Eq"
  | ne => "Ne"
  | lt => "Lt"
  | le => "Le"
  | gt => "Gt"
  | ge => "Ge"

end Comparison

inductive Predicate where
  | compare (column : String) (comparison : Comparison) (value : Value)
  | null (column : String) (negated : Bool)
  | among (column : String) (values : List Value)
deriving DecidableEq

structure SortKey where
  column : String
  ascending : Bool
deriving DecidableEq

inductive Clause where
  | filter (predicate : Predicate)
  | sort (first : SortKey) (others : List SortKey)
deriving DecidableEq

namespace Predicate

def render : Predicate → Draft → Draft
  | compare column comparison value, d =>
    (((((d.text column).char ' ').text comparison.sign).char ' ').bind value)
  | null column negated, d =>
    (d.text column).text (if negated then " is not null" else " is null")
  | among _ [], d => d.text "1 = 0"
  | among column (v :: vs), d =>
    (Draft.commas Draft.bind (v :: vs) ((d.text column).text " in (")).char ')'

def equal : Predicate → Predicate → Bool
  | compare c o v, compare c' o' v' => c == c' && o == o' && v.equal v'
  | null c n, null c' n' => c == c' && n == n'
  | among c vs, among c' vs' => c == c' && Value.equalAll vs vs'
  | _, _ => false

def display : Predicate → String
  | compare column comparison value =>
    "Compare \x7b column: " ++ Text.quoted column ++ ", op: " ++ comparison.display ++
      ", value: " ++ value.display ++ " \x7d"
  | null column negated =>
    "Null \x7b column: " ++ Text.quoted column ++ ", negated: " ++
      (if negated then "true" else "false") ++ " \x7d"
  | among column values =>
    "In \x7b column: " ++ Text.quoted column ++ ", values: " ++ Value.displayList values ++ " \x7d"

end Predicate

namespace SortKey

def render (k : SortKey) (d : Draft) : Draft :=
  (d.text k.column).text (if k.ascending then " asc" else " desc")

def display (k : SortKey) : String :=
  "(" ++ Text.quoted k.column ++ ", " ++ (if k.ascending then "true" else "false") ++ ")"

end SortKey

namespace Clause

def render : Clause → Draft → Draft
  | filter p => p.render
  | sort first others => Draft.commas SortKey.render (first :: others)

def equal : Clause → Clause → Bool
  | filter p, filter q => p.equal q
  | sort k ks, sort k' ks' => k == k' && ks == ks'
  | _, _ => false

def display : Clause → String
  | filter p => "Where(" ++ p.display ++ ")"
  | sort first others =>
    "OrderBy(OrderByClause \x7b keys: [" ++
      ", ".intercalate ((first :: others).map SortKey.display) ++ "] \x7d)"

def predicate? : Clause → Option Predicate
  | filter p => some p
  | sort _ _ => none

def sortKeys : Clause → List SortKey
  | filter _ => []
  | sort first others => first :: others

end Clause

end UnitOfWork
