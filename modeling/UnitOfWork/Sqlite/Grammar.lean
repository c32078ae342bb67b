import UnitOfWork.Fault
import UnitOfWork.Sqlite.Command
import UnitOfWork.Sqlite.Token

namespace UnitOfWork.Sqlite

inductive Stop where
  | near (l : Lexeme)
  | atEnd

namespace Grammar

abbrev Reader (α : Type) := List Lexeme → Except Stop (α × List Lexeme)

def reserved : List String :=
  ["add", "all", "alter", "and", "as", "autoincrement", "between", "case", "check", "collate",
    "commit", "constraint", "create", "default", "deferrable", "delete", "distinct", "drop", "else",
    "escape", "except", "exists", "foreign", "from", "group", "having", "in", "index", "insert",
    "intersect", "into", "is", "isnull", "join", "limit", "not", "nothing", "notnull", "null", "on",
    "or", "order", "primary", "references", "returning", "select", "set", "table", "then", "to",
    "transaction", "union", "unique", "update", "using", "values", "when", "where"]

def lower (s : String) : String := String.ofList (s.toList.map Char.toLower)

def keyword? (l : Lexeme) : Option String :=
  match l.token with
  | .word s => some (lower s)
  | _ => none

def stop {α : Type} : List Lexeme → Except Stop α
  | [] => .error .atEnd
  | l :: _ => .error (.near l)

def word (k : String) : Reader Unit
  | [] => stop []
  | l :: ls => if keyword? l = some k then .ok ((), ls) else stop (l :: ls)

def sign (s : String) : Reader Unit
  | [] => stop []
  | l :: ls => if l.token = .sign s then .ok ((), ls) else stop (l :: ls)

def name : Reader (String × Nat)
  | [] => stop []
  | l :: ls =>
    match l.token with
    | .word s => if reserved.contains (lower s) then stop (l :: ls) else .ok ((s, l.offset), ls)
    | _ => stop (l :: ls)

def term : Reader Term
  | [] => stop []
  | l :: ls =>
    match l.token with
    | .word s =>
      if lower s = "null" then .ok (.literal .null, ls)
      else if reserved.contains (lower s) then stop (l :: ls)
      else .ok (.column s l.offset, ls)
    | .parameter n => .ok (.parameter n, ls)
    | .number c => .ok (.literal c, ls)
    | .sign _ => stop (l :: ls)

def atWord (k : String) : List Lexeme → Bool
  | [] => false
  | l :: _ => keyword? l = some k

def atSign (s : String) : List Lexeme → Bool
  | [] => false
  | l :: _ => l.token = .sign s

def listOf {α : Type} (item : Reader α) : Nat → Reader (List α)
  | 0, ls => stop ls
  | fuel + 1, ls =>
    match item ls with
    | .error e => .error e
    | .ok (a, ls) =>
      if atSign "," ls then
        match listOf item fuel (ls.drop 1) with
        | .error e => .error e
        | .ok (as, ls) => .ok (a :: as, ls)
      else .ok ([a], ls)

def list {α : Type} (item : Reader α) : Reader (List α) := fun ls => listOf item ls.length ls

def inParentheses {α : Type} (inner : Reader α) : Reader α := fun ls => do
  let (_, ls) ← sign "(" ls
  let (a, ls) ← inner ls
  let (_, ls) ← sign ")" ls
  return (a, ls)

def comparisonOf? : String → Option Comparison
  | "=" | "==" => some .eq
  | "<>" | "!=" => some .ne
  | "<" => some .lt
  | "<=" => some .le
  | ">" => some .gt
  | ">=" => some .ge
  | _ => none

def comparison? : List Lexeme → Option (Comparison × List Lexeme)
  | [] => none
  | l :: ls =>
    match l.token with
    | .sign s => (comparisonOf? s).map fun c => (c, ls)
    | _ => none

def question (left : Term) : Reader (Condition Term) := fun ls =>
  match comparison? ls with
  | some (c, ls) => do
    let (right, ls) ← term ls
    return (.compare c left right, ls)
  | none =>
    if atWord "is" ls then do
      let ls := ls.drop 1
      let negated := atWord "not" ls
      let (_, ls) ← word "null" (if negated then ls.drop 1 else ls)
      return (.null left negated, ls)
    else if atWord "in" ls then do
      let (_, ls) ← sign "(" (ls.drop 1)
      if atSign ")" ls then return (.among left [], ls.drop 1)
      else do
        let (items, ls) ← list term ls
        let (_, ls) ← sign ")" ls
        return (.among left items, ls)
    else return (.truth left, ls)

def bareCondition : Reader (Condition Term) := fun ls => do
  let (left, ls) ← term ls
  question left ls

def condition : Reader (Condition Term) := fun ls =>
  if atSign "(" ls then inParentheses bareCondition ls else bareCondition ls

def conditionsOf : Nat → Reader (List (Condition Term))
  | 0, ls => stop ls
  | fuel + 1, ls =>
    match condition ls with
    | .error e => .error e
    | .ok (c, ls) =>
      if atWord "and" ls then
        match conditionsOf fuel (ls.drop 1) with
        | .error e => .error e
        | .ok (cs, ls) => .ok (c :: cs, ls)
      else .ok ([c], ls)

def whereConditions : Reader (List (Condition Term)) := fun ls =>
  if atWord "where" ls then conditionsOf ls.length (ls.drop 1) else .ok ([], ls)

def isCount : List Lexeme → Bool
  | l :: ls => keyword? l = some "count" && atSign "(" ls
  | [] => false

def isCast : List Lexeme → Bool
  | l :: ls => keyword? l = some "cast" && atSign "(" ls
  | [] => false

def output : Reader Output := fun ls =>
  if atSign "*" ls then .ok (.all, ls.drop 1)
  else if isCount ls then do
    let (_, ls) ← inParentheses (sign "*") (ls.drop 1)
    return (.count, ls)
  else if isCast ls then
    inParentheses (fun ls => do
      let (t, ls) ← term ls
      let (_, ls) ← word "as" ls
      let (_, ls) ← word "text" ls
      return (.textOf t, ls)) (ls.drop 1)
  else do
    let (t, ls) ← term ls
    if atWord "as" ls then do
      let ((n, _), ls) ← name (ls.drop 1)
      return (.term t (some n), ls)
    else return (.term t none, ls)

def orderKey : Reader (OrderKey Term) := fun ls => do
  let (t, ls) ← term ls
  if atWord "desc" ls then return (⟨t, false⟩, ls.drop 1)
  else if atWord "asc" ls then return (⟨t, true⟩, ls.drop 1)
  else return (⟨t, true⟩, ls)

def orderKeys : Reader (List (OrderKey Term)) := fun ls =>
  if atWord "order" ls then do
    let (_, ls) ← word "by" (ls.drop 1)
    list orderKey ls
  else .ok ([], ls)

def query : Reader Query := fun ls => do
  let (_, ls) ← word "select" ls
  let (outputs, ls) ← list output ls
  let (table, ls) ←
    if atWord "from" ls then do
      let ((t, _), ls) ← name (ls.drop 1)
      pure (some t, ls)
    else pure (none, ls)
  let (conditions, ls) ← whereConditions ls
  let (order, ls) ← orderKeys ls
  return (⟨outputs, table, conditions, order⟩, ls)

def queriesOf : Nat → Reader (List Query)
  | 0, ls => stop ls
  | fuel + 1, ls =>
    match query ls with
    | .error e => .error e
    | .ok (q, ls) =>
      if atWord "union" ls then
        match word "all" (ls.drop 1) with
        | .error e => .error e
        | .ok (_, ls) =>
          match queriesOf fuel ls with
          | .error e => .error e
          | .ok (qs, ls) => .ok (q :: qs, ls)
      else .ok ([q], ls)

def typeWords : List Lexeme → List String × List Lexeme
  | [] => ([], [])
  | l :: ls =>
    match l.token with
    | .word s =>
      if reserved.contains (lower s) then ([], l :: ls)
      else (s :: (typeWords ls).1, (typeWords ls).2)
    | _ => ([], l :: ls)

def number : Reader Unit
  | [] => stop []
  | l :: ls =>
    match l.token with
    | .number _ => .ok ((), ls)
    | _ => stop (l :: ls)

def typeSize : Reader Unit := fun ls =>
  if atSign "(" ls then
    inParentheses (fun ls => do
      let (_, ls) ← number ls
      if atSign "," ls then number (ls.drop 1) else return ((), ls)) ls
  else .ok ((), ls)

def constraints : Nat → ColumnDefinition → Reader ColumnDefinition
  | 0, c, ls => .ok (c, ls)
  | fuel + 1, c, ls =>
    if atWord "primary" ls then
      match word "key" (ls.drop 1) with
      | .error e => .error e
      | .ok (_, ls) => constraints fuel { c with primary := true } ls
    else if atWord "not" ls then
      match word "null" (ls.drop 1) with
      | .error e => .error e
      | .ok (_, ls) => constraints fuel { c with notNull := true } ls
    else .ok (c, ls)

def columnDefinition : Reader ColumnDefinition := fun ls => do
  let ((n, _), ls) ← name ls
  let (type, ls) := typeWords ls
  let (_, ls) ← if type.isEmpty then pure ((), ls) else typeSize ls
  constraints ls.length ⟨n, " ".intercalate type, false, false⟩ ls

def assignment : Reader (String × Term) := fun ls => do
  let ((n, _), ls) ← name ls
  let (_, ls) ← sign "=" ls
  let (t, ls) ← term ls
  return ((n, t), ls)

def createTable : Reader Command := fun ls => do
  let (_, ls) ← word "table" ls
  let ((t, offset), ls) ← name ls
  let (columns, ls) ← inParentheses (list columnDefinition) ls
  return (.create t columns offset, ls)

def dropTable : Reader Command := fun ls => do
  let (_, ls) ← word "table" ls
  let ((t, _), ls) ← name ls
  return (.drop t, ls)

def insertion : Reader Command := fun ls => do
  let (_, ls) ← word "into" ls
  let ((t, _), ls) ← name ls
  let (columns, ls) ← inParentheses (list name) ls
  let (_, ls) ← word "values" ls
  let (values, ls) ← inParentheses (list term) ls
  return (.insert t (columns.map Prod.fst) values, ls)

def change : Reader Command := fun ls => do
  let ((t, _), ls) ← name ls
  let (_, ls) ← word "set" ls
  let (assignments, ls) ← list assignment ls
  let (conditions, ls) ← whereConditions ls
  return (.update t assignments conditions, ls)

def deletion : Reader Command := fun ls => do
  let (_, ls) ← word "from" ls
  let ((t, _), ls) ← name ls
  let (conditions, ls) ← whereConditions ls
  return (.delete t conditions, ls)

def selection : Reader Command := fun ls => do
  let (queries, ls) ← queriesOf ls.length ls
  match queries with
  | [] => stop ls
  | q :: qs => return (.select q qs, ls)

def command : Reader Command
  | [] => stop []
  | l :: ls =>
    match keyword? l with
    | some "select" => selection (l :: ls)
    | some "insert" => insertion ls
    | some "update" => change ls
    | some "delete" => deletion ls
    | some "create" => createTable ls
    | some "drop" => dropTable ls
    | some "begin" => .ok (.begin, ls)
    | some "commit" => .ok (.commit, ls)
    | some "rollback" => .ok (.rollback, ls)
    | _ => stop (l :: ls)

def isOver (ls : List Lexeme) : Bool := ls.isEmpty || atSign ";" ls

end Grammar

structure Prepared where
  command : Command
  parameters : Nat
deriving DecidableEq

def Stop.fault (sql : String) : Stop → Fault
  | near l => .syntaxNear l.text sql l.offset
  | atEnd => .incompleteInput

def Prepared.ofText (sql : String) : Except Fault Prepared :=
  match Token.scanText sql with
  | .error (text, offset) => .error (.unrecognized text sql offset)
  | .ok scanned =>
    match Grammar.command scanned.lexemes with
    | .error s => .error (s.fault sql)
    | .ok (command, rest) =>
      if Grammar.isOver rest then .ok ⟨command, scanned.parameters⟩
      else
        match Grammar.stop rest with
        | .error s => .error (s.fault sql)
        | .ok c => .ok ⟨c, scanned.parameters⟩

end UnitOfWork.Sqlite
