import UnitOfWork.Proofs.Statement.Template
import UnitOfWork.Request
import UnitOfWork.Sqlite.Engine

namespace UnitOfWork.Sqlite

theorem ok_of_bind {ε α β : Type} {x : Except ε α} {f : α → Except ε β} {b : β}
    (h : x >>= f = .ok b) : ∃ a, x = .ok a ∧ f a = .ok b := by
  cases x with
  | error e => cases h
  | ok a => exact ⟨a, rfl, h⟩

def Command.isOrdinary : Command → Bool
  | begin | commit | rollback => false
  | _ => true

def Command.isQuery : Command → Bool
  | select _ _ => true
  | _ => false

theorem Command.isOrdinary_of_isQuery {k : Command} (h : k.isQuery = true) :
    k.isOrdinary = true := by
  cases k with
  | select q qs => rfl
  | _ => cases h

namespace Plan

def isOrdinary : Plan → Bool
  | begin | commit | rollback => false
  | _ => true

def isQuery : Plan → Bool
  | select _ => true
  | _ => false

theorem ofCommand_kind {sql : String} {c : Catalog} {k : Command} {p : Plan}
    (h : ofCommand sql c k = .ok p) : p.isOrdinary = k.isOrdinary ∧ p.isQuery = k.isQuery := by
  cases k with
  | create name columns offset =>
    simp only [ofCommand] at h
    split at h
    · cases h
    · cases h
      exact ⟨rfl, rfl⟩
  | drop name =>
    simp only [ofCommand] at h
    cases ht : c.table name with
    | error e =>
      rw [ht] at h
      cases h
    | ok t =>
      rw [ht] at h
      cases h
      exact ⟨rfl, rfl⟩
  | select first others =>
    obtain ⟨selections, -, h⟩ := ok_of_bind h
    cases selections with
    | nil =>
      cases h
      exact ⟨rfl, rfl⟩
    | cons s rest =>
      dsimp only at h
      split at h
      · cases h
        exact ⟨rfl, rfl⟩
      · cases h
  | insert table columns values =>
    obtain ⟨t, -, h⟩ := ok_of_bind h
    obtain ⟨positions, -, h⟩ := ok_of_bind h
    dsimp only at h
    split at h
    · cases h
    · obtain ⟨operands, -, h⟩ := ok_of_bind h
      cases h
      exact ⟨rfl, rfl⟩
  | update table assignments cs =>
    obtain ⟨t, -, h⟩ := ok_of_bind h
    obtain ⟨assigned, -, h⟩ := ok_of_bind h
    obtain ⟨conditions, -, h⟩ := ok_of_bind h
    cases h
    exact ⟨rfl, rfl⟩
  | delete table cs =>
    obtain ⟨t, -, h⟩ := ok_of_bind h
    obtain ⟨conditions, -, h⟩ := ok_of_bind h
    cases h
    exact ⟨rfl, rfl⟩
  | begin =>
    cases h
    exact ⟨rfl, rfl⟩
  | commit =>
    cases h
    exact ⟨rfl, rfl⟩
  | rollback =>
    cases h
    exact ⟨rfl, rfl⟩

end Plan

namespace Grammar

variable {ls rest : List Lexeme} {k : Command}

theorem selection_query (h : selection ls = .ok (k, rest)) : ∃ q qs, k = .select q qs := by
  obtain ⟨⟨queries, after⟩, -, h⟩ := ok_of_bind h
  cases queries with
  | nil =>
    cases after <;> cases h
  | cons q qs =>
    cases h
    exact ⟨q, qs, rfl⟩

theorem insertion_kind (h : insertion ls = .ok (k, rest)) : ∃ t columns values,
    k = .insert t columns values := by
  obtain ⟨_, -, h⟩ := ok_of_bind h
  obtain ⟨⟨⟨t, _⟩, _⟩, -, h⟩ := ok_of_bind h
  obtain ⟨_, -, h⟩ := ok_of_bind h
  obtain ⟨_, -, h⟩ := ok_of_bind h
  obtain ⟨_, -, h⟩ := ok_of_bind h
  cases h
  exact ⟨_, _, _, rfl⟩

theorem change_kind (h : change ls = .ok (k, rest)) : ∃ t assignments conditions,
    k = .update t assignments conditions := by
  obtain ⟨⟨⟨t, _⟩, _⟩, -, h⟩ := ok_of_bind h
  obtain ⟨_, -, h⟩ := ok_of_bind h
  obtain ⟨_, -, h⟩ := ok_of_bind h
  obtain ⟨_, -, h⟩ := ok_of_bind h
  cases h
  exact ⟨_, _, _, rfl⟩

theorem deletion_kind (h : deletion ls = .ok (k, rest)) : ∃ t conditions,
    k = .delete t conditions := by
  obtain ⟨_, -, h⟩ := ok_of_bind h
  obtain ⟨⟨⟨t, _⟩, _⟩, -, h⟩ := ok_of_bind h
  obtain ⟨_, -, h⟩ := ok_of_bind h
  cases h
  exact ⟨_, _, rfl⟩

theorem command_kind {l : Lexeme} {w : String} (hw : keyword? l = some w)
    (hmem : w ∈ ["select", "insert", "update", "delete"])
    (h : command (l :: ls) = .ok (k, rest)) :
    k.isOrdinary = true ∧ k.isQuery = (w == "select") := by
  simp only [List.mem_cons, List.not_mem_nil, or_false] at hmem
  obtain rfl | rfl | rfl | rfl := hmem
  · simp only [command, hw] at h
    obtain ⟨q, qs, rfl⟩ := selection_query h
    exact ⟨rfl, rfl⟩
  · simp only [command, hw] at h
    obtain ⟨t, columns, values, rfl⟩ := insertion_kind h
    exact ⟨rfl, rfl⟩
  · simp only [command, hw] at h
    obtain ⟨t, assignments, conditions, rfl⟩ := change_kind h
    exact ⟨rfl, rfl⟩
  · simp only [command, hw] at h
    obtain ⟨t, conditions, rfl⟩ := deletion_kind h
    exact ⟨rfl, rfl⟩

end Grammar

namespace Token

theorem scan_word {c g : Char} {name rest : List Char} {fuel offset : Nat}
    {known : List (Option String)} {scanned : Scanned} (hgap : isGap c = false)
    (hc : isNameStart c = true) (hname : ∀ d ∈ name, isNameChar d = true)
    (hg : isNameChar g = false)
    (h : scan (fuel + 1) offset known (c :: (name ++ g :: rest)) = .ok scanned) :
    ∃ l ls, scanned.lexemes = l :: ls ∧ l.token = .word (String.ofList (c :: name)) := by
  have htake : (name ++ g :: rest).takeWhile isNameChar = name := by
    rw [List.takeWhile_append_of_pos hname, List.takeWhile_cons_of_neg (by simp [hg]),
      List.append_nil]
  have hfirst : first? (c :: (name ++ g :: rest)) =
      some (name.length + 1, .plain (word (String.ofList (c :: name)))) := by
    simp only [first?, hc, htake, if_true]
  simp only [scan, hgap, hfirst, numbered, Bool.false_eq_true, if_false] at h
  split at h
  · cases h
  · cases h
    exact ⟨_, _, rfl, rfl⟩

end Token

theorem ofText_kind {c : Char} {name rest : List Char} {sql : String}
    (hsql : sql.toList = c :: (name ++ ' ' :: rest)) (hgap : Token.isGap c = false)
    (hc : Token.isNameStart c = true) (hname : name.all Token.isNameChar = true)
    (hmem : Grammar.lower (String.ofList (c :: name)) ∈ ["select", "insert", "update", "delete"])
    {p : Prepared} (h : Prepared.ofText sql = .ok p) :
    p.command.isOrdinary = true ∧
      p.command.isQuery = (Grammar.lower (String.ofList (c :: name)) == "select") := by
  have hlength : sql.length = (name ++ ' ' :: rest).length + 1 := by
    rw [← String.length_toList, hsql, List.length_cons]
  simp only [Prepared.ofText, Token.scanText, hsql, hlength] at h
  split at h
  · cases h
  · rename_i scanned hscan
    obtain ⟨l, ls, hlexemes, hl⟩ := Token.scan_word hgap hc (List.all_eq_true.mp hname) rfl hscan
    have hw : Grammar.keyword? l = some (Grammar.lower (String.ofList (c :: name))) := by
      rw [Grammar.keyword?, hl]
    rw [hlexemes] at h
    split at h
    · cases h
    · rename_i k after hk
      have hkind := Grammar.command_kind hw hmem hk
      split at h
      · cases h
        exact hkind
      · cases after <;> cases h

def isOrdinary (sql : String) : Bool :=
  match Prepared.ofText sql with
  | .ok p => p.command.isOrdinary
  | .error _ => true

def isQuery (sql : String) : Bool :=
  match Prepared.ofText sql with
  | .ok p => p.command.isQuery
  | .error _ => true

theorem isOrdinary_of_isQuery {sql : String} (h : isQuery sql = true) : isOrdinary sql = true := by
  unfold isQuery at h
  unfold isOrdinary
  cases hp : Prepared.ofText sql with
  | error f => rfl
  | ok p =>
    rw [hp] at h
    exact Command.isOrdinary_of_isQuery h

theorem isQuery_select (rest : String) : isQuery ("select " ++ rest) = true := by
  have hsql : ("select " ++ rest).toList =
      's' :: (['e', 'l', 'e', 'c', 't'] ++ ' ' :: rest.toList) := by
    rw [String.toList_append]
    rfl
  unfold isQuery
  split
  · exact (ofText_kind hsql rfl rfl rfl (by decide) ‹_›).2
  · rfl

theorem isOrdinary_change {w : String} (hw : w ∈ ["insert", "update", "delete"])
    (rest : String) : isOrdinary (w ++ (" " ++ rest)) = true := by
  have hsql : (w ++ (" " ++ rest)).toList = w.toList ++ ' ' :: rest.toList := by
    rw [String.toList_append, String.toList_append]
    rfl
  unfold isOrdinary
  split
  · simp only [List.mem_cons, List.not_mem_nil, or_false] at hw
    obtain rfl | rfl | rfl := hw
    · exact (ofText_kind hsql rfl rfl rfl (by decide) ‹_›).1
    · exact (ofText_kind hsql rfl rfl rfl (by decide) ‹_›).1
    · exact (ofText_kind hsql rfl rfl rfl (by decide) ‹_›).1
  · rfl

end UnitOfWork.Sqlite

namespace UnitOfWork.Request

open Statement (Spells)

def isQuery : Request → Bool
  | one _ _ _ | many _ _ _ | count _ _ => true
  | insert _ _ | update _ _ _ | delete _ _ | exec _ => false

variable {d : Dialect} {q : Request} {st : Statement}

theorem sql_of_spells {render : Dialect → Except Failure Statement} {s : String} {t : Template}
    {vs : List Value} (h : Spells render (.text s :: t) vs) (hst : render d = .ok st) :
    ∃ rest, st.sql = s ++ rest := by
  rw [h.eq d] at hst
  cases hst
  exact ⟨t.fill d.placeholder 1, rfl⟩

theorem isQuery_statement (hq : q.isQuery = true) (h : q.statement d = .ok st) :
    Sqlite.isQuery st.sql = true := by
  cases q with
  | one columns table clauses | many columns table clauses =>
    obtain ⟨rest, hsql⟩ := sql_of_spells (Statement.select_spells table clauses columns) h
    rw [hsql]
    exact Sqlite.isQuery_select rest
  | count table clauses =>
    obtain ⟨rest, hsql⟩ := sql_of_spells (Statement.count_spells table clauses) h
    have hword : "select count(*) from " = "select " ++ "count(*) from " := rfl
    rw [hsql, hword, String.append_assoc]
    exact Sqlite.isQuery_select _
  | insert | update | delete | exec => cases hq

theorem isOrdinary_statement (hq : ∀ st, q ≠ .exec st) (h : q.statement d = .ok st) :
    Sqlite.isOrdinary st.sql = true := by
  cases hquery : q.isQuery with
  | true => exact Sqlite.isOrdinary_of_isQuery (isQuery_statement hquery h)
  | false =>
    cases q with
    | one | many | count => cases hquery
    | insert table row =>
      cases hrow : row.isEmpty with
      | true =>
        rw [statement, Statement.insert, if_pos hrow] at h
        cases h
      | false =>
        obtain ⟨rest, hsql⟩ := sql_of_spells (Statement.insert_spells table row hrow) h
        have hword : "insert into " = "insert" ++ (" " ++ "into ") := rfl
        rw [hsql, hword, String.append_assoc, String.append_assoc]
        exact Sqlite.isOrdinary_change (by simp) _
    | update table row clauses =>
      cases hrow : row.isEmpty with
      | true =>
        rw [statement, Statement.update, if_pos hrow] at h
        cases h
      | false =>
        obtain ⟨rest, hsql⟩ := sql_of_spells (Statement.update_spells table row clauses hrow) h
        have hword : "update " = "update" ++ " " := rfl
        rw [hsql, hword, String.append_assoc]
        exact Sqlite.isOrdinary_change (by simp) _
    | delete table clauses =>
      obtain ⟨rest, hsql⟩ := sql_of_spells (Statement.delete_spells table clauses) h
      have hword : "delete from " = "delete" ++ (" " ++ "from ") := rfl
      rw [hsql, hword, String.append_assoc, String.append_assoc]
      exact Sqlite.isOrdinary_change (by simp) _
    | exec own => exact absurd rfl (hq own)

end UnitOfWork.Request
