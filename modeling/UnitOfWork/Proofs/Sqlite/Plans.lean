import UnitOfWork.Proofs.Sqlite.Phrases
import UnitOfWork.Request
import UnitOfWork.Sqlite.Engine

namespace UnitOfWork.Sqlite

open Template (spread map_spread spread_plain)

structure Fits (c : Catalog) (table : String) (t : Table) (clauses : List Clause) : Prop where
  bare : isBareName table = true
  found : c.find? table = some t
  has : ∀ clause ∈ clauses, ∀ column ∈ clause.columns, t.Has column

namespace Plan

variable (t : Table) (columns : List String) (clauses : List Clause)

def choice (k : Nat) : List (Condition Operand) :=
  conditionsAt t k (clauses.filterMap Clause.predicate?)

def selected : Selection where
  shown := columns.map fun name => .operand (t.operand name)
  table := some t
  conditions := choice t clauses 0
  order := (clauses.flatMap Clause.sortKeys).map fun k => ⟨t.operand k.column, k.ascending⟩

def counted : Selection := ⟨[.count], some t, choice t clauses 0, []⟩

def assigned : List (Nat × Operand) :=
  spread 1 (fun k name => ((t.position? name).getD 0, .parameter k)) 0 columns

end Plan

def Plans (c : Catalog) (ts : List Token) (p : Plan) : Prop :=
  ∀ sql ls, ls.map Lexeme.token = ts →
    ∃ k, Grammar.command ls = .ok (k, []) ∧ Plan.ofCommand sql c k = .ok p

structure Planned (c : Catalog) (d : Dialect) (q : Request) (p : Plan) (vs : List Value) :
    Prop where
  prepared : ∃ st, q.statement d = .ok st ∧ st.args = vs ∧ c.prepare st.sql vs.length = .ok p

theorem Plans.planned {c : Catalog} {d : Dialect} {parted : Bool} {template : Template}
    {ts : List Token} {p : Plan} {q : Request} {vs : List Value} (h : Plans c ts p)
    (hreads : Reads d vs.length 0 parted template ts)
    (hspells : Statement.Spells (fun d => q.statement d) template vs) : Planned c d q p vs := by
  obtain ⟨ls, hscan, hls⟩ := hreads.scanText vs
  obtain ⟨k, hcommand, hplan⟩ := h (Template.statement d template vs).sql ls hls
  have htext : Prepared.ofText (Template.statement d template vs).sql = .ok ⟨k, vs.length⟩ := by
    simp only [Prepared.ofText, hscan, hcommand, Grammar.isOver, List.isEmpty_nil, Bool.true_or,
      if_true]
  refine ⟨Template.statement d template vs, hspells.eq d, rfl, ?_⟩
  simp only [Catalog.prepare, htext, hplan, bind, Except.bind, if_true, pure, Except.pure]

namespace Grammar

variable {t : Table}

theorem no_comma_starts_choice (k : Nat) (ps : List Predicate) :
    startsSign "," (conditionTokens "where" k ps) = false := by
  cases ps with
  | nil => rfl
  | cons p ps => rfl

theorem starts_order {k : String} (hk : k = "and" ∨ k = "where") (keys : List SortKey) :
    startsWord k (orderTokens keys) = false := by
  cases keys with
  | nil => rfl
  | cons key keys => obtain rfl | rfl := hk <;> rfl

theorem reads_query (sql : String) {ts : List Token} {P : List Output → Prop}
    {N : List Token → Prop} (houtputs : Takes (list output) ts P N)
    (hfrom : ∀ us, N (.word "from" :: us)) {table : String} (htable : isBareName table = true)
    {ps : List Predicate} (hps : ∀ p ∈ ps, t.Has p.column) {keys : List SortKey}
    (hkeys : ∀ key ∈ keys, t.Has key.column) {ls : List Lexeme}
    (hls : ls.map Lexeme.token = .word "select" :: (ts ++ .word "from" :: .word table ::
      (conditionTokens "where" 0 ps ++ orderTokens keys))) :
    ∃ outputs conditions order,
      query ls = .ok (⟨outputs, some table, conditions, order⟩, []) ∧ P outputs ∧
      Plan.conditions sql (some t) conditions = .ok (conditionsAt t 0 ps) ∧
      List.Forall₂ (IsKey t) keys order := by
  obtain ⟨l₁, ls, rfl, h₁, hls⟩ := List.map_eq_cons_iff.mp hls
  obtain ⟨outputs, ls', houtput, hls, hP⟩ := houtputs ls _ hls (hfrom _)
  obtain ⟨l₂, ls', rfl, h₂, hls⟩ := List.map_eq_cons_iff.mp hls
  obtain ⟨l₃, ls', rfl, h₃, hls⟩ := List.map_eq_cons_iff.mp hls
  obtain ⟨conditions, ls'', hwhere, hls, hconditions⟩ := takes_whereConditions sql hps 0 ls' _ hls
    ⟨starts_order (.inl rfl) keys, starts_order (.inr rfl) keys⟩
  rw [← List.append_nil (orderTokens keys)] at hls
  obtain ⟨order, rest, horder, hrest, hread⟩ :=
    takes_orderKeys hkeys ls'' [] hls ⟨rfl, rfl⟩
  obtain rfl := List.map_eq_nil_iff.mp hrest
  refine ⟨outputs, conditions, order, ?_, hP, hconditions, hread⟩
  simp only [query, word_word h₁ rfl, houtput, atWord_word h₂ rfl, List.drop_succ_cons,
    List.drop_zero, if_true, name_bare h₃ htable, hwhere, horder, bind, Except.bind, pure,
    Except.pure]

theorem command_query {l : Lexeme} {ls : List Lexeme} {q : Query}
    (hl : l.token = .word "select") (hquery : query (l :: ls) = .ok (q, [])) :
    command (l :: ls) = .ok (.select q [], []) := by
  have hk : lower "select" = "select" := rfl
  have hstop : atWord "union" [] = false := rfl
  simp only [command, keyword_word hl, hk, selection, List.length_cons, queriesOf, hquery, hstop,
    Bool.false_eq_true, if_false, bind, Except.bind, pure, Except.pure]

theorem takes_outputs {columns : List String} (hne : columns ≠ [])
    (hcolumns : ∀ name ∈ columns, t.Has name) :
    Takes (list output) (nameTokens columns) (List.Forall₂ (IsShown t) columns)
      fun us => (startsSign "(" us = false ∧ startsWord "as" us = false) ∧
        startsSign "," us = false :=
  takes_list (fun _ => ⟨rfl, rfl⟩) hne (fun _ _ => List.cons_ne_nil _ _)
    fun name hname => takes_output (hcolumns name hname)

theorem takes_count :
    Takes (list output) [.word "count", .sign "(", .sign "*", .sign ")"] (· = [.count])
      fun us => startsSign "," us = false := by
  intro ls us hls hus
  obtain ⟨l₁, ls, rfl, h₁, hls⟩ := List.map_eq_cons_iff.mp hls
  obtain ⟨l₂, ls, rfl, h₂, hls⟩ := List.map_eq_cons_iff.mp hls
  obtain ⟨l₃, ls, rfl, h₃, hls⟩ := List.map_eq_cons_iff.mp hls
  obtain ⟨l₄, ls, rfl, h₄, hls⟩ := List.map_eq_cons_iff.mp hls
  have hstar : atSign "*" (l₁ :: l₂ :: l₃ :: l₄ :: ls) = false := by simp [atSign, h₁]
  have hk : lower "count" = "count" := rfl
  have hopen : atSign "(" (l₂ :: l₃ :: l₄ :: ls) = true := by simp [atSign, h₂]
  have hstop : atSign "," ls = false := by rw [atSign_eq, hls, ← hus]; rfl
  refine ⟨[.count], ls, ?_, hls, rfl⟩
  simp only [list, listOf, output, hstar, isCount, keyword_word h₁, hk, hopen, inParentheses,
    sign_sign h₂, sign_sign h₃, sign_sign h₄, hstop, decide_true, Bool.and_self,
    Bool.false_eq_true, if_true, if_false, bind, Except.bind, pure, Except.pure,
    List.drop_succ_cons, List.drop_zero, List.length_cons]

theorem takes_assignment {name : String} (hname : t.Has name) (k : Nat) :
    Takes assignment (assignmentTokens k name) (fun a => t.Has name ∧ a = (name, .parameter k))
      Anything := by
  rintro ls us hls -
  obtain ⟨l₁, ls, rfl, h₁, hls⟩ := List.map_eq_cons_iff.mp hls
  obtain ⟨l₂, ls, rfl, h₂, hls⟩ := List.map_eq_cons_iff.mp hls
  obtain ⟨l₃, ls, rfl, h₃, hls⟩ := List.map_eq_cons_iff.mp hls
  refine ⟨_, ls, ?_, hls, hname, rfl⟩
  simp only [assignment, name_bare h₁ hname.1, sign_sign h₂, term_parameter h₃, bind, Except.bind,
    pure, Except.pure]

theorem takes_assignments {columns : List String} (hne : columns ≠ [])
    (hcolumns : ∀ name ∈ columns, t.Has name) :
    Takes (list assignment) (separated (spread 1 assignmentTokens 0 columns))
      (List.Forall₂ (fun p a => t.Has p.2 ∧ a = (p.2, Term.parameter p.1))
        (spread 1 Prod.mk 0 columns))
      fun us => startsSign "," us = false := by
  have hnumbered : spread 1 Prod.mk 0 columns ≠ [] := by
    cases columns with
    | nil => exact absurd rfl hne
    | cons name columns => exact List.cons_ne_nil _ _
  have hnames : (spread 1 Prod.mk 0 columns).map Prod.snd = columns := by
    rw [map_spread, spread_plain 1 (fun name => name), List.map_id']
  have hlist := takes_list (fun _ => trivial) hnumbered (fun _ _ => List.cons_ne_nil _ _)
    fun p hp => takes_assignment (hcolumns p.2 (hnames ▸ List.mem_map_of_mem hp)) p.1
  rw [map_spread] at hlist
  exact fun ls us hls hus => hlist ls us hls ⟨trivial, hus⟩

section lookups

variable {sql : String} {columns : List String} {outputs : List Output}

theorem named?_of_shown (h : List.Forall₂ (IsShown t) columns outputs) (name : String) :
    Plan.named? outputs name = none := by
  induction h with
  | nil => rfl
  | cons ho _ ih =>
    obtain ⟨-, offset, rfl⟩ := ho
    exact ih

theorem shown_looked_up (h : List.Forall₂ (IsShown t) columns outputs) :
    outputs.mapM (Plan.output sql (some t)) =
      .ok (columns.map fun name => [.operand (t.operand name)]) := by
  apply mapM_of_forall₂ (g := fun name => [Shown.operand (t.operand name)])
  refine h.imp fun name o ho => ?_
  obtain ⟨hname, offset, rfl⟩ := ho
  rw [Plan.output, hname.operand]
  rfl

theorem keys_looked_up (h : List.Forall₂ (IsShown t) columns outputs) {keys : List SortKey}
    {order : List (OrderKey Term)} (horder : List.Forall₂ (IsKey t) keys order) :
    order.mapM (Plan.orderKey sql (some t) outputs) =
      .ok (keys.map fun key => ⟨t.operand key.column, key.ascending⟩) := by
  apply mapM_of_forall₂ (g := fun key : SortKey =>
    (⟨t.operand key.column, key.ascending⟩ : OrderKey Operand))
  refine horder.imp fun key k hk => ?_
  obtain ⟨hkey, offset, rfl⟩ := hk
  simp only [Plan.orderKey, named?_of_shown h, Option.getD_none, hkey.operand]
  rfl

end lookups

end Grammar

namespace Fits

variable {c : Catalog} {name : String} {t : Table} {clauses : List Clause}
  (h : Fits c name t clauses)
include h

theorem table : c.table name = .ok t := by simp only [Catalog.table, h.found]

theorem bares : ∀ clause ∈ clauses, ∀ column ∈ clause.columns, isBareName column = true :=
  fun clause hc column hcolumn => (h.has clause hc column hcolumn).1

theorem ofCommand_select {sql : String} {q : Query} {shown : List (List Shown)}
    {conditions : List (Condition Operand)} {order : List (OrderKey Operand)}
    (htable : q.table = some name)
    (hshown : q.outputs.mapM (Plan.output sql (some t)) = .ok shown)
    (hconditions : Plan.conditions sql (some t) q.conditions = .ok conditions)
    (horder : q.order.mapM (Plan.orderKey sql (some t) q.outputs) = .ok order) :
    Plan.ofCommand sql c (.select q []) =
      .ok (.select [⟨shown.flatten, some t, conditions, order⟩]) := by
  have hselection : Plan.selection sql c q = .ok ⟨shown.flatten, some t, conditions, order⟩ := by
    have hfound : (some <$> c.table name) = .ok (some t) := by
      rw [h.table]
      rfl
    simp only [Plan.selection, htable, hfound, hshown, hconditions, horder, bind, Except.bind, pure,
      Except.pure]
  simp only [Plan.ofCommand, List.mapM_cons, List.mapM_nil, hselection, bind, Except.bind, pure,
    Except.pure, List.all_nil, if_true]

theorem ofCommand_update {sql : String} {columns : List String} {read : List (String × Term)}
    {cs : List (Condition Term)} {conditions : List (Condition Operand)}
    (hread : List.Forall₂ (fun p a => t.Has p.2 ∧ a = (p.2, Term.parameter p.1))
      (spread 1 Prod.mk 0 columns) read)
    (hconditions : Plan.conditions sql (some t) cs = .ok conditions) :
    Plan.ofCommand sql c (.update name read cs) =
      .ok (.update t (Plan.assigned t columns) conditions) := by
  have hassigned : ∀ f : String × Term → Except Fault (Nat × Operand),
      (∀ column k, t.Has column →
        f (column, .parameter k) = .ok ((t.position? column).getD 0, .parameter k)) →
      read.mapM f = .ok (Plan.assigned t columns) := by
    intro f hf
    have hlooked := Grammar.mapM_of_forall₂ (f := f)
      (g := fun p : Nat × String => ((t.position? p.2).getD 0, Operand.parameter p.1))
      (hread.imp fun p a ha => ha.2 ▸ hf p.2 p.1 ha.1)
    rwa [map_spread] at hlooked
  simp only [Plan.ofCommand, Plan.change, h.table, hconditions, bind, Except.bind]
  rw [hassigned]
  · rfl
  · intro column k hcolumn
    cases hposition : t.position? column with
    | none => exact absurd hposition hcolumn.2
    | some i => rfl

open Grammar

theorem plans_delete :
    Plans c (deleteTokens name clauses) (.delete t (Plan.choice t clauses 0)) := by
  intro sql ls hls
  obtain ⟨l₁, ls, rfl, h₁, hls⟩ := List.map_eq_cons_iff.mp hls
  obtain ⟨l₂, ls, rfl, h₂, hls⟩ := List.map_eq_cons_iff.mp hls
  obtain ⟨l₃, ls, rfl, h₃, hls⟩ := List.map_eq_cons_iff.mp hls
  rw [← List.append_nil (choiceTokens 0 clauses)] at hls
  obtain ⟨read, rest, hread, hrest, hlooked⟩ :=
    takes_whereConditions sql (Clause.forall_predicate h.has) 0 ls [] hls ⟨rfl, rfl⟩
  obtain rfl := List.map_eq_nil_iff.mp hrest
  refine ⟨.delete name read, ?_, ?_⟩
  · have hk : lower "delete" = "delete" := rfl
    simp only [command, keyword_word h₁, hk, deletion, word_word h₂ rfl, name_bare h₃ h.bare, hread,
      bind, Except.bind, pure, Except.pure]
  · simp only [Plan.ofCommand, h.table, hlooked, bind, Except.bind, pure, Except.pure]
    rfl

theorem plans_count : Plans c (countTokens name clauses) (.select [Plan.counted t clauses]) := by
  intro sql ls hls
  have hkeys : ∀ key ∈ ([] : List SortKey), t.Has key.column := by simp
  have hsplit : ls.map Lexeme.token = .word "select" ::
      ([.word "count", .sign "(", .sign "*", .sign ")"] ++ .word "from" :: .word name ::
        (choiceTokens 0 clauses ++ orderTokens [])) := by
    rw [hls]
    simp [countTokens, orderTokens]
  obtain ⟨outputs, conditions, order, hquery, rfl, hconditions, horder⟩ :=
    reads_query sql takes_count (fun _ => rfl) h.bare (Clause.forall_predicate h.has) hkeys hsplit
  cases horder
  obtain ⟨l, ls, rfl, hl, -⟩ := List.map_eq_cons_iff.mp hls
  have hshown : [Output.count].mapM (Plan.output sql (some t)) = .ok [[.count]] := rfl
  have horder : [].mapM (Plan.orderKey sql (some t) [.count]) = .ok [] := rfl
  refine ⟨_, command_query hl hquery, ?_⟩
  rw [h.ofCommand_select rfl hshown hconditions horder]
  rfl

theorem plans_select {columns : List String} (hne : columns ≠ [])
    (hcolumns : ∀ name ∈ columns, t.Has name) :
    Plans c (selectTokens columns name clauses) (.select [Plan.selected t columns clauses]) := by
  intro sql ls hls
  obtain ⟨outputs, conditions, order, hquery, hread, hconditions, horder⟩ :=
    reads_query sql (takes_outputs hne hcolumns) (fun _ => ⟨⟨rfl, rfl⟩, rfl⟩) h.bare
      (Clause.forall_predicate h.has) (Clause.forall_key h.has) hls
  obtain ⟨l, ls, rfl, hl, -⟩ := List.map_eq_cons_iff.mp hls
  refine ⟨_, command_query hl hquery, ?_⟩
  rw [h.ofCommand_select rfl (shown_looked_up hread) hconditions (keys_looked_up hread horder),
    ← List.flatMap_def, ← List.map_eq_flatMap]
  rfl

theorem plans_update {columns : List String} (hne : columns ≠ [])
    (hcolumns : ∀ name ∈ columns, t.Has name) :
    Plans c (updateTokens name columns clauses)
      (.update t (Plan.assigned t columns) (Plan.choice t clauses columns.length)) := by
  intro sql ls hls
  obtain ⟨l₁, ls, rfl, h₁, hls⟩ := List.map_eq_cons_iff.mp hls
  obtain ⟨l₂, ls, rfl, h₂, hls⟩ := List.map_eq_cons_iff.mp hls
  obtain ⟨l₃, ls, rfl, h₃, hls⟩ := List.map_eq_cons_iff.mp hls
  obtain ⟨read, ls', hread, hls, hset⟩ := takes_assignments hne hcolumns ls _ hls
    (no_comma_starts_choice columns.length (clauses.filterMap Clause.predicate?))
  rw [← List.append_nil (choiceTokens columns.length clauses)] at hls
  obtain ⟨conditions, rest, hwhere, hrest, hlooked⟩ :=
    takes_whereConditions sql (Clause.forall_predicate h.has) columns.length ls' [] hls ⟨rfl, rfl⟩
  obtain rfl := List.map_eq_nil_iff.mp hrest
  refine ⟨.update name read conditions, ?_, ?_⟩
  · have hk : lower "update" = "update" := rfl
    simp only [command, keyword_word h₁, hk, change, name_bare h₂ h.bare, word_word h₃ rfl, hread,
      hwhere, bind, Except.bind, pure, Except.pure]
  · exact h.ofCommand_update hset hlooked

variable {d : Dialect} (hd : Readable d)
include hd

theorem planned_many {columns : List String} (hne : columns ≠ [])
    (hcolumns : ∀ column ∈ columns, t.Has column) :
    Planned c d (.many columns name clauses) (.select [Plan.selected t columns clauses])
      (Clause.bound clauses) :=
  (h.plans_select hne hcolumns).planned
    (reads_select hd h.bare h.bares hne fun column hcolumn => (hcolumns column hcolumn).1)
    (Statement.select_spells name clauses columns)

theorem planned_count :
    Planned c d (.count name clauses) (.select [Plan.counted t clauses]) (Clause.bound clauses) :=
  h.plans_count.planned (reads_count hd h.bare h.bares) (Statement.count_spells name clauses)

theorem planned_delete :
    Planned c d (.delete name clauses) (.delete t (Plan.choice t clauses 0))
      (Clause.bound clauses) :=
  h.plans_delete.planned (reads_delete hd h.bare h.bares) (Statement.delete_spells name clauses)

theorem planned_update {row : Row} (hrow : row.isEmpty = false)
    (hcolumns : ∀ column ∈ row.keys, t.Has column) :
    Planned c d (.update name row clauses)
      (.update t (Plan.assigned t row.keys) (Plan.choice t clauses row.keys.length))
      (row.values ++ Clause.bound clauses) := by
  have hne : row.keys ≠ [] := by
    intro hnil
    rw [Row.isEmpty, List.map_eq_nil_iff.mp hnil] at hrow
    cases hrow
  have hreads := reads_update hd h.bare h.bares hne fun column hcolumn =>
    (hcolumns column hcolumn).1
  have hlength : row.keys.length + (Clause.bound clauses).length =
      (row.values ++ Clause.bound clauses).length := by
    rw [List.length_append, Row.values, Row.keys, List.length_map, List.length_map]
  rw [hlength] at hreads
  exact (h.plans_update hne hcolumns).planned hreads (Statement.update_spells name row clauses hrow)

end Fits

end UnitOfWork.Sqlite
