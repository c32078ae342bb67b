import UnitOfWork.Proofs.Row.Columns
import UnitOfWork.Proofs.Scene.Passage
import UnitOfWork.Proofs.Sqlite.Handles
import UnitOfWork.Proofs.Sqlite.Runs

namespace UnitOfWork

theorem length_readThrough {names : List String} {taken : Nat} {steps : List Found}
    {rows : List Row} (h : readThrough names none taken steps = .ok rows) :
    rows.length = steps.length := by
  rw [readThrough_none] at h
  exact length_of_mapM h

namespace Sqlite

theorem read_number (key : String) (n : Int64) :
    ∃ r, readThrough [key] (some 1) 0 [.ok (sourceOf [.integer n])] = .ok [r] ∧
      r.int64? key = some n := by
  refine ⟨Row.empty.put key (.int n), rfl, ?_⟩
  rw [Row.int64?, Row.Indexed.empty.get?_put, if_pos rfl]
  rfl

theorem execute_of_affected {x : Client} {i n : Nat} {st : Statement}
    (h : ((x.run i .affected st).1.mapError (Failure.statement st.sql)).bind
      (fun k : Nat => .ok (Answer.affected k)) = .ok (Answer.affected n)) :
    x.engine.execute i st.sql (st.args.map Cell.ofParameter) =
      (.ok n, (x.run i .affected st).2.engine) := by
  simp only [Client.run] at h ⊢
  generalize x.engine.execute i st.sql (st.args.map Cell.ofParameter) = r at h ⊢
  obtain ⟨o, e⟩ := r
  cases o with
  | error f => cases h
  | ok k =>
    cases h
    rfl

def sight (w : World Client Nat) (t : Session Nat) : Catalog :=
  match t.transaction with
  | some i => w.databases.engine.catalog i
  | none => .empty

structure Asks (w : World Client Nat) (t : Session Nat) (i : Nat) : Prop where
  transaction : t.transaction = some i
  connected : i < w.databases.engine.connections.length
  sound : w.timeline.Sound
  allowed : w.timeline.check t.token t.deadline = .ok ()

namespace Asks

variable {w w' : World Client Nat} {t : Session Nat} {i : Nat}

theorem sight (h : Asks w t i) : sight w t = w.databases.engine.catalog i := by
  simp only [Sqlite.sight, h.transaction]

theorem ask (h : Asks w t i) {q : Request} {st : Statement} (hst : q.statement t.dialect = .ok st) :
    (w.ask Client.driver t q).1 =
        ((w.databases.run i q.call st).1.mapError (.statement st.sql)).bind (q.answer st.sql) ∧
      (w.ask Client.driver t q).2.databases = (w.databases.run i q.call st).2 ∧
      (w.ask Client.driver t q).2.timeline = w.timeline := by
  have hguarded := h.sound.guarded_at_once h.allowed
  obtain ⟨hanswer, -, hd, hl⟩ := World.ask_allowed Client.driver w t q hst h.transaction
    (congrArg Prod.fst hguarded)
  exact ⟨hanswer, hd, hl.trans (congrArg Prod.snd hguarded)⟩

theorem again (h : Asks w t i) {q : Request} {st : Statement}
    (hst : q.statement t.dialect = .ok st) : Asks (w.ask Client.driver t q).2 t i := by
  obtain ⟨-, hd, hl⟩ := h.ask hst
  have hsize := (w.databases.beside_run i q.call st).1.size
  refine ⟨h.transaction, ?_, hl ▸ h.sound, hl ▸ h.allowed⟩
  rw [hd, hsize]
  exact h.connected

theorem of_answer {s : Scene Client Nat} (hs : Scene.Rooted s) (hlinked : Linked s.world) {n : Nat}
    (ht : s.world.session? n = some t) {q : Request} {a : Answer}
    (h : (s.world.ask Client.driver t q).1 = .ok a) : ∃ i, Asks s.world t i := by
  cases World.ask_case Client.driver s.world t q with
  | unstated e hst hr =>
    rw [hr] at h
    cases h
  | ended st hst hx hr =>
    rw [hr] at h
    cases h
  | refused st x e hst hx hg hr =>
    rw [hr] at h
    cases h
  | allowed st x hst hx hg =>
    have hi := hlinked.linked n t x ht hx
    rw [← hlinked.counted.size] at hi
    refine ⟨x, hx, hi, hs.sound, ?_⟩
    cases hc : s.world.timeline.check t.token t.deadline with
    | ok _ => rfl
    | error e =>
      rw [Timeline.guarded, hc] at hg
      cases hg

variable {name : String} {tab : Table} {clauses : List Clause}

theorem fetch (h : Asks w t i) {q : Request} {selections : List Selection} {vs : List Value}
    (hplanned : Planned (Sqlite.sight w t) t.dialect q (.select selections) vs)
    (hreads : (Plan.select selections).reads = true) (names : List String)
    (limit : Option Nat) :
    ∃ st, q.statement t.dialect = .ok st ∧
      (w.databases.engine.fetch i st.sql (st.args.map Cell.ofParameter) names limit).1 =
        if w.databases.engine.isBarred i then .error (.sqlite .locked)
        else readThrough names limit 0
          ((selections.flatMap (·.run (bound vs))).map fun cells => .ok (sourceOf cells)) := by
  obtain ⟨st, hst, rfl, hprepared⟩ := hplanned.prepared
  have hlength : (st.args.map Cell.ofParameter).length = st.args.length := List.length_map _
  rw [h.sight, ← hlength] at hprepared
  exact ⟨st, hst, Engine.fetch_select h.connected hprepared hreads names limit⟩

theorem many_answered (h : Asks w t i) (hd : Readable t.dialect)
    (hfits : Fits (Sqlite.sight w t) name tab clauses) {columns : List String} (hne : columns ≠ [])
    (hcolumns : ∀ column ∈ columns, tab.Has column) {rows : List Row}
    (hanswer : (w.ask Client.driver t (.many columns name clauses)).1 = .ok (.rows rows)) :
    w.databases.engine.isBarred i = false ∧
      ∃ found : List (List Cell), found.Perm (tab.rows.filter (tab.chosen clauses)) ∧
        readThrough columns none 0 (found.map fun row => .ok (sourceOf (tab.shown columns row))) =
          .ok rows := by
  obtain ⟨st, hst, hfetch⟩ := h.fetch (hfits.planned_many hd hne hcolumns) rfl columns none
  obtain ⟨found, hperm, hrun⟩ := Selection.run_selected tab columns clauses
  have hask : (w.ask Client.driver t (.many columns name clauses)).1 =
      ((w.databases.engine.fetch i st.sql (st.args.map Cell.ofParameter) columns none).1.mapError
        (.statement st.sql)).bind fun rows => .ok (.rows rows) := (h.ask hst).1
  rw [hask, hfetch] at hanswer
  cases hbarred : w.databases.engine.isBarred i with
  | true =>
    rw [hbarred] at hanswer
    cases hanswer
  | false =>
    rw [hbarred, if_neg Bool.false_ne_true, List.flatMap_singleton, hrun, List.map_map] at hanswer
    refine ⟨rfl, found, hperm, ?_⟩
    cases hread : readThrough columns none 0
        (found.map fun row => .ok (sourceOf (tab.shown columns row))) with
    | error e =>
      rw [Function.comp_def, hread] at hanswer
      cases hanswer
    | ok rows' =>
      rw [Function.comp_def, hread] at hanswer
      cases hanswer
      rfl

theorem count_answered (h : Asks w t i) (hd : Readable t.dialect)
    (hfits : Fits (Sqlite.sight w t) name tab clauses)
    (hfree : w.databases.engine.isBarred i = false) :
    (w.ask Client.driver t (.count name clauses)).1 =
      .ok (.count (Int64.ofNat (tab.rows.countP (tab.chosen clauses)))) := by
  obtain ⟨st, hst, hfetch⟩ := h.fetch (hfits.planned_count hd) rfl [Request.countColumn] (some 1)
  obtain ⟨r, hread, hnumber⟩ := read_number Request.countColumn
    (Int64.ofNat (tab.rows.countP (tab.chosen clauses)))
  rw [hfree, if_neg Bool.false_ne_true, List.flatMap_singleton, Selection.run_counted,
    List.map_singleton, hread] at hfetch
  have hask : (w.ask Client.driver t (.count name clauses)).1 =
      (((w.databases.engine.fetch i st.sql (st.args.map Cell.ofParameter) [Request.countColumn]
        (some 1)).1.map List.head?).mapError (.statement st.sql)).bind
          (Request.answer st.sql (.count name clauses)) := (h.ask hst).1
  rw [hask, hfetch]
  have hfound : (some r >>= fun r => r.int64? Request.countColumn) =
      some (Int64.ofNat (tab.rows.countP (tab.chosen clauses))) := hnumber
  change Request.answer st.sql (.count name clauses) (some r) = _
  simp only [Request.answer, hfound]

theorem executed (h : Asks w t i) {q : Request} (hq : q.call = .affected) {st : Statement}
    (hst : q.statement t.dialect = .ok st) {n : Nat}
    (hanswer : w.ask Client.driver t q = (.ok (.affected n), w')) :
    w.databases.engine.execute i st.sql (st.args.map Cell.ofParameter) =
      (.ok n, w'.databases.engine) := by
  obtain ⟨hr, hdatabases, -⟩ := h.ask hst
  rw [hanswer] at hr hdatabases
  cases q with
  | one | many | count => cases hq
  | insert | update | delete | exec =>
    rw [hdatabases]
    exact execute_of_affected hr.symm

theorem change_answered (h : Asks w t i) {q : Request} (hq : q.call = .affected) {p : Plan}
    {vs : List Value} (hplanned : Planned (Sqlite.sight w t) t.dialect q p vs)
    (hp : p.counts = true) (hsight : Sqlite.sight w t ≠ .empty) {n : Nat}
    (hanswer : w.ask Client.driver t q = (.ok (.affected n), w')) :
    Asks w' t i ∧ p.run (Sqlite.sight w t) (bound vs) = .ok (.changed n, Sqlite.sight w' t) ∧
      (w.databases.engine.isBarred i = false → w'.databases.engine.isBarred i = false) := by
  obtain ⟨st, hst, rfl, hprepared⟩ := hplanned.prepared
  have hagain := h.again hst
  rw [hanswer] at hagain
  have hlength : (st.args.map Cell.ofParameter).length = st.args.length := List.length_map _
  rw [h.sight, ← hlength] at hprepared
  rw [h.sight] at hsight
  obtain ⟨c, hrun, hchanged⟩ := Engine.execute_change h.connected hsight hp hprepared
    (h.executed hq hst hanswer)
  rw [h.sight, hagain.sight, hchanged.catalog]
  exact ⟨hagain, hrun, hchanged.free⟩

end Asks

/-- What a session answers to requests for the rows of a table that clauses choose, `rows` being its
answer to one for some columns of them. -/
structure Agrees (w : World Client Nat) (t : Session Nat) (name : String) (tab : Table)
    (columns : List String) (clauses : List Clause) (values : Row) (rows : List Row) : Prop where
  found : ∃ found : List (List Cell), found.Perm (tab.rows.filter (tab.chosen clauses)) ∧
    readThrough columns none 0 (found.map fun row => .ok (sourceOf (tab.shown columns row))) =
      .ok rows
  counted : (w.ask Client.driver t (.count name clauses)).1 =
    .ok (.count (Int64.ofNat rows.length))
  deleted : ∀ n w', w.ask Client.driver t (.delete name clauses) = (.ok (.affected n), w') →
    n = rows.length ∧
    (sight w t).Alters (sight w' t) name
      { tab with rows := tab.rows.filter fun row => !tab.chosen clauses row } ∧
    (w'.ask Client.driver t (.count name clauses)).1 = .ok (.count 0)
  updated : ∀ n w', w.ask Client.driver t (.update name values clauses) = (.ok (.affected n), w') →
    n = rows.length ∧
    ∃ rows', (sight w t).Alters (sight w' t) name { tab with rows := rows' } ∧
      Table.Keeps (tab.chosen clauses) tab.rows rows'

variable {w : World Client Nat} {t : Session Nat} {i : Nat} {name : String} {tab : Table}
  {clauses : List Clause}

theorem Fits.altered {c c' : Catalog} (h : Fits c name tab clauses) {rows : List (List Cell)}
    (halters : c.Alters c' name { tab with rows := rows }) :
    Fits c' name { tab with rows := rows } clauses :=
  ⟨h.bare, halters.found, h.has⟩

theorem Fits.ne_empty {c : Catalog} (h : Fits c name tab clauses) : c ≠ .empty := by
  rintro rfl
  have hfound := h.found
  cases hfound

theorem Asks.agrees (h : Asks w t i) (hd : Readable t.dialect)
    (hfits : Fits (Sqlite.sight w t) name tab clauses) {columns : List String} (hne : columns ≠ [])
    (hcolumns : ∀ column ∈ columns, tab.Has column) {values : Row}
    (hvalues : values.isEmpty = false) (hset : ∀ column ∈ values.keys, tab.Has column)
    {rows : List Row}
    (hanswer : (w.ask Client.driver t (.many columns name clauses)).1 = .ok (.rows rows)) :
    Agrees w t name tab columns clauses values rows := by
  obtain ⟨hfree, found, hperm, hread⟩ := h.many_answered hd hfits hne hcolumns hanswer
  have hlength : tab.rows.countP (tab.chosen clauses) = rows.length := by
    rw [length_readThrough hread, List.length_map, hperm.length_eq, List.countP_eq_length_filter]
  constructor
  · exact ⟨found, hperm, hread⟩
  · rw [h.count_answered hd hfits hfree, hlength]
  · intro n w' hdeleted
    obtain ⟨hagain, hrun, hfree'⟩ := h.change_answered rfl (hfits.planned_delete hd) rfl
      hfits.ne_empty hdeleted
    obtain ⟨c, hrun', halters⟩ := Plan.run_delete hfits.found (chosen_first tab clauses)
    rw [hrun'] at hrun
    cases hrun
    have hnone : (tab.rows.filter fun row => !tab.chosen clauses row).countP
        (tab.chosen clauses) = 0 := by
      rw [List.countP_eq_zero]
      intro row hrow hchosen
      have hnot := (List.mem_filter.mp hrow).2
      rw [hchosen] at hnot
      cases hnot
    refine ⟨hlength, halters, ?_⟩
    rw [hagain.count_answered hd (hfits.altered halters) (hfree' hfree)]
    exact congrArg (fun n => Except.ok (Answer.count (Int64.ofNat n))) hnone
  · intro n w' hupdated
    obtain ⟨hagain, hrun, -⟩ := h.change_answered rfl (hfits.planned_update hd hvalues hset) rfl
      hfits.ne_empty hupdated
    have hchosen := chosen_behind tab clauses values.values
    rw [Row.values, List.length_map, ← List.length_map (f := Prod.fst)] at hchosen
    obtain ⟨hn, rows', halters, hkeeps⟩ := Plan.run_update hfits.found hchosen hrun
    cases hn
    exact ⟨hlength, rows', halters, hkeeps⟩

def Client.openedOn (o : Options) (stores : List Store) : Client :=
  let x := (Client.ofOptions o).2
  { x with engine := { x.engine with stores := stores } }

theorem Client.counted_openedOn (o : Options) (stores : List Store) :
    (openedOn o stores).Counted := by
  have h := counted_opened o.path o.effectivePoolSize o.writeAhead
  exact ⟨h.size, h.waiting⟩

/-- In every session, and whatever is in the tables: the rows that are found for a list of clauses
are those that are counted, those that are deleted and those that are updated, as far as these
requests are answered; and a count always is where rows have been found. -/
theorem requests_agree (o : Options) (stores : List Store) (depots : List Depot)
    (ops : List (Operation Empty)) {w : World Client Nat}
    (hw : w = (Scene.run Client.driver Empty.elim (.initial (Client.openedOn o stores) depots)
      ops).world)
    {n : Nat} {t : Session Nat} (ht : w.session? n = some t) (hd : Readable t.dialect)
    {name : String} {tab : Table} {clauses : List Clause}
    (hfits : Fits (sight w t) name tab clauses) {columns : List String} (hne : columns ≠ [])
    (hcolumns : ∀ column ∈ columns, tab.Has column) {values : Row}
    (hvalues : values.isEmpty = false) (hset : ∀ column ∈ values.keys, tab.Has column)
    {rows : List Row}
    (hanswer : (w.ask Client.driver t (.many columns name clauses)).1 = .ok (.rows rows)) :
    Agrees w t name tab columns clauses values rows := by
  subst hw
  have hrooted := Scene.rooted_run Client.driver Empty.elim (Client.openedOn o stores) depots ops
  have hlinked := linked_run (Client.counted_openedOn o stores) depots ops
  obtain ⟨i, hasks⟩ := Asks.of_answer hrooted hlinked ht hanswer
  exact hasks.agrees hd hfits hne hcolumns hvalues hset hanswer

def answeredRows : Except Failure Answer → Option Nat
  | .ok (.rows rows) => some rows.length
  | _ => none

theorem rows_of_answeredRows {r : Except Failure Answer} {n : Nat} (h : answeredRows r = some n) :
    ∃ rows, r = .ok (.rows rows) ∧ rows.length = n := by
  unfold answeredRows at h
  split at h
  · rename_i rows
    cases h
    exact ⟨rows, rfl, rfl⟩
  · cases h

theorem requests_agree_people :
    let people : Table := ⟨"people", [⟨"id", .integer, true⟩, ⟨"name", .text, false⟩], .integer 0,
      [[.integer 1, .ofText "Ann"], [.integer 2, .null], [.integer 3, .ofText "Bob"]]⟩
    let clauses : List Clause :=
      [.sort ⟨"name", false⟩ [], .filter (.among "id" [.int 1, .int 2]),
        .filter (.compare "id" .gt (.int 0)), .filter (.null "name" true)]
    let s : Scene Client Nat := Scene.run Client.driver Empty.elim
      (.initial (Client.openedOn (.ofPath "people.db") [⟨⟨[people]⟩, 0, true⟩]) [⟨.default, false⟩])
      [.begin 0 0]
    ∃ t rows, s.world.session? 0 = some t ∧ rows.length = 1 ∧
      Agrees s.world t "people" people ["name"] clauses (.ofList [("name", .text "Cas")]) rows := by
  intro people clauses s
  let t : Session Nat := ⟨.sqlite, .default, false, 0, none, 1, none, .active, some 0⟩
  have ht : s.world.session? 0 = some t := rfl
  have hid : people.Has "id" := ⟨by decide +kernel, by decide +kernel⟩
  have hname : people.Has "name" := ⟨by decide +kernel, by decide +kernel⟩
  have hfits : Fits (sight s.world t) "people" people clauses := by
    refine ⟨by decide +kernel, by decide +kernel, ?_⟩
    have hcolumns : ∀ clause ∈ clauses, ∀ column ∈ clause.columns,
        column = "id" ∨ column = "name" := by decide +kernel
    intro clause hclause column hcolumn
    obtain rfl | rfl := hcolumns clause hclause column hcolumn
    · exact hid
    · exact hname
  have hset : ∀ column ∈ (Row.ofList [("name", .text "Cas")]).keys, people.Has column := by
    have hkeys : (Row.ofList [("name", .text "Cas")]).keys = ["name"] := by decide +kernel
    rw [hkeys]
    simpa using hname
  have hrows : answeredRows (s.world.ask Client.driver t (.many ["name"] "people" clauses)).1 =
      some 1 := by
    decide +kernel
  obtain ⟨rows, hanswer, hlength⟩ := rows_of_answeredRows hrows
  exact ⟨t, rows, ht, hlength, requests_agree (.ofPath "people.db") [⟨⟨[people]⟩, 0, true⟩]
    [⟨.default, false⟩] [.begin 0 0] rfl ht readable_default hfits (by simp) (by simpa using hname)
    (by decide +kernel) hset hanswer⟩

end Sqlite

end UnitOfWork
