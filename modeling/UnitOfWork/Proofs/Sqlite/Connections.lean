import UnitOfWork.Proofs.Sqlite.Content

/-!
One connection among others. Main statements: whatever the state of its transaction, a query finds
what the connection sees, unless others keep it from looking; and after a change it sees what the
change has made of that.
-/
namespace UnitOfWork.Sqlite

namespace Plan

theorem writes_of_counts {p : Plan} (hp : p.counts = true) : p.writes = true := by
  cases p with
  | insert | update | delete => rfl
  | create | drop | select | begin | commit | rollback => cases hp

theorem run_counts {p : Plan} (hp : p.counts = true) {c c' : Catalog} {args : List Cell}
    {o : Outcome} (h : p.run c args = .ok (o, c')) : ∃ n, o = .changed n := by
  cases p with
  | insert t values =>
    obtain ⟨new, -, h⟩ := ok_of_bind h
    cases h
    exact ⟨_, rfl⟩
  | update t assignments cs =>
    obtain ⟨new, -, h⟩ := ok_of_bind h
    cases h
    exact ⟨_, rfl⟩
  | delete t cs =>
    cases h
    exact ⟨_, rfl⟩
  | create | drop | select | begin | commit | rollback => cases hp

end Plan

namespace Engine

variable {e e' : Engine} {i : Nat}

def isBarred (e : Engine) (i : Nat) : Bool :=
  !(e.connection i).isViewing && (e.others i).any Connection.isBlocking

structure Beside (e : Engine) (i : Nat) (e' : Engine) : Prop where
  size : e'.connections.length = e.connections.length
  store : (e'.connection i).store = (e.connection i).store
  others : e'.others i = e.others i

namespace Beside

variable {e'' : Engine}

theorem refl (e : Engine) (i : Nat) : e.Beside i e := ⟨rfl, rfl, rfl⟩

theorem trans (h : e.Beside i e') (h' : e'.Beside i e'') : e.Beside i e'' :=
  ⟨h'.size.trans h.size, h'.store.trans h.store, h'.others.trans h.others⟩

theorem of_modify (e : Engine) (i : Nat) (stores : List Store) {f : Connection → Connection}
    (hf : ∀ c, (f c).store = c.store) : e.Beside i ⟨stores, e.connections.modify i f⟩ := by
  have hstore : (Engine.connection ⟨stores, e.connections.modify i f⟩ i).store =
      (e.connection i).store := by
    simp only [connection, List.getElem?_modify]
    cases e.connections[i]? with
    | none => rfl
    | some c => simp [hf]
  constructor
  · exact List.length_modify ..
  · exact hstore
  · rw [Engine.others, hstore, List.eraseIdx_modify_of_eq]
    rfl

theorem setTransaction (e : Engine) (i : Nat) (t : Transaction) :
    e.Beside i (e.setTransaction i t) := of_modify e i e.stores fun _ => rfl

theorem setChanges (e : Engine) (i n : Nat) : e.Beside i (e.setChanges i n) :=
  of_modify e i e.stores fun _ => rfl

theorem ofStores (e : Engine) (i : Nat) (stores : List Store) :
    e.Beside i { e with stores := stores } := ⟨rfl, rfl, rfl⟩

end Beside

section frame

variable (e : Engine) (i : Nat)

theorem beside_begin : e.Beside i (e.begin i).2 := by
  unfold begin
  split
  · exact .setTransaction e i .begun
  · exact .refl e i

theorem beside_commit : e.Beside i (e.commit i).2 := by
  unfold commit
  split
  · exact .refl e i
  · exact .setTransaction e i .idle
  · split
    · exact .setTransaction e i _
    · split
      · exact (Beside.ofStores e i _).trans (.setTransaction _ i .idle)
      · exact .setTransaction e i .idle

theorem beside_rollback : e.Beside i (e.rollback i).2 := by
  unfold rollback
  split
  · exact .refl e i
  · exact .setTransaction e i .idle

theorem beside_refused (p : Plan) : e.Beside i (e.refused i p) := by
  unfold refused
  split
  · exact .setChanges e i 0
  · exact .refl e i

theorem beside_perform (args : List Cell) (p : Plan) : e.Beside i (e.perform i args p).2 := by
  unfold perform
  split
  · split
    · exact beside_refused e i p
    · split
      · exact (Beside.setTransaction e i _).trans (.setChanges _ i 0)
      · exact (Beside.setTransaction e i _).trans (.setChanges _ i _)
      · exact .setTransaction e i _
  · split
    · split
      · exact .refl e i
      · exact .setTransaction e i _
    · exact .refl e i

theorem beside_performAlone (args : List Cell) (p : Plan) :
    e.Beside i (e.performAlone i args p).2 := by
  have hperform := beside_perform e i args p
  unfold performAlone
  split
  · generalize e.perform i args p = r at hperform
    obtain ⟨o, after⟩ := r
    cases o with
    | error f => exact hperform.trans (.setTransaction after i .idle)
    | ok o =>
      have hcommit := hperform.trans (beside_commit after i)
      dsimp only
      generalize after.commit i = r' at hcommit
      split
      · exact (hcommit.trans (.setTransaction _ i .idle)).trans (beside_refused _ i p)
      · exact hcommit.trans (.setTransaction _ i .idle)
  · exact hperform

theorem beside_step (args : List Cell) (p : Plan) : e.Beside i (e.step i args p).2 := by
  cases p with
  | begin => exact beside_begin e i
  | commit => exact beside_commit e i
  | rollback => exact beside_rollback e i
  | create | drop | select | insert | update | delete => exact beside_performAlone e i args _

theorem beside_execute (sql : String) (args : List Cell) :
    e.Beside i (e.execute i sql args).2 := by
  unfold execute
  split
  · exact .refl e i
  · rename_i p hp
    have hstep := beside_step e i args p
    generalize e.step i args p = r at hstep
    split <;> exact hstep

theorem beside_query (sql : String) (args : List Cell) : e.Beside i (e.query i sql args).2 := by
  unfold query
  split
  · exact .refl e i
  · rename_i p hp
    have hstep := beside_step e i args p
    generalize e.step i args p = r at hstep
    split <;> exact hstep

theorem beside_fetch (sql : String) (args : List Cell) (names : List String)
    (limit : Option Nat) : e.Beside i (e.fetch i sql args names limit).2 := by
  have hquery := beside_query e i sql args
  unfold fetch
  generalize e.query i sql args = r at hquery
  split <;> exact hquery

end frame

theorem connection_modify (hi : i < e.connections.length) (stores : List Store)
    (f : Connection → Connection) :
    Engine.connection ⟨stores, e.connections.modify i f⟩ i = f (e.connection i) := by
  simp [connection, hi]

theorem connection_setTransaction (hi : i < e.connections.length) (t : Transaction) :
    (e.setTransaction i t).connection i = { e.connection i with transaction := t } :=
  connection_modify hi _ _

theorem connection_setChanges (hi : i < e.connections.length) (n : Nat) :
    (e.setChanges i n).connection i = { e.connection i with changes := n } :=
  connection_modify hi _ _

theorem view_catalog (e : Engine) (i : Nat) : (e.view i).catalog = e.catalog i := by
  unfold view catalog
  split <;> rfl

theorem perform_query {p : Plan} (hp : p.isQuery = true) (hreads : p.reads = true)
    (args : List Cell) :
    e.perform i args p = if e.isBarred i then (.error .locked, e)
      else ((p.run (e.catalog i) args).map Prod.fst, e.setTransaction i (.viewing (e.view i))) := by
  have hwrites : p.writes = false := by
    cases p with
    | select => rfl
    | _ => cases hp
  rw [perform, if_neg (by simp [hwrites]), if_pos hreads, view_catalog]
  rfl

theorem commit_unchanged {v : View} (hv : (e.connection i).transaction = .viewing v)
    (hwriting : v.writing = false) (hchanged : v.changed = false) :
    e.commit i = (.ok (), e.setTransaction i .idle) := by
  simp only [commit, hv, hwriting, hchanged, Bool.false_and, Bool.false_eq_true, if_false]

theorem view_of_idle (hidle : (e.connection i).transaction = .idle) :
    e.view i = ⟨(e.storeOf i).catalog, (e.storeOf i).version, false, false, false⟩ := by
  simp only [view, hidle]

theorem step_query (hi : i < e.connections.length) {p : Plan} (hp : p.isQuery = true)
    (hreads : p.reads = true) (args : List Cell) :
    (e.step i args p).1 = if e.isBarred i then .error .locked
      else (p.run (e.catalog i) args).map Prod.fst := by
  have hstep : e.step i args p = e.performAlone i args p := by
    cases p with
    | select => rfl
    | _ => cases hp
  rw [hstep, performAlone]
  split
  · rename_i hidle
    rw [perform_query hp hreads]
    cases hbarred : e.isBarred i with
    | true => rfl
    | false =>
      have hviewing := connection_setTransaction hi (.viewing (e.view i))
      have hcommit := commit_unchanged (congrArg Connection.transaction hviewing)
        (congrArg View.writing (view_of_idle hidle)) (congrArg View.changed (view_of_idle hidle))
      simp only [Bool.false_eq_true, if_false]
      cases hrun : p.run (e.catalog i) args with
      | error f => rfl
      | ok r =>
        simp only [Except.map, hcommit]
  · rw [perform_query hp hreads]
    split <;> rfl

theorem claim_ok {v : View} (h : e.claim i = .ok v) : v = { e.view i with writing := true } := by
  unfold claim at h
  extract_lets v' at h
  split at h
  · cases h
  · split at h
    · cases h
    · cases h
      rfl

def changedView (e : Engine) (i n : Nat) (c : Catalog) : View :=
  { e.view i with writing := true, catalog := c, changed := (e.view i).changed || n != 0 }

def changed (e : Engine) (i n : Nat) (c : Catalog) : Engine :=
  (e.setTransaction i (.viewing (e.changedView i n c))).setChanges i n

theorem perform_change {p : Plan} (hp : p.counts = true) {args : List Cell} {o : Outcome}
    (h : e.perform i args p = (.ok o, e')) :
    ∃ n c, o = .changed n ∧ p.run (e.catalog i) args = .ok (.changed n, c) ∧
      e' = e.changed i n c := by
  rw [perform, if_pos (Plan.writes_of_counts hp)] at h
  split at h
  · cases h
  · rename_i v hclaim
    obtain rfl := claim_ok hclaim
    have hcatalog : View.catalog { e.view i with writing := true } = e.catalog i := e.view_catalog i
    rw [hcatalog] at h
    split at h
    · cases h
    · rename_i n c hrun
      cases h
      exact ⟨n, c, rfl, hrun, rfl⟩
    · rename_i o' c hnot hrun
      obtain ⟨n, rfl⟩ := Plan.run_counts hp hrun
      exact absurd rfl (hnot n)

structure Changed (e : Engine) (i n : Nat) (c : Catalog) (e' : Engine) : Prop where
  count : (e'.connection i).changes = n
  catalog : e'.catalog i = c
  free : e.isBarred i = false → e'.isBarred i = false

section changed

variable (hi : i < e.connections.length) (n : Nat) (c : Catalog)
include hi

theorem connection_changed : (e.changed i n c).connection i =
    ⟨(e.connection i).store, .viewing (e.changedView i n c), n⟩ := by
  have hsize := (Beside.setTransaction e i (.viewing (e.changedView i n c))).size
  rw [changed, connection_setChanges (hsize ▸ hi), connection_setTransaction hi]

omit hi in
theorem beside_changed : e.Beside i (e.changed i n c) :=
  (Beside.setTransaction e i (.viewing (e.changedView i n c))).trans (.setChanges _ i n)

theorem changed_in_transaction : e.Changed i n c (e.changed i n c) := by
  have hconnection := connection_changed hi n c
  constructor
  · rw [hconnection]
  · simp only [catalog, hconnection]
    rfl
  · intro hfree
    simp only [isBarred, hconnection, Connection.isViewing, Bool.not_true, Bool.false_and]

end changed

def committed (e : Engine) (i : Nat) (v : View) : Engine :=
  if v.changed then
    let stores := e.stores.modify (e.connection i).store fun s =>
      { s with catalog := v.catalog, version := s.version + 1 }
    setTransaction { e with stores := stores } i .idle
  else e.setTransaction i .idle

theorem commit_viewing {v : View} (hv : (e.connection i).transaction = .viewing v)
    {r : Except Fault Unit} (h : e.commit i = (r, e')) (hr : r ≠ .error .locked) :
    e' = e.committed i v := by
  simp only [commit, hv] at h
  split at h
  · cases h
    exact absurd rfl hr
  · unfold committed
    split at h
    · cases h
      rw [if_pos ‹_›]
    · cases h
      rw [if_neg ‹_›]

theorem beside_committed (e : Engine) (i : Nat) (v : View) : e.Beside i (e.committed i v) := by
  unfold committed
  split
  · exact (Beside.ofStores e i _).trans (.setTransaction _ i .idle)
  · exact .setTransaction e i .idle

theorem connection_committed (hi : i < e.connections.length) (v : View) :
    (e.committed i v).connection i = { e.connection i with transaction := .idle } := by
  unfold committed
  split
  · exact connection_modify hi _ _
  · exact connection_modify hi _ _

theorem catalog_idle (hidle : (e.connection i).transaction = .idle) :
    e.catalog i = (e.storeOf i).catalog := by simp only [catalog, hidle]

theorem exists_store (hidle : (e.connection i).transaction = .idle)
    (hcatalog : e.catalog i ≠ .empty) : ∃ s, e.stores[(e.connection i).store]? = some s := by
  cases hs : e.stores[(e.connection i).store]? with
  | some s => exact ⟨s, rfl⟩
  | none =>
    rw [catalog_idle hidle, storeOf, hs] at hcatalog
    exact absurd rfl hcatalog

theorem storeOf_committed (hi : i < e.connections.length) {s : Store}
    (hs : e.stores[(e.connection i).store]? = some s) {v : View}
    (hsame : v.changed = false → v.catalog = s.catalog) :
    ((e.committed i v).storeOf i).catalog = v.catalog := by
  rw [storeOf, connection_committed hi]
  dsimp only
  cases hchanged : v.changed with
  | true =>
    have hstores : (e.committed i v).stores = e.stores.modify (e.connection i).store fun s =>
        { s with catalog := v.catalog, version := s.version + 1 } := by
      rw [committed, if_pos hchanged]
      rfl
    simp [hstores, hs]
  | false =>
    have hstores : (e.committed i v).stores = e.stores := by
      rw [committed, if_neg (by simp [hchanged])]
      rfl
    rw [hstores, hs]
    exact (hsame hchanged).symm

theorem storeOf_setTransaction (e : Engine) (i : Nat) (t : Transaction) :
    (e.setTransaction i t).storeOf i = e.storeOf i := by
  rw [storeOf, (Beside.setTransaction e i t).store]
  rfl

theorem isBarred_of_idle (hidle : (e.connection i).transaction = .idle) :
    e.isBarred i = (e.others i).any Connection.isBlocking := by
  simp only [isBarred, Connection.isViewing, hidle, Bool.not_false, Bool.true_and]

theorem changed_alone (hi : i < e.connections.length) (hcatalog : e.catalog i ≠ .empty)
    (hidle : (e.connection i).transaction = .idle) {n : Nat} {c : Catalog}
    (hsame : n = 0 → c = e.catalog i) :
    e.Changed i n c (((e.changed i n c).committed i (e.changedView i n c)).setTransaction i
      .idle) := by
  obtain ⟨s, hs⟩ := exists_store hidle hcatalog
  have hchanged := beside_changed (e := e) (i := i) n c
  have hcommitted := beside_committed (e.changed i n c) i (e.changedView i n c)
  have hsize : i < (e.changed i n c).connections.length := hchanged.size ▸ hi
  have hsize' : i < ((e.changed i n c).committed i (e.changedView i n c)).connections.length :=
    hcommitted.size ▸ hsize
  have hbeside := (hchanged.trans hcommitted).trans (.setTransaction _ i .idle)
  have hconnection := connection_setTransaction hsize' .idle
  have hstill := congrArg Connection.transaction hconnection
  constructor
  · rw [hconnection, connection_committed hsize, connection_changed hi]
  · have hstore : (e.changed i n c).stores[((e.changed i n c).connection i).store]? = some s := by
      rw [hchanged.store]
      exact hs
    rw [catalog_idle hstill, storeOf_setTransaction, storeOf_committed hsize hstore]
    · rfl
    · intro hnone
      have hn : n = 0 := by simpa using (Bool.or_eq_false_iff.mp hnone).2
      have hc : c = s.catalog := by
        rw [hsame hn, catalog_idle hidle, storeOf, hs]
        rfl
      exact hc
  · intro hfree
    rw [isBarred_of_idle hidle] at hfree
    rwa [isBarred_of_idle hstill, hbeside.others]

theorem step_change (hi : i < e.connections.length) (hcatalog : e.catalog i ≠ .empty) {p : Plan}
    (hp : p.counts = true) {args : List Cell} {o : Outcome} (h : e.step i args p = (.ok o, e')) :
    ∃ n c, o = .changed n ∧ p.run (e.catalog i) args = .ok (.changed n, c) ∧
      e.Changed i n c e' := by
  have hstep : e.step i args p = e.performAlone i args p := by
    cases p with
    | insert | update | delete => rfl
    | create | drop | select | begin | commit | rollback => cases hp
  rw [hstep, performAlone] at h
  split at h
  · rename_i hidle
    split at h
    · cases h
    · rename_i o' after hperform
      obtain ⟨n, c, rfl, hrun, rfl⟩ := perform_change hp hperform
      split at h
      · cases h
      · rename_i r e'' hnot hcommit
        cases h
        refine ⟨n, c, rfl, hrun, ?_⟩
        have hviewing := congrArg Connection.transaction (connection_changed hi n c)
        rw [commit_viewing hviewing hcommit hnot]
        refine changed_alone hi hcatalog hidle ?_
        rintro rfl
        exact Plan.run_changed hrun
  · obtain ⟨n, c, rfl, hrun, rfl⟩ := perform_change hp h
    exact ⟨n, c, rfl, hrun, changed_in_transaction hi n c⟩

section statements

variable (hi : i < e.connections.length) {sql : String} {args : List Cell}
include hi

theorem fetch_select {selections : List Selection}
    (hprepared : (e.catalog i).prepare sql args.length = .ok (.select selections))
    (hreads : (Plan.select selections).reads = true) (names : List String)
    (limit : Option Nat) :
    (e.fetch i sql args names limit).1 = if e.isBarred i then .error (.sqlite .locked)
      else readThrough names limit 0
        ((selections.flatMap (·.run args)).map fun cells => .ok (sourceOf cells)) := by
  have hstep := step_query hi (p := .select selections) rfl hreads args
  rw [fetch, query, prepare, hprepared]
  dsimp only
  generalize e.step i args (.select selections) = r at hstep
  obtain ⟨o, e'⟩ := r
  dsimp only at hstep
  rw [hstep]
  cases e.isBarred i with
  | true => rfl
  | false => rfl

theorem execute_change (hcatalog : e.catalog i ≠ .empty) {p : Plan} (hp : p.counts = true)
    (hprepared : (e.catalog i).prepare sql args.length = .ok p) {n : Nat}
    (h : e.execute i sql args = (.ok n, e')) :
    ∃ c, p.run (e.catalog i) args = .ok (.changed n, c) ∧ e.Changed i n c e' := by
  rw [execute, prepare, hprepared] at h
  dsimp only at h
  split at h
  · cases h
  · cases h
  · rename_i o after hnot hstep
    obtain ⟨m, c, rfl, hrun, hchanged⟩ := step_change hi hcatalog hp hstep
    cases h
    rw [hchanged.count]
    exact ⟨c, hrun, hchanged⟩

end statements

end Engine

end UnitOfWork.Sqlite
