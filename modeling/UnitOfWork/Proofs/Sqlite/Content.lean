import UnitOfWork.Proofs.Sqlite.Statements
import UnitOfWork.Sqlite.Client

/-!
A client with one connection to a database of its own. Main statements: what each call makes of the
content of the database, and of what the transaction that is open sees of it.
-/
namespace UnitOfWork.Sqlite

namespace Catalog

def execute (c : Catalog) (sql : String) (args : List Cell) : Except Fault (Outcome × Catalog) := do
  let p ← c.prepare sql args.length
  p.run c args

def settle (c : Catalog) : Except Fault (Outcome × Catalog) → Catalog
  | .ok r => r.2
  | .error _ => c

def after (c : Catalog) (st : Statement) : Catalog :=
  c.settle (c.execute st.sql (st.args.map Cell.ofParameter))

def find (c : Catalog) (st : Statement) (names : List String) (limit : Option Nat) :
    Except Failure (List Row) :=
  match c.execute st.sql (st.args.map Cell.ofParameter) with
  | .ok (.rows rows, _) => readThrough names limit 0 (rows.map fun cells => .ok (sourceOf cells))
  | .ok _ => readThrough names limit 0 []
  | .error f => .error (.sqlite f)

def reply (c : Catalog) (st : Statement) : (call : Call) → Option (Except Failure call.Result)
  | .first names => some ((c.find st names (some 1)).map List.head?)
  | .every names => some (c.find st names none)
  | .affected => none

end Catalog

namespace Plan

theorem isQuery_of_not_writes {p : Plan} (hp : p.isOrdinary = true) (hw : p.writes = false) :
    p.isQuery = true := by
  cases p with
  | select selections => rfl
  | create | drop | insert | update | delete => cases hw
  | begin | commit | rollback => cases hp

theorem run_query {p : Plan} (hp : p.isQuery = true) (c : Catalog) (args : List Cell) :
    ∃ rows, p.run c args = .ok (.rows rows, c) := by
  cases p with
  | select selections => exact ⟨_, rfl⟩
  | _ => cases hp

theorem isOrdinary_of_isQuery {p : Plan} (hp : p.isQuery = true) : p.isOrdinary = true := by
  cases p with
  | select selections => rfl
  | _ => cases hp

theorem run_rows {p : Plan} {c c' : Catalog} {args : List Cell} {cells : List (List Cell)}
    (h : p.run c args = .ok (.rows cells, c')) : c' = c := by
  cases p with
  | select selections =>
    cases h
    rfl
  | create | drop | begin | commit | rollback => cases h
  | insert t values =>
    obtain ⟨new, -, h⟩ := ok_of_bind h
    cases h
  | update t assignments cs =>
    obtain ⟨new, -, h⟩ := ok_of_bind h
    cases h
  | delete t cs => cases h

theorem run_changed {p : Plan} {c c' : Catalog} {args : List Cell}
    (h : p.run c args = .ok (.changed 0, c')) : c' = c := by
  cases p with
  | create | drop | select | begin | commit | rollback => cases h
  | insert t values =>
    obtain ⟨new, -, h⟩ := ok_of_bind h
    cases h
  | update t assignments cs =>
    obtain ⟨new, -, h⟩ := ok_of_bind h
    simp only [pure, Except.pure, changing, Except.ok.injEq, Prod.mk.injEq, Outcome.changed.injEq]
      at h
    rw [if_pos h.1] at h
    exact h.2.symm
  | delete t cs =>
    simp only [run, changing, Except.ok.injEq, Prod.mk.injEq, Outcome.changed.injEq] at h
    rw [if_pos h.1] at h
    exact h.2.symm

end Plan

namespace Catalog

variable {c : Catalog} {sql : String} {args : Nat} {p : Plan}

theorem prepare_kind (h : c.prepare sql args = .ok p) :
    ∃ q, Prepared.ofText sql = .ok q ∧ p.isOrdinary = q.command.isOrdinary ∧
      p.isQuery = q.command.isQuery := by
  obtain ⟨q, hq, h⟩ := ok_of_bind h
  obtain ⟨plan, hplan, h⟩ := ok_of_bind h
  split at h
  · cases h
    exact ⟨q, hq, Plan.ofCommand_kind hplan⟩
  · cases h

theorem isOrdinary_of_prepare (hsql : isOrdinary sql = true) (h : c.prepare sql args = .ok p) :
    p.isOrdinary = true := by
  obtain ⟨q, hq, hkind, -⟩ := prepare_kind h
  rw [isOrdinary, hq] at hsql
  exact hkind.trans hsql

theorem isQuery_of_prepare (hsql : isQuery sql = true) (h : c.prepare sql args = .ok p) :
    p.isQuery = true := by
  obtain ⟨q, hq, -, hkind⟩ := prepare_kind h
  rw [isQuery, hq] at hsql
  exact hkind.trans hsql

end Catalog

inductive Transaction.Sees (s : Store) : Transaction → Catalog → Prop where
  | begun : Sees s .begun s.catalog
  | viewing (v : View) (hv : v.version = s.version)
      (hc : v.changed = false → v.catalog = s.catalog) : Sees s (.viewing v) v.catalog

namespace Engine

structure Alone (e : Engine) (s : Store) (t : Transaction) : Prop where
  connected : ∃ k n, e.connections = [⟨k, t, n⟩] ∧ e.stores[k]? = some s

namespace Alone

variable {e : Engine} {s : Store} {t : Transaction}

theorem transaction (h : e.Alone s t) : (e.connection 0).transaction = t := by
  obtain ⟨k, n, hc, -⟩ := h.connected
  simp [connection, hc]

theorem storeOf (h : e.Alone s t) : e.storeOf 0 = s := by
  obtain ⟨k, n, hc, hs⟩ := h.connected
  simp [Engine.storeOf, connection, hc, hs]

theorem others (h : e.Alone s t) : e.others 0 = [] := by
  obtain ⟨k, n, hc, -⟩ := h.connected
  simp [Engine.others, hc]

theorem setTransaction (h : e.Alone s t) (t' : Transaction) :
    (e.setTransaction 0 t').Alone s t' := by
  obtain ⟨k, n, hc, hs⟩ := h.connected
  exact ⟨k, n, by simp [Engine.setTransaction, hc], hs⟩

theorem setChanges (h : e.Alone s t) (n : Nat) : (e.setChanges 0 n).Alone s t := by
  obtain ⟨k, m, hc, hs⟩ := h.connected
  exact ⟨k, n, by simp [Engine.setChanges, hc], hs⟩

theorem setStore (h : e.Alone s t) (f : Store → Store) :
    Alone { e with stores := e.stores.modify (e.connection 0).store f } (f s) t := by
  obtain ⟨k, n, hc, hs⟩ := h.connected
  exact ⟨k, n, hc, by simp [connection, hc, hs]⟩

end Alone

structure Rests (e : Engine) (c : Catalog) : Prop where
  alone : ∃ s, e.Alone s .idle ∧ s.catalog = c

structure Works (e : Engine) (c₀ c : Catalog) : Prop where
  alone : ∃ s t, e.Alone s t ∧ s.catalog = c₀ ∧ t.Sees s c

theorem Rests.begin {e : Engine} {c : Catalog} (h : e.Rests c) :
    (e.begin 0).1 = .ok () ∧ (e.begin 0).2.Works c c := by
  obtain ⟨s, ha, rfl⟩ := h.alone
  have hb : e.begin 0 = (.ok (), e.setTransaction 0 .begun) := by
    simp only [Engine.begin, ha.transaction]
  rw [hb]
  exact ⟨rfl, s, .begun, ha.setTransaction .begun, rfl, .begun⟩

namespace Works

variable {e : Engine} {c₀ c : Catalog}

theorem begin (h : e.Works c₀ c) : e.begin 0 = (.error .nestedTransaction, e) := by
  obtain ⟨s, t, ha, -, hs⟩ := h.alone
  cases hs with
  | begun => simp only [Engine.begin, ha.transaction]
  | viewing v hv hc => simp only [Engine.begin, ha.transaction]

theorem rollback (h : e.Works c₀ c) : (e.rollback 0).1 = .ok () ∧ (e.rollback 0).2.Rests c₀ := by
  obtain ⟨s, t, ha, hc₀, hs⟩ := h.alone
  have hr : e.rollback 0 = (.ok (), e.setTransaction 0 .idle) := by
    cases hs with
    | begun => simp only [Engine.rollback, ha.transaction]
    | viewing v hv hc => simp only [Engine.rollback, ha.transaction]
  rw [hr]
  exact ⟨rfl, s, ha.setTransaction .idle, hc₀⟩

theorem commit (h : e.Works c₀ c) : (e.commit 0).1 = .ok () ∧ (e.commit 0).2.Rests c := by
  obtain ⟨s, t, ha, rfl, hs⟩ := h.alone
  cases hs with
  | begun =>
    have hr : e.commit 0 = (.ok (), e.setTransaction 0 .idle) := by
      simp only [Engine.commit, ha.transaction]
    rw [hr]
    exact ⟨rfl, s, ha.setTransaction .idle, rfl⟩
  | viewing v hv hc =>
    cases hchanged : v.changed with
    | false =>
      have hr : e.commit 0 = (.ok (), e.setTransaction 0 .idle) := by
        simp [Engine.commit, ha.transaction, ha.others, hchanged]
      rw [hr]
      exact ⟨rfl, s, ha.setTransaction .idle, (hc hchanged).symm⟩
    | true =>
      let f : Store → Store := fun s => { s with catalog := v.catalog, version := s.version + 1 }
      have hr : e.commit 0 = (.ok (), Engine.setTransaction
          { e with stores := e.stores.modify (e.connection 0).store f } 0 .idle) := by
        simp [Engine.commit, ha.transaction, ha.others, hchanged, f]
      rw [hr]
      exact ⟨rfl, f s, (ha.setStore f).setTransaction .idle, rfl⟩

theorem catalog (h : e.Works c₀ c) : e.catalog 0 = c := by
  obtain ⟨s, t, ha, rfl, hs⟩ := h.alone
  cases hs with
  | begun => simp only [Engine.catalog, ha.transaction, ha.storeOf]
  | viewing v hv hc => simp only [Engine.catalog, ha.transaction]

theorem view (h : e.Works c₀ c) :
    ∃ s t, e.Alone s t ∧ s.catalog = c₀ ∧ t ≠ .idle ∧ (e.view 0).catalog = c ∧
      (e.view 0).version = s.version ∧ ((e.view 0).changed = false → c = c₀) := by
  obtain ⟨s, t, ha, rfl, hs⟩ := h.alone
  cases hs with
  | begun =>
    have hv : e.view 0 = ⟨s.catalog, s.version, false, false, false⟩ := by
      simp only [Engine.view, ha.transaction, ha.storeOf]
    exact ⟨s, _, ha, rfl, by simp, by rw [hv], by rw [hv], fun _ => rfl⟩
  | viewing v hver hc =>
    have hv : e.view 0 = v := by simp only [Engine.view, ha.transaction]
    rw [hv]
    exact ⟨s, _, ha, rfl, by simp, rfl, hver, hc⟩

theorem of_viewing {s : Store} {t : Transaction} (ha : e.Alone s t) (v : View)
    (hv : v.version = s.version) (hc : v.changed = false → v.catalog = s.catalog) :
    (e.setTransaction 0 (.viewing v)).Works s.catalog v.catalog :=
  ⟨s, _, ha.setTransaction _, rfl, .viewing v hv hc⟩

theorem setChanges (h : e.Works c₀ c) (n : Nat) : (e.setChanges 0 n).Works c₀ c := by
  obtain ⟨s, t, ha, hc₀, hs⟩ := h.alone
  exact ⟨s, t, ha.setChanges n, hc₀, hs⟩

theorem perform (h : e.Works c₀ c) {p : Plan} (hp : p.isOrdinary = true) (args : List Cell) :
    (e.perform 0 args p).1 = (p.run c args).map Prod.fst ∧
      (e.perform 0 args p).2.Works c₀ (c.settle (p.run c args)) := by
  obtain ⟨s, t, ha, rfl, hidle, rfl, hver, hc⟩ := h.view
  cases hw : p.writes with
  | false =>
    have hq := Plan.isQuery_of_not_writes hp hw
    obtain ⟨rows, hr⟩ := Plan.run_query hq (e.view 0).catalog args
    have hv := of_viewing ha (e.view 0) hver hc
    simp only [Engine.perform, hw, ha.others, hr, List.any_nil, Bool.and_false,
      Bool.false_eq_true, if_false]
    split
    · exact ⟨rfl, hv⟩
    · exact ⟨rfl, h⟩
  | true =>
    have hclaim : e.claim 0 = .ok { e.view 0 with writing := true } := by
      simp [Engine.claim, ha.others, ha.storeOf, hver]
    simp only [Engine.perform, hw, if_true, hclaim]
    cases hr : p.run (e.view 0).catalog args with
    | error f =>
      have hv := of_viewing ha { e.view 0 with writing := true } hver hc
      exact ⟨rfl, hv.setChanges 0⟩
    | ok r =>
      obtain ⟨o, c'⟩ := r
      cases o with
      | changed n =>
        have hv := of_viewing ha { e.view 0 with
          writing := true, catalog := c', changed := (e.view 0).changed || n != 0 } hver (by
            intro hnone
            obtain ⟨hchanged, hn⟩ := Bool.or_eq_false_iff.mp hnone
            have hn : n = 0 := by simpa using hn
            rw [hn] at hr
            exact (Plan.run_changed hr).trans (hc hchanged))
        exact ⟨rfl, hv.setChanges n⟩
      | rows cells =>
        have hv := of_viewing ha { e.view 0 with
          writing := true, catalog := c', changed := true } hver (by simp)
        exact ⟨rfl, hv⟩
      | done =>
        have hv := of_viewing ha { e.view 0 with
          writing := true, catalog := c', changed := true } hver (by simp)
        exact ⟨rfl, hv⟩

theorem step (h : e.Works c₀ c) {p : Plan} (hp : p.isOrdinary = true) (args : List Cell) :
    e.step 0 args p = e.perform 0 args p := by
  obtain ⟨s, t, ha, -, hidle, -⟩ := h.view
  have halone : e.performAlone 0 args p = e.perform 0 args p := by
    unfold performAlone
    split
    · rename_i hi
      exact absurd (ha.transaction.symm.trans hi) hidle
    · rfl
  cases p with
  | begin | commit | rollback => cases hp
  | _ => exact halone

theorem execute (h : e.Works c₀ c) {st : Statement} (hst : isOrdinary st.sql = true) :
    (e.execute 0 st.sql (st.args.map Cell.ofParameter)).2.Works c₀ (c.after st) ∧
      ((e.execute 0 st.sql (st.args.map Cell.ofParameter)).1.isOk = false → c.after st = c) := by
  simp only [Engine.execute, Engine.prepare, h.catalog]
  cases hp : c.prepare st.sql (st.args.map Cell.ofParameter).length with
  | error f =>
    have hafter : c.after st = c := by
      rw [Catalog.after, Catalog.execute, hp]
      rfl
    rw [hafter]
    exact ⟨h, fun _ => rfl⟩
  | ok p =>
    have hkind := Catalog.isOrdinary_of_prepare hst hp
    have hafter : c.after st = c.settle (p.run c (st.args.map Cell.ofParameter)) := by
      rw [Catalog.after, Catalog.execute, hp]
      rfl
    obtain ⟨hr, hw⟩ := h.perform hkind (st.args.map Cell.ofParameter)
    dsimp only
    rw [hafter, h.step hkind]
    generalize e.perform 0 (st.args.map Cell.ofParameter) p = r at hr hw
    obtain ⟨o, e'⟩ := r
    dsimp only at hr hw
    cases hrun : p.run c (st.args.map Cell.ofParameter) with
    | error f =>
      rw [hrun] at hr hw
      rw [hr]
      exact ⟨hw, fun _ => rfl⟩
    | ok q =>
      obtain ⟨outcome, c'⟩ := q
      rw [hrun] at hr hw
      rw [hr]
      cases outcome with
      | changed n => exact ⟨hw, by rintro ⟨⟩⟩
      | done => exact ⟨hw, by rintro ⟨⟩⟩
      | rows cells =>
        have hc' : c' = c := Plan.run_rows hrun
        cases cells with
        | nil => exact ⟨hw, fun _ => hc'⟩
        | cons row rest => exact ⟨hw, fun _ => hc'⟩

theorem fetch (h : e.Works c₀ c) {st : Statement} (hst : isQuery st.sql = true)
    (names : List String) (limit : Option Nat) :
    (e.fetch 0 st.sql (st.args.map Cell.ofParameter) names limit).1 = c.find st names limit ∧
      (e.fetch 0 st.sql (st.args.map Cell.ofParameter) names limit).2.Works c₀ c := by
  simp only [Engine.fetch, Engine.query, Engine.prepare, h.catalog, Catalog.find, Catalog.execute]
  cases hp : c.prepare st.sql (st.args.map Cell.ofParameter).length with
  | error f => exact ⟨rfl, h⟩
  | ok p =>
    have hquery := Catalog.isQuery_of_prepare hst hp
    have hkind := Plan.isOrdinary_of_isQuery hquery
    obtain ⟨rows, hrun⟩ := Plan.run_query hquery c (st.args.map Cell.ofParameter)
    obtain ⟨hr, hw⟩ := h.perform hkind (st.args.map Cell.ofParameter)
    dsimp only
    rw [h.step hkind]
    generalize e.perform 0 (st.args.map Cell.ofParameter) p = r at hr hw
    obtain ⟨o, e'⟩ := r
    dsimp only at hr hw
    rw [hrun] at hr hw
    rw [hr]
    have hbind : (Except.ok p >>= fun p => p.run c (st.args.map Cell.ofParameter)) =
        (.ok (.rows rows, c) : Except Fault (Outcome × Catalog)) := hrun
    rw [hbind]
    exact ⟨rfl, hw⟩

end Works

end Engine

namespace Client

structure AtRest (x : Client) (c : Catalog) : Prop where
  pool : x.pool = ⟨1, 1, [0], [], false⟩
  engine : x.engine.Rests c

structure InUse (x : Client) (c₀ c : Catalog) : Prop where
  pool : x.pool = ⟨1, 1, [], [0], false⟩
  engine : x.engine.Works c₀ c

structure Stuck (x : Client) (c₀ c : Catalog) : Prop where
  pool : x.pool = ⟨1, 1, [0], [], false⟩
  engine : x.engine.Works c₀ c

variable {x : Client} {c₀ c : Catalog}

theorem atRest_ofOptions {o : Options} (h : o.path = memoryPath) :
    (ofOptions o).2.AtRest .empty := by
  have hsize : o.effectivePoolSize = 1 := by rw [Options.effectivePoolSize, if_pos h]
  constructor
  · rw [ofOptions, opened, connect, hsize]
    rfl
  · have hengine : (ofOptions o).2.engine = (Engine.initial o.writeAhead).connectApart := by
      rw [ofOptions, opened, connect]
      exact if_pos h
    rw [hengine]
    exact ⟨_, ⟨1, 0, rfl, rfl⟩, rfl⟩

theorem take_waiting {p : Pool} (h : p = ⟨1, 1, [0], [], false⟩) :
    p.take = .waiting 0 ⟨1, 1, [], [], false⟩ := by
  rw [h]
  rfl

theorem AtRest.begin (h : x.AtRest c) : x.begin.1 = .ok 0 ∧ x.begin.2.2.InUse c c := by
  obtain ⟨hok, hworks⟩ := h.engine.begin
  have hb : x.engine.begin 0 = (.ok (), (x.engine.begin 0).2) := by rw [← hok]
  have hbegin : x.begin = (.ok 0, [],
      { x with engine := (x.engine.begin 0).2, pool := ⟨1, 1, [], [0], false⟩ }) := by
    rw [Client.begin, take_waiting h.pool]
    simp only [beginOn]
    rw [hb]
    rfl
  rw [hbegin]
  exact ⟨rfl, rfl, hworks⟩

namespace InUse

variable (h : x.InUse c₀ c)
include h

theorem begin : ∃ e, x.begin.1 = .error e ∧ x.begin.2.2 = x := by
  have htake : x.pool.take = .exhausted := by
    rw [h.pool]
    rfl
  rw [Client.begin, htake]
  exact ⟨_, rfl, rfl⟩

theorem commit :
    (x.commit 0).1 = .ok () ∧ ((x.commit 0).2.release 0 true).2.AtRest c := by
  obtain ⟨hok, hrests⟩ := h.engine.commit
  have hb : x.engine.commit 0 = (.ok (), (x.engine.commit 0).2) := by rw [← hok]
  have hcommit : x.commit 0 = (.ok (),
      { x with engine := (x.engine.commit 0).2, pool := ⟨1, 1, [], [], false⟩ }) := by
    rw [Client.commit, hb, h.pool]
    rfl
  rw [hcommit]
  exact ⟨rfl, rfl, hrests⟩

theorem rollback : ((x.rollback 0).2.release 0 true).2.AtRest c₀ := by
  obtain ⟨-, hrests⟩ := h.engine.rollback
  have hrollback : (x.rollback 0).2 =
      { x with engine := (x.engine.rollback 0).2, pool := ⟨1, 1, [], [], false⟩ } := by
    rw [Client.rollback, h.pool]
    rfl
  rw [hrollback]
  exact ⟨rfl, hrests⟩

theorem abandon : (x.release 0 false).2.Stuck c₀ c := by
  have hrelease : (x.release 0 false).2 = { x with pool := ⟨1, 1, [0], [], false⟩ } := by
    rw [release, h.pool]
    simp [giveBack, Pool.giveBack, Pool.settled]
  rw [hrelease]
  exact ⟨rfl, h.engine⟩

theorem run_affected {st : Statement} (hst : isOrdinary st.sql = true) :
    (x.run 0 .affected st).2.InUse c₀ (c.after st) ∧
      ((x.run 0 .affected st).1.isOk = false → c.after st = c) := by
  obtain ⟨hworks, hfailed⟩ := h.engine.execute hst
  simp only [Client.run]
  generalize x.engine.execute 0 st.sql (st.args.map Cell.ofParameter) = r at hworks hfailed
  obtain ⟨o, e⟩ := r
  cases o with
  | ok n => exact ⟨⟨h.pool, hworks⟩, by rintro ⟨⟩⟩
  | error f => exact ⟨⟨h.pool, hworks⟩, fun _ => hfailed rfl⟩

theorem run_query {st : Statement} (hst : isQuery st.sql = true) {call : Call}
    {reply : Except Failure call.Result} (hreply : c.reply st call = some reply) :
    (x.run 0 call st).1 = reply ∧ (x.run 0 call st).2.InUse c₀ c := by
  cases call with
  | first names =>
    obtain ⟨hfound, hworks⟩ := h.engine.fetch hst names (some 1)
    cases hreply
    exact ⟨congrArg (Except.map List.head?) hfound, h.pool, hworks⟩
  | every names =>
    obtain ⟨hfound, hworks⟩ := h.engine.fetch hst names none
    cases hreply
    exact ⟨hfound, h.pool, hworks⟩
  | affected => cases hreply

end InUse

theorem Stuck.begin (h : x.Stuck c₀ c) :
    x.begin.1 = .error (.sqlite .nestedTransaction) ∧ x.begin.2.2.Stuck c₀ c := by
  have hbegin : x.begin = (.error (.sqlite .nestedTransaction), [],
      { x with pool := ⟨1, 1, [0], [], false⟩ }) := by
    rw [Client.begin, take_waiting h.pool]
    simp only [beginOn, h.engine.begin]
    rfl
  rw [hbegin]
  exact ⟨rfl, rfl, h.engine⟩

end Client

end UnitOfWork.Sqlite
