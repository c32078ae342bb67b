import UnitOfWork.Backend
import UnitOfWork.Proofs.Row.Reading
import UnitOfWork.Proofs.World

namespace UnitOfWork

abbrev Results (δ τ : Type) := δ → τ → Statement → Except Failure (List Found)

namespace Driver

structure Reads {δ τ : Type} (D : Driver δ τ) (result : Results δ τ) : Prop where
  first : ∀ d t names st, (D.run d t (.first names) st).1 =
    (result d t st).bind fun steps => steps.head?.mapM (Found.row names)
  every : ∀ d t names st, (D.run d t (.every names) st).1 =
    (result d t st).bind fun steps => steps.mapM (Found.row names)

variable {α β σ τ : Type}

def eitherResult (r : Results α σ) (s : Results β τ) : Results (α ⊕ β) (σ ⊕ τ)
  | .inl a, .inl x, st => r a x st
  | .inr b, .inr y, st => s b y st
  | _, _, _ => .error .transactionClosed

def numberedResult (r : Results α σ) : Results (List α) (Nat × σ) := fun ds x st =>
  match ds[x.1]? with
  | none => .error .transactionClosed
  | some a => r a x.2 st

theorem Reads.either {A : Driver α σ} {B : Driver β τ} {r : Results α σ} {s : Results β τ}
    (hA : A.Reads r) (hB : B.Reads s) : (A.either B).Reads (eitherResult r s) := by
  constructor
  · rintro (a | b) (x | y) names st
    · exact hA.first a x names st
    · rfl
    · rfl
    · exact hB.first b y names st
  · rintro (a | b) (x | y) names st
    · exact hA.every a x names st
    · rfl
    · rfl
    · exact hB.every b y names st

theorem Reads.numbered {A : Driver α σ} {r : Results α σ} (hA : A.Reads r) :
    A.numbered.Reads (numberedResult r) := by
  constructor
  · intro ds x names st
    simp only [Driver.numbered, numberedResult]
    cases ds[x.1]? with
    | none => rfl
    | some a => exact hA.first a x.2 names st
  · intro ds x names st
    simp only [Driver.numbered, numberedResult]
    cases ds[x.1]? with
    | none => rfl
    | some a => exact hA.every a x.2 names st

end Driver

namespace Recording

def result : Results Recording Unit := fun r _ st =>
  (r.record st).1.map fun _ => (r.rows.headD []).map fun row => .ok (Source.ofValues row)

theorem record_rows (r : Recording) (st : Statement) : (r.record st).2.rows = r.rows := by
  simp only [record]
  split <;> rfl

theorem materializeFirst_found (names : List String) (rows : List (List Value)) :
    materializeFirst names rows =
      (rows.map fun row => (.ok (Source.ofValues row) : Found)).head?.mapM (Found.row names) := by
  cases rows <;> rfl

theorem materializeAll_found (names : List String) (rows : List (List Value)) :
    materializeAll names rows =
      (rows.map fun row => (.ok (Source.ofValues row) : Found)).mapM (Found.row names) := by
  rw [materializeAll_eq, List.mapM_map]
  rfl

theorem reads_driver : driver.Reads result := by
  constructor
  · intro r t names st
    rw [result, ← record_rows r st]
    simp only [driver, run]
    split <;> rename_i h <;> rw [h]
    · rfl
    · exact materializeFirst_found names _
  · intro r t names st
    rw [result, ← record_rows r st]
    simp only [driver, run]
    split <;> rename_i h <;> rw [h]
    · rfl
    · exact materializeAll_found names _

end Recording

namespace Sqlite.Client

def result : Results Client Nat := fun c i st =>
  (c.engine.query i st.sql (st.args.map Cell.ofParameter)).1.mapError .sqlite

theorem fetch_eq (g : Engine) (i : Nat) (sql : String) (args : List Cell) (names : List String)
    (limit : Option Nat) : (g.fetch i sql args names limit).1 =
      ((g.query i sql args).1.mapError .sqlite).bind (readThrough names limit 0) := by
  simp only [Engine.fetch]
  split <;> rename_i h <;> rw [h] <;> rfl

theorem reads_driver : driver.Reads result := by
  constructor
  · intro c i names st
    simp only [driver, run, fetch_eq, result]
    cases (c.engine.query i st.sql (st.args.map Cell.ofParameter)).1 with
    | error f => rfl
    | ok steps =>
      show (readThrough names (some 1) 0 steps).map List.head? = _
      rw [readThrough_some]
      exact map_head?_mapM_take_one (Found.row names) steps
  · intro c i names st
    simp only [driver, run, fetch_eq, result]
    rw [funext (readThrough_none names 0)]

end Sqlite.Client

namespace Postgres.Client

variable {σ : Type} (S : Server σ)

def result : Results (Client σ) Nat := fun c i st =>
  ((c.perform S i st).1.map fun e => e.2.rows.map fun cells => .ok (sourceOf e.1 cells)).mapError
    .postgres

theorem fetch_eq (c : Client σ) (i : Nat) (st : Statement) (names : List String)
    (limit : Option Nat) : (c.fetch S i st names limit).1 =
      (result S c i st).bind (readWithin names limit 0) := by
  simp only [fetch, result]
  split <;> rename_i h <;> rw [h] <;> rfl

theorem reads_driver : (driver S).Reads (result S) := by
  constructor
  · intro c i names st
    simp only [driver, run, fetch_eq]
    cases result S c i st with
    | error f => rfl
    | ok steps =>
      show (readWithin names (some 1) 0 steps).map List.getLast? = _
      rw [readWithin_some]
      exact map_getLast?_mapM_take_one (Found.row names) steps
  · intro c i names st
    simp only [driver, run, fetch_eq]
    rw [funext (readWithin_none names 0)]

end Postgres.Client

def Backend.result : Results (List Backend) Backend.Transaction :=
  Driver.numberedResult (Driver.eitherResult Recording.result
    (Driver.eitherResult Sqlite.Client.result (Postgres.Client.result Postgres.Script.server)))

theorem Backend.reads_driver : Backend.driver.Reads Backend.result :=
  .numbered (.either Recording.reads_driver
    (.either Sqlite.Client.reads_driver (Postgres.Client.reads_driver _)))

namespace World

variable {δ τ : Type} {D : Driver δ τ} {result : Results δ τ}

def resultIn (D : Driver δ τ) (result : Results δ τ) (w : World δ τ) (s : Session τ)
    (st : Statement) : Except Failure (List Found) :=
  match s.transaction with
  | none => .error .transactionClosed
  | some x =>
    match (w.timeline.guarded s.token s.deadline (D.delay w.databases x)).1 with
    | .error e => .error (.statement st.sql e)
    | .ok () => (result w.databases x st).mapError (.statement st.sql)

theorem resultIn_error {w : World δ τ} {s : Session τ} {st : Statement} {e : Failure}
    (h : resultIn D result w s st = .error e) : e ≠ .noResult := by
  intro he
  subst he
  unfold resultIn at h
  split at h
  · cases h
  · split at h
    · cases h
    · rename_i x _ _ _
      cases hr : result w.databases x st <;> rw [hr] at h <;> cases h

variable (w : World δ τ) (s : Session τ) (columns : List String) (table : String)
  (clauses : List Clause)

theorem ask_read (q : Request) {st : Statement} (hst : q.statement s.dialect = .ok st)
    {read : List Found → Except Failure q.call.Result}
    (hrun : ∀ d t, (D.run d t q.call st).1 = (result d t st).bind read) :
    (w.ask D s q).1 = (resultIn D result w s st).bind fun steps =>
      ((read steps).mapError (.statement st.sql)).bind (q.answer st.sql) := by
  unfold resultIn
  cases ask_case D w s q with
  | unstated e hst' => rw [hst'] at hst; cases hst
  | ended st' hst' hx hr => rw [hx, hr]; rfl
  | refused st' x e hst' hx hg hr =>
    cases hst.symm.trans hst'
    rw [hx, hr]
    simp only [hg]
    rfl
  | allowed st' x hst' hx hg hr =>
    cases hst.symm.trans hst'
    rw [hx, hr, hrun]
    simp only [hg]
    cases result w.databases x st <;> rfl

end World

inductive Fetched (one many : Except Failure Answer) : Prop where
  | failed (e : Failure) (he : e ≠ .noResult) (hone : one = .error e) (hmany : many = .error e)
  | nothing (hone : one = .error .noResult) (hmany : many = .ok (.rows []))
  | found (r : Row) (hone : one = .ok (.row r))
      (hmany : (∃ rs, many = .ok (.rows (r :: rs))) ∨ ∃ e, many = .error e)

namespace World

variable {δ τ : Type} {D : Driver δ τ} {result : Results δ τ} (h : D.Reads result) (w : World δ τ)
  (s : Session τ) (columns : List String) (table : String) (clauses : List Clause)
include h

theorem ask_one : (w.ask D s (.one columns table clauses)).1 =
    ((resultIn D result w s (Statement.select s.dialect columns table clauses)).map
      List.head?).bind fun found =>
        ((found.mapM (Found.row columns)).mapError
          (.statement (Statement.select s.dialect columns table clauses).sql)).bind
            (Request.answer (Statement.select s.dialect columns table clauses).sql
              (.one columns table clauses)) := by
  rw [ask_read w s (.one columns table clauses) rfl fun d t => h.first d t columns _]
  cases resultIn D result w s (Statement.select s.dialect columns table clauses) <;> rfl

theorem fetched : Fetched (w.ask D s (.one columns table clauses)).1
    (w.ask D s (.many columns table clauses)).1 := by
  rw [ask_one h, ask_read w s (.many columns table clauses) rfl fun d t => h.every d t columns _]
  cases hsteps : resultIn D result w s (Statement.select s.dialect columns table clauses) with
  | error e => exact .failed e (resultIn_error hsteps) rfl rfl
  | ok steps =>
    have hall := firstOfAll_mapM (Found.row columns)
    cases hone : steps.head?.mapM (Found.row columns) with
    | error e =>
      simp only [Except.map, Except.bind, hone, hall.error steps e hone]
      exact .failed (.statement _ e) nofun rfl rfl
    | ok found =>
      cases found with
      | none =>
        simp only [Except.map, Except.bind, hone, (hall.none_iff steps).mp hone]
        exact .nothing rfl rfl
      | some r =>
        simp only [Except.map, Except.bind, hone]
        refine .found r rfl ?_
        cases hmany : steps.mapM (Found.row columns) with
        | error e => exact .inr ⟨_, rfl⟩
        | ok rows =>
          cases rows with
          | nil => cases hone.symm.trans ((hall.none_iff steps).mpr hmany)
          | cons r' rs =>
            cases hone.symm.trans (hall.head steps r' rs hmany)
            exact .inl ⟨rs, rfl⟩

end World

/-- A session returns the first of all rows when it is asked for one, and a failure where it would
return that, too, when it is asked for all; databases that agree as far as the first row are the
same to it. -/
structure Driver.OneOfMany {δ τ : Type} (D : Driver δ τ) (result : Results δ τ) : Prop where
  noResult : ∀ (w : World δ τ) s columns table clauses,
    (w.ask D s (.one columns table clauses)).1 = .error .noResult ↔
      (w.ask D s (.many columns table clauses)).1 = .ok (.rows [])
  head : ∀ (w : World δ τ) s columns table clauses r rs,
    (w.ask D s (.many columns table clauses)).1 = .ok (.rows (r :: rs)) →
      (w.ask D s (.one columns table clauses)).1 = .ok (.row r)
  error : ∀ (w : World δ τ) s columns table clauses e, e ≠ .noResult →
    (w.ask D s (.one columns table clauses)).1 = .error e →
      (w.ask D s (.many columns table clauses)).1 = .error e
  later : ∀ (w : World δ τ) d s columns table clauses,
    (∀ x, s.transaction = some x → D.delay d x = D.delay w.databases x ∧
      (result d x (Statement.select s.dialect columns table clauses)).map List.head? =
        (result w.databases x (Statement.select s.dialect columns table clauses)).map
          List.head?) →
      (World.ask D { w with databases := d } s (.one columns table clauses)).1 =
        (w.ask D s (.one columns table clauses)).1

theorem map_mapError {α β ε ε' : Type} (x : Except ε α) (f : α → β) (g : ε → ε') :
    (x.mapError g).map f = (x.map f).mapError g := by
  cases x <;> rfl

theorem Driver.Reads.oneOfMany {δ τ : Type} {D : Driver δ τ} {result : Results δ τ}
    (h : D.Reads result) : D.OneOfMany result := by
  constructor
  case noResult =>
    intro w s columns table clauses
    cases World.fetched h w s columns table clauses with
    | failed e he hone hmany => simp [hone, hmany, he]
    | nothing hone hmany => simp [hone, hmany]
    | found r hone hmany =>
      obtain ⟨rs, hmany⟩ | ⟨e, hmany⟩ := hmany <;> simp [hone, hmany]
  case head =>
    intro w s columns table clauses r rs hrows
    cases World.fetched h w s columns table clauses with
    | failed e he hone hmany => cases hmany.symm.trans hrows
    | nothing hone hmany => cases hmany.symm.trans hrows
    | found r' hone hmany =>
      obtain ⟨rs', hmany⟩ | ⟨e, hmany⟩ := hmany <;> cases hmany.symm.trans hrows
      exact hone
  case error =>
    intro w s columns table clauses e he hfailed
    cases World.fetched h w s columns table clauses with
    | failed e' he' hone hmany =>
      cases hone.symm.trans hfailed
      exact hmany
    | nothing hone hmany =>
      cases hone.symm.trans hfailed
      exact absurd rfl he
    | found r hone hmany => cases hone.symm.trans hfailed
  case later =>
    intro w d s columns table clauses hd
    rw [World.ask_one h, World.ask_one h]
    refine congrArg (Except.bind · _) ?_
    simp only [World.resultIn]
    cases hx : s.transaction with
    | none => rfl
    | some x =>
      obtain ⟨hdelay, hresult⟩ := hd x hx
      simp only [hdelay]
      cases (w.timeline.guarded s.token s.deadline (D.delay w.databases x)).1 with
      | error e => rfl
      | ok =>
        simp only [map_mapError, hresult]

theorem query_one_of_many :
    (∀ names, FirstOfAll (Recording.materializeFirst names) (Recording.materializeAll names)) ∧
      (∀ names, FirstOfAll (fun steps => (readThrough names (some 1) 0 steps).map List.head?)
        (readThrough names none 0)) ∧
      (∀ names, FirstOfAll (fun steps => (readWithin names (some 1) 0 steps).map List.getLast?)
        (readWithin names none 0)) ∧
      Recording.driver.OneOfMany Recording.result ∧
      Sqlite.Client.driver.OneOfMany Sqlite.Client.result ∧
      (∀ (σ : Type) (S : Postgres.Server σ),
        (Postgres.Client.driver S).OneOfMany (Postgres.Client.result S)) ∧
      Backend.driver.OneOfMany Backend.result :=
  ⟨Recording.firstOfAll, firstOfAll_readThrough, firstOfAll_readWithin,
    Recording.reads_driver.oneOfMany, Sqlite.Client.reads_driver.oneOfMany,
    fun _ S => (Postgres.Client.reads_driver S).oneOfMany, Backend.reads_driver.oneOfMany⟩

end UnitOfWork
