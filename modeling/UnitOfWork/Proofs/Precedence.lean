import UnitOfWork.Proofs.LinearUse
import UnitOfWork.Proofs.Statement.Alike
import UnitOfWork.Proofs.Timeline.Later

namespace UnitOfWork

open Traced

namespace Request

inductive Answered (sql : String) :
    (q : Request) → Except Failure q.call.Result → Except Failure Answer → Prop where
  | failed (q : Request) (e : Failure) : Answered sql q (.error e) (.error (.statement sql e))
  | row (columns : List String) (table : String) (clauses : List Clause) (r : Row) :
    Answered sql (.one columns table clauses) (.ok (some r : Option Row)) (.ok (.row r))
  | noRow (columns : List String) (table : String) (clauses : List Clause) :
    Answered sql (.one columns table clauses) (.ok (none : Option Row)) (.error .noResult)
  | rows (columns : List String) (table : String) (clauses : List Clause) (rs : List Row) :
    Answered sql (.many columns table clauses) (.ok rs) (.ok (.rows rs))
  | counted (table : String) (clauses : List Clause) (r : Row) (n : Int64)
      (h : r.get? "count" = some (.int n)) :
    Answered sql (.count table clauses) (.ok (some r : Option Row)) (.ok (.count n))
  | uncounted (table : String) (clauses : List Clause) (found : Option Row)
      (h : ∀ r n, found = some r → r.get? "count" ≠ some (.int n)) :
    Answered sql (.count table clauses) (.ok found)
      (.error (.statement sql (.mapping "count query returned no integer")))
  | inserted (table : String) (row : Row) (n : Nat) :
    Answered sql (.insert table row) (.ok n) (.ok (.affected n))
  | updated (table : String) (row : Row) (clauses : List Clause) (n : Nat) :
    Answered sql (.update table row clauses) (.ok n) (.ok (.affected n))
  | deleted (table : String) (clauses : List Clause) (n : Nat) :
    Answered sql (.delete table clauses) (.ok n) (.ok (.affected n))
  | executed (statement : Statement) (n : Nat) :
    Answered sql (.exec statement) (.ok n) (.ok (.affected n))

theorem Answered.eq_of_error {sql : String} {q : Request} {result : Except Failure q.call.Result}
    {r : Except Failure Answer} (h : Answered sql q result r) {e : Failure}
    (he : result = .error e) : r = .error (.statement sql e) := by
  subst he
  cases h
  rfl

theorem int64?_eq_some {r : Row} {key : String} {n : Int64} :
    r.int64? key = some n ↔ r.get? key = some (.int n) := by
  unfold Row.int64?
  cases r.get? key with
  | none => simp
  | some v => cases v <;> simp [Value.asInt?]

theorem answered_count (sql table : String) (clauses : List Clause) (found : Option Row) :
    Answered sql (.count table clauses) (.ok found) (answer sql (.count table clauses) found) := by
  cases hn : found >>= fun r => r.int64? countColumn with
  | none =>
    have hanswer : answer sql (.count table clauses) found =
        .error (.statement sql (.mapping "count query returned no integer")) := by
      simp only [answer, hn]
    rw [hanswer]
    refine .uncounted table clauses found ?_
    rintro r n rfl hr
    exact nomatch hn.symm.trans (int64?_eq_some.mpr hr)
  | some n =>
    obtain ⟨r, rfl, hr⟩ := Option.bind_eq_some_iff.mp hn
    have hanswer : answer sql (.count table clauses) (some r : Option Row) = .ok (.count n) := by
      simp only [answer, hn]
    rw [hanswer]
    exact .counted table clauses r n (int64?_eq_some.mp hr)

theorem answered (sql : String) (q : Request) (result : Except Failure q.call.Result) :
    Answered sql q result ((result.mapError (.statement sql)).bind (q.answer sql)) := by
  cases result with
  | error e => exact .failed q e
  | ok f =>
    cases q with
    | one columns table clauses =>
      cases (f : Option Row) with
      | none => exact .noRow columns table clauses
      | some r => exact .row columns table clauses r
    | many columns table clauses => exact .rows columns table clauses f
    | count table clauses => exact answered_count sql table clauses f
    | insert table row => exact .inserted table row f
    | update table row clauses => exact .updated table row clauses f
    | delete table clauses => exact .deleted table clauses f
    | exec statement => exact .executed statement f

theorem statement_of_stores {q : Request} (h : q.storesNothing = false) (d : Dialect) :
    ∃ st, q.statement d = .ok st := by
  cases q with
  | one | many | count | delete | exec => exact ⟨_, rfl⟩
  | insert table row | update table row clauses =>
    have hrow : ¬ row.isEmpty = true := Bool.eq_false_iff.mp h
    exact ⟨_, if_neg hrow⟩

theorem statement_of_storesNothing {q : Request} (h : q.storesNothing = true) (d : Dialect) :
    ∃ detail, q.statement d = .error (.parameter detail) := by
  cases q with
  | one | many | count | delete | exec => cases h
  | insert table row | update table row clauses => exact ⟨_, if_pos h⟩

end Request

namespace Scene

variable {δ τ ε : Type}

/-- How a request that comes to a statement is answered in a session, and what becomes of the
databases. -/
structure Decided (D : Driver δ τ) (w : World (Traced δ) (Nat × τ)) (i : Nat)
    (t : Session (Nat × τ)) (q : Request) (st : Statement)
    (r : Except Failure Answer × World (Traced δ) (Nat × τ)) : Prop where
  ended : t.status ≠ .active →
    r.1 = .error .transactionClosed ∧ r.2.databases = w.databases
  cancelled : t.status = .active → w.timeline.isCancelled t.token = true →
    r.1 = .error (.statement st.sql .cancelled) ∧ r.2.databases = w.databases
  late : t.status = .active → w.timeline.isCancelled t.token = false →
    ∀ d, t.deadline = some d → d ≤ w.timeline.now →
    r.1 = .error (.statement st.sql .deadlineExceeded) ∧ r.2.databases = w.databases
  called : t.status = .active → w.timeline.isCancelled t.token = false →
    (∀ d, t.deadline = some d → w.timeline.now < d) →
    ∃ x, t.transaction = some (i, x) ∧
      (w.timeline.Undisturbed t.token t.deadline (D.delay w.databases.inner x) →
        r.2.databases = w.databases.noted i (.run q.call st)
            (D.run w.databases.inner x q.call st).2 ∧
          Request.Answered st.sql q (D.run w.databases.inner x q.call st).1 r.1)

variable {D : Driver δ τ}

theorem Kept.decided {w : World (Traced δ) (Nat × τ)} (hk : Kept w) {i : Nat}
    {t : Session (Nat × τ)} (ht : w.session? i = some t) {q : Request} {st : Statement}
    (hst : q.statement t.dialect = .ok st) : Decided D w i t q st (w.ask D.traced t q) := by
  have refused (ha : t.status = .active) (hrefuses : w.timeline.Refuses t.token t.deadline) :
      (w.ask D.traced t q).1 = .error (.statement st.sql (w.timeline.refusal t.token)) ∧
        (w.ask D.traced t q).2.databases = w.databases := by
    obtain ⟨x, hx⟩ := (hk.sound i t ht).exists_transaction ha
    have hg := hrefuses.guarded (D.traced.delay w.databases x)
    obtain ⟨hr, -, hd, -⟩ := World.ask_refused D.traced w t q hst hx (by rw [hg])
    exact ⟨hr, hd⟩
  refine ⟨?_, ?_, ?_, ?_⟩
  · intro ha
    have hx : t.transaction = none := by
      rw [← Option.not_isSome_iff_eq_none]
      exact fun hopen => ha ((hk.sound i t ht).active_iff_open.mpr hopen)
    obtain ⟨hr, -, hd⟩ := World.ask_ended D.traced w t q hst hx
    exact ⟨hr, hd⟩
  · intro ha hc
    have hrefusal : w.timeline.refusal t.token = .cancelled := if_pos hc
    rw [← hrefusal]
    exact refused ha (.inl hc)
  · intro ha hc d hd hnow
    have hrefusal : w.timeline.refusal t.token = .deadlineExceeded :=
      if_neg (Bool.eq_false_iff.mp hc)
    rw [← hrefusal]
    exact refused ha (.inr ⟨d, hd, hnow⟩)
  · intro ha hc hnow
    obtain ⟨⟨n, x⟩, hx⟩ := (hk.sound i t ht).exists_transaction ha
    obtain rfl : n = i := hk.own i t _ ht hx
    refine ⟨x, hx, fun hundisturbed => ?_⟩
    have hcheck : w.timeline.check t.token t.deadline = .ok () := by
      rw [Timeline.check_ok_iff]
      rintro (hcancelled | ⟨d, hd, hlate⟩)
      · rw [hc] at hcancelled
        cases hcancelled
      · exact absurd (hnow d hd) (Nat.not_lt_of_le hlate)
    have hg := hundisturbed.guarded hcheck
    obtain ⟨hr, -, hd, -⟩ := World.ask_allowed D.traced w t q hst hx (congrArg Prod.fst hg)
    refine ⟨hd, ?_⟩
    rw [hr]
    exact Request.answered st.sql q _

/-- In every state that a run comes to, a request leaves the sessions alone. It is refused when it
has nothing to store, and else decided on by the state of its session. -/
theorem requests_decided (D : Driver δ τ) (direct : ε → δ → δ) (d : δ) (depots : List Depot)
    (ops : List (Operation ε)) (i : Nat) (t : Session (Nat × τ)) (q : Request)
    (ht : (run D.traced (lift direct) (initial (.initial d) depots) ops).world.session? i =
      some t) :
    let w := (run D.traced (lift direct) (initial (.initial d) depots) ops).world
    let r := w.ask D.traced t q
    (run D direct (initial d depots) ops).world.ask D (t.image Prod.snd) q =
        (r.1, r.2.image Traced.inner Prod.snd) ∧
      r.2.sessions = w.sessions ∧
      if q.storesNothing then ∃ detail, r = (.error (.parameter detail), w)
      else ∃ st, q.statement t.dialect = .ok st ∧ (∀ given, q = .exec given → st = given) ∧
        Decided D w i t q st r := by
  intro w r
  refine ⟨?_, World.ask_sessions D.traced w t q, ?_⟩
  · rw [run_traced D direct d depots ops]
    exact World.image_ask (Traced.image_inner D) w t q
  · cases hstores : q.storesNothing with
    | true =>
      rw [if_pos rfl]
      obtain ⟨detail, hst⟩ := Request.statement_of_storesNothing hstores t.dialect
      exact ⟨detail, World.ask_unstated D.traced w t q hst⟩
    | false =>
      rw [if_neg (by simp)]
      obtain ⟨st, hst⟩ := Request.statement_of_stores hstores t.dialect
      refine ⟨st, hst, ?_, (kept_run D direct d depots ops).decided ht hst⟩
      rintro given rfl
      cases hst
      rfl

theorem requests_decided_failing :
    let ops : List (Operation Direction) := [.derive 0 (.timeout 100), .cancelAfter 1 50,
      .begin 0 1, .direct (.delay 5), .direct (.pushRows [[.int 3]]), .direct (.failNext "full")]
    let w := (run Recording.driver.traced (lift Stage.Direction.apply)
      (initial (.initial (.initial .default)) [⟨.default, false⟩]) ops).world
    let t : Session (Nat × Unit) :=
      ⟨.recording, .default, false, 1, some 100, 1, none, .active, some (0, ())⟩
    let r := w.ask Recording.driver.traced t (.count "t" [])
    w.session? 0 = some t ∧ w.timeline.Undisturbed t.token t.deadline 5 ∧
      r.1 = .error (.statement "select count(*) from t" (.execution "full")) ∧
      r.2.databases.inner.executed = [⟨"select count(*) from t", []⟩] ∧
      r.2.databases.inner.rows = [[[.int 3]]] := by
  intro ops w t r
  have ht : w.session? 0 = some t := rfl
  have hundisturbed : w.timeline.Undisturbed t.token t.deadline 5 := by
    refine ⟨by decide +kernel, ?_⟩
    rintro d ⟨⟩ -
    decide
  obtain ⟨-, -, st, hst, -, hdecided⟩ := requests_decided Recording.driver Stage.Direction.apply
    (.initial .default) [⟨.default, false⟩] ops 0 t (.count "t" []) ht
  cases hst
  obtain ⟨⟨⟩, -, hcalled⟩ := hdecided.called rfl (by decide +kernel) (by rintro d ⟨⟩; decide)
  obtain ⟨hd, hanswered⟩ := hcalled hundisturbed
  refine ⟨ht, hundisturbed, ?_, ?_, ?_⟩
  · have hsql : (Statement.count t.dialect "t" []).sql = "select count(*) from t" := by
      decide +kernel
    rw [← hsql]
    exact hanswered.eq_of_error rfl
  · rw [hd]
    decide +kernel
  · rw [hd]
    decide +kernel

end Scene

end UnitOfWork
