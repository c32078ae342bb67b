import UnitOfWork.Proofs.Driver.Plain
import UnitOfWork.Proofs.Scene
import UnitOfWork.Proofs.Timeline
import UnitOfWork.Stage

namespace UnitOfWork.Scene

variable {δ τ ε : Type} (D : Driver δ τ) (direct : ε → δ → δ) (s : Scene δ τ)

inductive FailsWith : Operation ε → Failure → Prop where
  | begin {k c : Nat} {x : Context} {depot : Depot} {e : Failure} (hx : s.contexts[c]? = some x)
      (hdepot : s.world.depots[k]? = some depot)
      (h : (s.world.begin D k depot x).1 = .error e) : FailsWith (.begin k c) e
  | commit {i : Nat} {t : Session τ} {e : Failure} (ht : s.world.session? i = some t)
      (h : (s.world.commit D i t).1 = .error e) : FailsWith (.commit i) e
  | rollback {i : Nat} {t : Session τ} {e : Failure} (ht : s.world.session? i = some t)
      (h : (s.world.rollback D i t).1 = .error e) : FailsWith (.rollback i) e
  | ask {i : Nat} {t : Session τ} {q : Request} {e : Failure} (ht : s.world.session? i = some t)
      (h : (s.world.ask D t q).1 = .error e) : FailsWith (.ask i q) e

inductive Unmatched : Operation ε → Prop where
  | query {i : Nat} {t : Session τ} {x : τ} {columns : List String} {table : String}
      {clauses : List Clause} (ht : s.world.session? i = some t) (hx : t.transaction = some x)
      (hg : (s.world.timeline.guarded t.token t.deadline (D.delay s.world.databases x)).1 = .ok ())
      (hr : (D.run s.world.databases x (.first columns)
        (Statement.select t.dialect columns table clauses)).1 = .ok (none : Option Row)) :
    Unmatched (.ask i (.one columns table clauses))

inductive Refused : Operation ε → Failure → Prop where
  | commit {i : Nat} {t : Session τ} {cause : Failure} (ht : s.world.session? i = some t)
      (ha : t.status = .active) (he : t.error = some cause) : Refused (.commit i) cause

def governing? : Operation ε → Option (Nat × Option Nat)
  | .begin _ c => s.contexts[c]?.map fun x => (x.token, x.deadline)
  | .commit i | .rollback i | .ask i _ =>
    (s.world.session? i).map fun t => (t.token, t.deadline)
  | _ => none

def GivenUp (o : Operation ε) (cause : Failure) : Prop :=
  ∃ token deadline, governing? s o = some (token, deadline) ∧
    (step D direct s o).world.timeline.Halts token deadline cause

inductive Cause (o : Operation ε) : Failure → Prop where
  | plain {e : Failure} (h : e.isPlain = true) : Cause o e
  | unmatched (h : Unmatched D s o) : Cause o .noResult
  | refused {cause : Failure} (h : Refused s o cause) : Cause o (.poisoned cause)
  | givenUp {cause : Failure} (h : GivenUp D direct s o cause) : Cause o cause
  | statementGivenUp (sql : String) {cause : Failure} (h : GivenUp D direct s o cause) :
    Cause o (.statement sql cause)

variable {D direct s} {i : Nat} {t : Session τ} {e : Failure}

theorem cause_of_begin (hD : D.Plain) {k c : Nat} {x : Context} {depot : Depot}
    (hx : s.contexts[c]? = some x) (hdepot : s.world.depots[k]? = some depot)
    (h : (s.world.begin D k depot x).1 = .error e) : Cause D direct s (.begin k c) e := by
  have hstep := step_begin D direct hx hdepot
  rw [World.begin] at h hstep
  cases hsession : x.session with
  | some i =>
    simp only [hsession] at h
    rw [World.join_error (error_of_map h)]
    exact .plain rfl
  | none =>
    simp only [hsession] at h hstep
    have hstart := error_of_map h
    cases World.start_case D s.world k depot x with
    | refused f hg hf =>
      rw [hf] at hstart hstep
      cases hstart
      refine .givenUp ⟨x.token, x.deadline, by simp [governing?, hx], ?_⟩
      rw [hstep]
      exact Timeline.guarded_halts hg
    | denied f hg hb hr hs hd =>
      rw [hr] at hstart
      cases hstart
      exact .plain (hD.begin _ _ _ hb)
    | begun y hg hb hr hs hd =>
      rw [hr] at hstart
      cases hstart

theorem cause_of_commit (hD : D.Plain) (ht : s.world.session? i = some t)
    (h : (s.world.commit D i t).1 = .error e) : Cause D direct s (.commit i) e := by
  cases World.commit_case D s.world i t with
  | ended ha hf | absent hx hf =>
    rw [hf] at h
    cases h
    exact .plain rfl
  | poisoned cause ha he hr hs hd =>
    rw [hr] at h
    cases h
    exact .refused (.commit ht ha he)
  | nested ha he h1 hr hs hd | committed x ha he h1 hc hx hb hr hs hd =>
    rw [hr] at h
    cases h
  | refused f ha he h1 hc hf =>
    have hstep := step_commit D direct ht
    rw [hf] at h hstep
    cases h
    refine .givenUp ⟨t.token, t.deadline, by simp [governing?, ht], ?_⟩
    rw [hstep]
    exact Timeline.check_halts hc
  | failed x f ha he h1 hc hx hb hr hs hd =>
    rw [hr] at h
    cases h
    exact .plain (hD.commit _ _ _ hb)

theorem isPlain_of_rollback (hD : D.Plain) (h : (s.world.rollback D i t).1 = .error e) :
    e.isPlain = true := by
  cases World.rollback_case D s.world i t with
  | ended ha hf | absent hx hf =>
    rw [hf] at h
    cases h
  | nested ha h1 hr hs hd =>
    rw [hr] at h
    cases h
  | outermost x ha h1 hx hr hs hd =>
    rw [hr] at h
    exact hD.rollback _ _ _ h

theorem cause_of_ask (hD : D.Plain) (ht : s.world.session? i = some t) {q : Request}
    (h : (s.world.ask D t q).1 = .error e) : Cause D direct s (.ask i q) e := by
  cases World.ask_case D s.world t q with
  | unstated f hst hf =>
    rw [hf] at h
    cases h
    obtain ⟨detail, rfl⟩ := Request.statement_error hst
    exact .plain rfl
  | ended st hst hx hr hs hd hl =>
    rw [hr] at h
    cases h
    exact .plain rfl
  | refused st x f hst hx hg hr hs hd hl =>
    rw [hr] at h
    cases h
    refine .statementGivenUp st.sql ⟨t.token, t.deadline, by simp [governing?, ht], ?_⟩
    rw [step_ask D direct ht q, hl]
    exact Timeline.guarded_halts hg
  | allowed st x hst hx hg hr hs hd hl =>
    rw [hr] at h
    cases hrun : (D.run s.world.databases x q.call st).1 with
    | error f =>
      rw [hrun] at h
      cases h
      have hplain : f.isPlain = true := hD.run _ _ _ _ _ hrun
      exact .plain hplain
    | ok f =>
      rw [hrun] at h
      cases Request.answer_error h with
      | noRow columns table clauses =>
        cases hst
        exact .unmatched (.query ht hx hg hrun)
      | noNumber table clauses found detail => exact .plain rfl

theorem failsWith_of_unmatched {o : Operation ε} (h : Unmatched D s o) :
    FailsWith D s o .noResult := by
  cases h with
  | @query i t x columns table clauses ht hx hg hr =>
    let q : Request := .one columns table clauses
    have hrun : (D.run s.world.databases x q.call
        (Statement.select t.dialect columns table clauses)).1 = .ok (none : Option Row) := hr
    refine .ask ht ?_
    rw [(World.ask_allowed D s.world t q rfl hx hg).1, hrun]
    rfl

theorem failsWith_of_refused {o : Operation ε} {cause : Failure} (h : Refused s o cause) :
    FailsWith D s o (.poisoned cause) := by
  cases h with
  | commit ht ha he => exact .commit ht (World.commit_of_error D s.world _ _ ha he).1

theorem FailsWith.unique {o : Operation ε} {e' : Failure} (h : FailsWith D s o e)
    (h' : FailsWith D s o e') : e' = e := by
  cases h <;> cases h' <;> simp_all

theorem cause_of_failsWith (hD : D.Plain) {o : Operation ε} (h : FailsWith D s o e) :
    Cause D direct s o e := by
  cases h with
  | begin hx hdepot h => exact cause_of_begin hD hx hdepot h
  | commit ht h => exact cause_of_commit hD ht h
  | rollback ht h => exact .plain (isPlain_of_rollback hD h)
  | ask ht h => exact cause_of_ask hD ht h

theorem GivenUp.cause_eq {o : Operation ε} {cause : Failure} (h : GivenUp D direct s o cause) :
    cause = .cancelled ∨ cause = .deadlineExceeded := by
  obtain ⟨token, deadline, -, h⟩ := h
  cases h with
  | cancelled h => exact .inl rfl
  | late d hd h => exact .inr rfl

namespace Cause

variable {o : Operation ε}

theorem unmatched_of_isNoResult (h : Cause D direct s o e) (he : e.isNoResult = true) :
    Unmatched D s o := by
  cases h with
  | plain hplain =>
    rw [(Failure.silent_of_isPlain hplain).noResult] at he
    cases he
  | unmatched h => exact h
  | refused h => cases he
  | givenUp h => obtain rfl | rfl := h.cause_eq <;> cases he
  | statementGivenUp sql h => obtain rfl | rfl := h.cause_eq <;> cases he

theorem refused_of_isPoisoned (h : Cause D direct s o e) (he : e.isPoisoned = true) :
    ∃ cause, e = .poisoned cause ∧ Refused s o cause := by
  cases h with
  | plain hplain =>
    rw [(Failure.silent_of_isPlain hplain).poisoned] at he
    cases he
  | unmatched h => cases he
  | refused h => exact ⟨_, rfl, h⟩
  | givenUp h => obtain rfl | rfl := h.cause_eq <;> cases he
  | statementGivenUp sql h => cases he

theorem isPoisoned_of_isRolledBack (h : Cause D direct s o e) (he : e.isRolledBack = true) :
    e.isPoisoned = true := by
  cases h with
  | plain hplain =>
    rw [(Failure.silent_of_isPlain hplain).rolledBack] at he
    cases he
  | unmatched h => cases he
  | refused h => rfl
  | givenUp h => obtain rfl | rfl := h.cause_eq <;> cases he
  | statementGivenUp sql h => cases he

theorem givenUp_of_isCancelled (h : Cause D direct s o e) (he : e.isCancelled = true) :
    ∃ cause, GivenUp D direct s o cause ∧ (e = cause ∨ ∃ sql, e = .statement sql cause) := by
  cases h with
  | plain hplain =>
    rw [(Failure.silent_of_isPlain hplain).cancelled] at he
    cases he
  | unmatched h => cases he
  | refused h => cases he
  | givenUp h => exact ⟨_, h, .inl rfl⟩
  | statementGivenUp sql h => exact ⟨_, h, .inr ⟨sql, rfl⟩⟩

end Cause

variable (D direct s) in
structure Truthful (o : Operation ε) (e : Failure) : Prop where
  noResult : e.isNoResult = true ↔ Unmatched D s o
  cancelled : e.isCancelled = true →
    ∃ cause, GivenUp D direct s o cause ∧ (e = cause ∨ ∃ sql, e = .statement sql cause)
  poisoned : e.isPoisoned = true ↔ ∃ cause, Refused s o cause
  rolledBack : e.isRolledBack = true ↔ ∃ n, Refused s o (.rolledBackUnder n)
  noResult_alone : e.isNoResult = true → e.isCancelled = false ∧ e.isPoisoned = false
  poisoned_alone : e.isPoisoned = true → e.isNoResult = false ∧ e.isCancelled = false

/-- In every state, with any driver that fails plainly, and whatever failures have been recorded:
what is told of a failure of an operation is true, and a query that matches no row fails by having
no result. -/
theorem predicates_tell_the_truth (hD : D.Plain) (direct : ε → δ → δ) (s : Scene δ τ)
    (o : Operation ε) :
    (∀ e, FailsWith D s o e → Truthful D direct s o e) ∧
      (Unmatched D s o → ∃ e, FailsWith D s o e ∧ e.isNoResult = true) := by
  refine ⟨?_, fun h => ⟨.noResult, failsWith_of_unmatched h, rfl⟩⟩
  intro e h
  have hcause : Cause D direct s o e := cause_of_failsWith hD h
  have hrefused {cause : Failure} (hr : Refused s o cause) : e = .poisoned cause :=
    (failsWith_of_refused hr).unique h
  have hpoisoned : e.isPoisoned = true → e.isNoResult = false ∧ e.isCancelled = false := by
    intro he
    obtain ⟨cause, rfl, -⟩ := hcause.refused_of_isPoisoned he
    exact ⟨rfl, rfl⟩
  refine ⟨⟨hcause.unmatched_of_isNoResult, ?_⟩, hcause.givenUp_of_isCancelled, ⟨?_, ?_⟩,
    ⟨?_, ?_⟩, ?_, hpoisoned⟩
  · intro hu
    rw [(failsWith_of_unmatched hu).unique h]
    rfl
  · intro he
    obtain ⟨cause, -, hr⟩ := hcause.refused_of_isPoisoned he
    exact ⟨cause, hr⟩
  · rintro ⟨cause, hr⟩
    rw [hrefused hr]
    rfl
  · intro he
    obtain ⟨cause, rfl, hr⟩ := hcause.refused_of_isPoisoned (hcause.isPoisoned_of_isRolledBack he)
    obtain ⟨n, rfl⟩ := Failure.isRolledBack_iff.mp (show cause.isRolledBack = true from he)
    exact ⟨n, hr⟩
  · rintro ⟨n, hr⟩
    rw [hrefused hr]
    exact Failure.isRolledBack_iff.mpr ⟨n + 1, rfl⟩
  · intro he
    refine ⟨Failure.not_isCancelled_of_isNoResult he, Bool.eq_false_iff.mpr fun hp => ?_⟩
    rw [(hpoisoned hp).1] at he
    cases he

theorem predicates_tell_the_truth_nested :
    let direct (x : Direction) (ds : List Backend) :=
      ds.map (Backend.direct (Stage.Direction.apply x))
    let start := run Backend.driver direct
      (initial [.inl (.initial .default)] [⟨.default, false⟩]) [.begin 0 0]
    let marked := run Backend.driver direct start [.setError 0 (some (.poisoned .rolledBack))]
    let miss : Operation Direction := .ask 0 (.one ["id"] "messages" [])
    let commit : Operation Direction := .commit 0
    let refused : Failure := .poisoned (.poisoned .rolledBack)
    (∃ e, FailsWith Backend.driver start miss e ∧ e.isNoResult = true ∧
        Truthful Backend.driver direct start miss e) ∧
      FailsWith Backend.driver marked commit refused ∧ refused.isRolledBack = true ∧
        Truthful Backend.driver direct marked commit refused := by
  intro direct start marked miss commit refused
  let t : Session Backend.Transaction :=
    ⟨.recording, .default, false, 0, none, 1, none, .active, some (0, .inl ())⟩
  let t' : Session Backend.Transaction := { t with error := some (.poisoned .rolledBack) }
  have ht : start.world.session? 0 = some t := rfl
  have ht' : marked.world.session? 0 = some t' := rfl
  have hmiss : Unmatched Backend.driver start miss := .query ht rfl rfl rfl
  have hrefused : FailsWith Backend.driver marked commit refused :=
    failsWith_of_refused (.commit ht' rfl rfl)
  obtain ⟨htruth, hconverse⟩ :=
    predicates_tell_the_truth Backend.plain_driver direct start miss
  obtain ⟨htruth', -⟩ := predicates_tell_the_truth Backend.plain_driver direct marked commit
  obtain ⟨e, he, hnone⟩ := hconverse hmiss
  exact ⟨⟨e, he, hnone, htruth e he⟩, hrefused, rfl, htruth' _ hrefused⟩

end UnitOfWork.Scene
