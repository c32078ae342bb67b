import UnitOfWork.Proofs.Scene.Fate
import UnitOfWork.Proofs.Scene.Kinship

namespace UnitOfWork

open Traced

variable {δ τ ε : Type}

namespace World

def withTimeline (w : World δ τ) (tl : Timeline) : World δ τ := { w with timeline := tl }

variable (D : Driver δ τ)

theorem commit_withTimeline (w : World δ τ) (i : Nat) (t : Session τ) (h1 : 1 < t.depth)
    (tl : Timeline) : (w.withTimeline tl).commit D i t =
      ((w.commit D i t).1, (w.commit D i t).2.withTimeline tl) := by
  unfold commit
  by_cases ha : t.status = .active
  · cases he : t.error with
    | some e =>
      simp only [ha, if_true]
      rfl
    | none =>
      simp only [ha, h1, if_true]
      rfl
  · simp only [ha, if_false]

theorem rollback_withTimeline (w : World δ τ) (i : Nat) (t : Session τ) (h1 : 1 < t.depth)
    (tl : Timeline) : (w.withTimeline tl).rollback D i t =
      ((w.rollback D i t).1, (w.rollback D i t).2.withTimeline tl) := by
  unfold rollback
  by_cases ha : t.status = .active
  · simp only [ha, h1, if_true]
    rfl
  · simp only [ha, if_false]

theorem commit_of_refuses {w : World δ τ} {i : Nat} {t : Session τ}
    (h : w.timeline.Refuses t.token t.deadline) :
    (w.commit D i t).2.databases = w.databases := by
  cases commit_case D w i t with
  | ended ha hr | refused e ha he h1 hc hr | absent hx hr => rw [hr]
  | poisoned e ha he hr hs hd | nested ha he h1 hr hs hd => exact hd
  | committed x ha he h1 hc | failed x e ha he h1 hc =>
    rw [h.check] at hc
    cases hc

theorem ask_of_refuses {w : World δ τ} {t : Session τ} (q : Request)
    (h : w.timeline.Refuses t.token t.deadline) :
    (∃ e, (w.ask D t q).1 = .error e) ∧ (w.ask D t q).2.databases = w.databases := by
  cases ask_case D w t q with
  | unstated e hst hr =>
    rw [hr]
    exact ⟨⟨e, rfl⟩, rfl⟩
  | ended st hst hx hr hs hd | refused st x e hst hx hg hr hs hd => exact ⟨⟨_, hr⟩, hd⟩
  | allowed st x hst hx hg =>
    rw [h.guarded] at hg
    cases hg

theorem begin_captures (w : World δ τ) (k : Nat) (depot : Depot) (c : Context)
    (hnew : (w.begin D k depot c).2.sessions.length = w.sessions.length + 1) :
    ∃ t, (w.begin D k depot c).2.session? w.sessions.length = some t ∧ t.token = c.token ∧
      t.deadline = c.deadline := by
  cases begin_case D w k depot c with
  | refused e hr hs =>
    rw [hs] at hnew
    omega
  | joined i hc hr hs => omega
  | started x database hc hr hs =>
    refine ⟨World.begun database depot c x, ?_, rfl, rfl⟩
    rw [session?_of_append hs, if_pos rfl]

end World

namespace Scene

structure Halted (i : Nat) (w : World δ τ) : Prop where
  begun : i < w.sessions.length
  refuses : ∀ t, w.session? i = some t → w.timeline.Refuses t.token t.deadline

variable {D : Driver δ τ} {direct : ε → δ → δ}

variable (D direct) in
theorem Halted.step {s : Scene δ τ} {i : Nat} (h : Halted i s.world) (o : Operation ε) :
    Halted i (step D direct s o).world := by
  have hchange := change_step D direct s o
  refine ⟨Nat.lt_of_lt_of_le h.begun (length_le_of_change hchange), ?_⟩
  intro t' ht'
  obtain ⟨t, ht, htoken, hdeadline⟩ := hchange.captured h.begun ht'
  rw [htoken, hdeadline]
  exact (h.refuses t ht).later (passage_step D direct s o).later

variable (D direct) in
theorem Halted.calls {s : Scene (Traced δ) (Nat × τ)} {i : Nat} (h : Halted i s.world)
    (hk : Kept s.world) (o : Operation ε) :
    let s' := Scene.step D.traced (lift direct) s o
    uses i s'.world.databases.log = uses i s.world.databases.log ∨ Ended i s'.world ∧
      ∃ ok, uses i s'.world.databases.log = uses i s.world.databases.log ++ [.rollback ok] := by
  intro s'
  have hle := length_le_of_change (change_step D.traced (lift direct) s o)
  have hbegun := Nat.lt_of_lt_of_le h.begun hle
  cases hk.result (change_step D.traced (lift direct) s o) h.begun with
  | alone hs hu => exact .inl hu
  | made t us ht hf hu =>
    have hrefuses := h.refuses t ht
    generalize hx : (Scene.step D.traced (lift direct) s o).world.session? i = x at hf
    cases hf with
    | asked ha q st =>
      have hstep : s'.world = (s.world.ask D.traced t q).2 := step_ask D.traced _ ht q
      exact .inl (by rw [hstep, (World.ask_of_refuses D.traced q hrefuses).2])
    | committed ha h1 status us he hs =>
      have hstep : s'.world = (s.world.commit D.traced i t).2 := step_commit D.traced _ ht
      exact .inl (by rw [hstep, World.commit_of_refuses D.traced hrefuses])
    | rolledBack ha h1 ok =>
      refine .inr ⟨⟨hbegun, ?_⟩, ok, hu⟩
      intro t' ht'
      rw [hx] at ht'
      cases ht'
      simp [Session.finished]
    | droppedOpen ha ok =>
      refine .inr ⟨⟨hbegun, ?_⟩, ok, hu⟩
      intro t' ht'
      rw [hx] at ht'
      cases ht'
    | joined ha k c => exact .inl (by rw [hu, List.append_nil])
    | marked e => exact .inl (by rw [hu, List.append_nil])
    | left ha he h1 => exact .inl (by rw [hu, List.append_nil])
    | failed ha h1 => exact .inl (by rw [hu, List.append_nil])
    | dropped runtime => exact .inl (by rw [hu, List.append_nil])

theorem Halted.run {s : Scene (Traced δ) (Nat × τ)} {i : Nat} (h : Halted i s.world)
    (hk : Kept s.world) (ops : List (Operation ε)) :
    Halted i (run D.traced (lift direct) s ops).world ∧
      ∃ us, uses i (run D.traced (lift direct) s ops).world.databases.log =
        uses i s.world.databases.log ++ us ∧ (us = [] ∨ ∃ ok, us = [.rollback ok]) := by
  induction ops generalizing s with
  | nil => exact ⟨h, [], (List.append_nil _).symm, .inl rfl⟩
  | cons o ops ih =>
    have hk' : Kept (Scene.step D.traced (lift direct) s o).world := hk.step o
    obtain ⟨hhalted, us, hus, hcalls⟩ := ih (h.step D.traced (lift direct) o) hk'
    refine ⟨hhalted, ?_⟩
    obtain hnone | ⟨hended, ok, hok⟩ := h.calls D direct hk o
    · rw [hnone] at hus
      exact ⟨us, hus, hcalls⟩
    · -- after the rollback nothing more is called
      exact ⟨[.rollback ok], (hended.run hk' ops).calls.trans hok, .inr ⟨ok, rfl⟩⟩

section events

variable (D : Driver δ τ) (direct : ε → δ → δ)

def Acquired (s : Scene δ τ) (ops : List (Operation ε)) (i c : Nat) : Prop :=
  ∃ before k after, ops = before ++ .begin k c :: after ∧
    (run D direct s before).world.sessions.length = i ∧
    (step D direct (run D direct s before) (.begin k c)).world.sessions.length = i + 1

inductive Cancelled (s : Scene δ τ) (ops : List (Operation ε)) (c : Nat) : Prop where
  | now (before after : List (Operation ε)) (ho : ops = before ++ .cancel c :: after)
      (hc : c < (run D direct s before).contexts.length) : Cancelled s ops c
  | alarm (before after : List (Operation ε)) (ms : Nat)
      (ho : ops = before ++ .cancelAfter c ms :: after)
      (hc : c < (run D direct s before).contexts.length)
      (hdue : (run D direct s before).world.timeline.now + ms ≤
        (run D direct s ops).world.timeline.now) : Cancelled s ops c

inductive Interrupted (s : Scene δ τ) (ops : List (Operation ε)) (i : Nat) : Prop where
  | cancelled (c a : Nat) (hi : Acquired D direct s ops i c) (hg : Governs D direct s ops a c)
      (ha : Cancelled D direct s ops a) : Interrupted s ops i
  | expired (c instant : Nat) (x : Context) (hi : Acquired D direct s ops i c)
      (hx : (run D direct s ops).contexts[c]? = some x) (hd : x.deadline = some instant)
      (hnow : instant ≤ (run D direct s ops).world.timeline.now) : Interrupted s ops i

theorem token_of_cancelled (d : δ) (depots : List Depot) (ops : List (Operation ε)) {c : Nat}
    (h : Cancelled D direct (initial d depots) ops c) :
    ∃ x, (run D direct (initial d depots) ops).contexts[c]? = some x ∧
      x.token ∈ (run D direct (initial d depots) ops).world.timeline.cancelled := by
  cases h with
  | now before after ho hc =>
    let s := run D direct (initial d depots) before
    let s' := step D direct s (.cancel c)
    have hr : run D direct (initial d depots) ops = run D direct s' after := by
      rw [ho, run_append]
      rfl
    have hx : s.contexts[c]? = some s.contexts[c] := List.getElem?_eq_getElem hc
    have hstep : s' = s.withTimeline (s.world.timeline.cancel s.contexts[c].token) := by
      simp only [s', step, onContext, hx]
    rw [hr]
    refine ⟨s.contexts[c], context_of_prefix (contexts_run D direct s' after) ?_,
      (later_run D direct s' after).cancelled ?_⟩
    · rw [hstep]
      exact hx
    · rw [hstep]
      exact List.mem_cons_self
  | alarm before after ms ho hc hdue =>
    let s := run D direct (initial d depots) before
    let s' := step D direct s (.cancelAfter c ms)
    have hr : run D direct (initial d depots) ops = run D direct s' after := by
      rw [ho, run_append]
      rfl
    have hx : s.contexts[c]? = some s.contexts[c] := List.getElem?_eq_getElem hc
    have hstep : s' = s.withTimeline (s.world.timeline.cancelAfter s.contexts[c].token ms) := by
      simp only [s', step, onContext, hx]
    have hl := later_run D direct s' after
    have hsound := (rooted_run D direct d depots ops).sound
    refine ⟨s.contexts[c], ?_, ?_⟩
    · rw [hr]
      refine context_of_prefix (contexts_run D direct s' after) ?_
      rw [hstep]
      exact hx
    · by_cases hms : ms = 0
      · rw [hr]
        refine hl.cancelled ?_
        rw [hstep, hms]
        exact List.mem_cons_self
      · have ha : ⟨s.world.timeline.now + ms, s.contexts[c].token⟩ ∈ s'.world.timeline.alarms := by
          rw [hstep]
          simp [withTimeline, Timeline.cancelAfter, hms]
        rw [hr] at hsound hdue ⊢
        obtain hwaits | hm := hl.alarms _ ha
        · exact absurd hdue (Nat.not_le_of_lt (hsound.waiting _ hwaits))
        · exact hm

theorem begin_captures {s : Scene δ τ} {k c : Nat}
    (hnew : (step D direct s (.begin k c)).world.sessions.length = s.world.sessions.length + 1) :
    ∃ x t, s.contexts[c]? = some x ∧
      (step D direct s (.begin k c)).world.session? s.world.sessions.length = some t ∧
      t.token = x.token ∧ t.deadline = x.deadline := by
  cases hx : s.contexts[c]? with
  | none =>
    simp only [step, onContext, hx] at hnew
    omega
  | some x =>
    have hstep : step D direct s (.begin k c) = s.begin D k x := by
      simp only [step, onContext, hx]
    rw [hstep] at hnew ⊢
    obtain hsame | ⟨depot, hbegin⟩ := begin_world D s k x
    · rw [hsame] at hnew
      omega
    · rw [hbegin] at hnew ⊢
      obtain ⟨t, ht, hcaptured⟩ := World.begin_captures D s.world k depot x hnew
      exact ⟨x, t, rfl, ht, hcaptured⟩

theorem captured_of_acquired (d : δ) (depots : List Depot) (ops : List (Operation ε)) {i c : Nat}
    (h : Acquired D direct (initial d depots) ops i c) :
    let r := run D direct (initial d depots) ops
    i < r.world.sessions.length ∧ ∃ x, r.contexts[c]? = some x ∧
      ∀ t, r.world.session? i = some t → t.token = x.token ∧ t.deadline = x.deadline := by
  obtain ⟨before, k, after, rfl, hi, hnew⟩ := h
  let s := run D direct (initial d depots) before
  let s' := step D direct s (.begin k c)
  obtain ⟨x, t, hx, ht, htoken, hdeadline⟩ := begin_captures D direct (s := s) (by rw [hnew, hi])
  rw [hi] at ht
  have hbegun : i < s'.world.sessions.length := World.lt_of_session? ht
  have hr : run D direct (initial d depots) (before ++ .begin k c :: after) =
      run D direct s' after := run_append ..
  intro r
  have hcontexts := contexts_run D direct s (.begin k c :: after)
  refine ⟨?_, x, ?_, ?_⟩
  · simp only [r, hr]
    exact Nat.lt_of_lt_of_le hbegun (length_le_run D direct s' after)
  · simp only [r, hr]
    exact context_of_prefix hcontexts hx
  · intro t' ht'
    simp only [r, hr] at ht'
    obtain ⟨t₁, ht₁, htoken₁, hdeadline₁⟩ := captured_run D direct s' hbegun after ht'
    rw [ht] at ht₁
    cases ht₁
    exact ⟨htoken₁.trans htoken, hdeadline₁.trans hdeadline⟩

end events

variable {D : Driver δ τ} {direct : ε → δ → δ}

theorem Interrupted.halted {d : δ} {depots : List Depot} {ops : List (Operation ε)} {i : Nat}
    (h : Interrupted D.traced (lift direct) (initial (.initial d) depots) ops i) :
    Halted i (run D.traced (lift direct) (initial (.initial d) depots) ops).world := by
  cases h with
  | cancelled c a hi hg ha =>
    obtain ⟨hbegun, x, hx, hcaptured⟩ := captured_of_acquired D.traced (lift direct) _ depots ops hi
    obtain ⟨y, hy, hcancelled⟩ := token_of_cancelled D.traced (lift direct) _ depots ops ha
    obtain ⟨y', x', hy', hx', hm⟩ := above_of_governs D.traced (lift direct) _ depots ops hg
      (List.getElem?_eq_some_iff.mp hy).1
    rw [hy] at hy'
    rw [hx] at hx'
    cases hy'
    cases hx'
    refine ⟨hbegun, fun t ht => .inl ?_⟩
    simp only [Timeline.isCancelled, (hcaptured t ht).1, List.any_eq_true, List.contains_iff_mem]
    exact ⟨y.token, hm, hcancelled⟩
  | expired c instant x hi hx hd hnow =>
    obtain ⟨hbegun, x', hx', hcaptured⟩ := captured_of_acquired D.traced (lift direct) _ depots ops hi
    rw [hx] at hx'
    cases hx'
    refine ⟨hbegun, fun t ht => .inr ⟨instant, ?_, hnow⟩⟩
    rw [(hcaptured t ht).2, hd]

/-- Of a session nothing is called any more but one rollback. Statements and the commit of its last
unit of work are refused; its other units of work end as they do at any other time; and its last one
can be rolled back. -/
structure OnlyRollback (D : Driver (Traced δ) (Nat × τ)) (i : Nat)
    (w w' : World (Traced δ) (Nat × τ)) : Prop where
  calls : ∃ us, uses i w'.databases.log = uses i w.databases.log ++ us ∧
    (us = [] ∨ ∃ ok, us = [.rollback ok])
  ask : ∀ t q, w'.session? i = some t →
    (∃ e, (w'.ask D t q).1 = .error e) ∧ (w'.ask D t q).2.databases = w'.databases
  commit : ∀ t, w'.session? i = some t → t.status = .active → t.error = none → t.depth = 1 →
    w'.commit D i t = (.error (w'.timeline.refusal t.token), w')
  nested : ∀ t, w'.session? i = some t → t.status = .active → 1 < t.depth →
    (w'.commit D i t).2.databases = w'.databases ∧
    (w'.rollback D i t).2.databases = w'.databases ∧
    ∀ tl, (w'.withTimeline tl).commit D i t =
        ((w'.commit D i t).1, (w'.commit D i t).2.withTimeline tl) ∧
      (w'.withTimeline tl).rollback D i t =
        ((w'.rollback D i t).1, (w'.rollback D i t).2.withTimeline tl)
  rollback : ∀ t, w'.session? i = some t → t.status = .active → t.depth = 1 →
    ∃ x t' ok, t.transaction = some x ∧ (w'.rollback D i t).1 = (D.rollback w'.databases x).1 ∧
      (w'.rollback D i t).2.session? i = some t' ∧ t'.status = .rolledBack ∧
      uses i (w'.rollback D i t).2.databases.log = uses i w'.databases.log ++ [.rollback ok]

/-- In every run all that can still be called of a session is one rollback, once its context or one
that governs it has been cancelled, or its deadline has passed. -/
theorem only_rollback_after_interruption (D : Driver δ τ) (direct : ε → δ → δ) (d : δ)
    (depots : List Depot) (before after : List (Operation ε)) (i : Nat)
    (h : Interrupted D.traced (lift direct) (initial (.initial d) depots) before i) :
    let s := run D.traced (lift direct) (initial (.initial d) depots) before
    let r := run D.traced (lift direct) (initial (.initial d) depots) (before ++ after)
    run D direct (initial d depots) (before ++ after) = r.image Traced.inner Prod.snd ∧
      OnlyRollback D.traced i s.world r.world := by
  intro s r
  have hr : r = run D.traced (lift direct) s after := run_append ..
  have hk : Kept r.world := kept_run D direct d depots (before ++ after)
  obtain ⟨hhalted, hcalls⟩ := h.halted.run (kept_run D direct d depots before) after
  rw [← hr] at hhalted hcalls
  refine ⟨run_traced D direct d depots _, hcalls, ?_, ?_, ?_, ?_⟩
  · intro t q ht
    exact World.ask_of_refuses D.traced q (hhalted.refuses t ht)
  · intro t ht ha he h1
    exact World.commit_refused D.traced r.world i t ha he (by omega) (hhalted.refuses t ht).check
  · intro t ht ha h1
    refine ⟨World.commit_of_refuses D.traced (hhalted.refuses t ht),
      (World.rollback_nested D.traced r.world i t ha h1).2.2, fun tl => ?_⟩
    exact ⟨World.commit_withTimeline D.traced r.world i t h1 tl,
      World.rollback_withTimeline D.traced r.world i t h1 tl⟩
  · intro t ht ha h1
    obtain ⟨x, hx⟩ := (hk.sound i t ht).exists_transaction ha
    obtain ⟨hanswer, hs, hd⟩ := World.rollback_outermost D.traced r.world i t ha (by omega) hx
    refine ⟨x, _, (D.traced.rollback r.world.databases x).1.isOk, hx, hanswer,
      World.session?_of_set_self ht hs, rfl, ?_⟩
    rw [hd, release_log, rollback_log, uses_append, hk.own i t x ht hx, uses_same]

theorem only_rollback_after_cancelled_ancestor :
    let before : List (Operation Direction) :=
      [.derive 0 .cancellation, .derive 1 (.timeout 1000), .begin 0 2, .begin 0 3, .cancel 1]
    let after : List (Operation Direction) := [.ask 0 (.exec ⟨"insert", []⟩), .commit 0, .commit 0]
    let start := initial (.initial (.initial .default)) [⟨.default, false⟩]
    let s := run Recording.driver.traced (lift Stage.Direction.apply) start before
    let r := run Recording.driver.traced (lift Stage.Direction.apply) start (before ++ after)
    Interrupted Recording.driver.traced (lift Stage.Direction.apply) start before 0 ∧
      (r.world.session? 0).map (fun t => (t.status, t.depth)) = some (.active, 1) ∧
      OnlyRollback Recording.driver.traced 0 s.world r.world := by
  intro before after start s r
  have hacquired :
      Acquired Recording.driver.traced (lift Stage.Direction.apply) start before 0 2 :=
    ⟨before.take 2, 0, before.drop 3, rfl, rfl, rfl⟩
  have hgoverns : Governs Recording.driver.traced (lift Stage.Direction.apply) start before 1 2 :=
    .single (.down (o := .derive 1 (.timeout 1000))
      ⟨rfl, before.take 1, before.drop 2, rfl, rfl, rfl⟩)
  have hcancelled : Cancelled Recording.driver.traced (lift Stage.Direction.apply) start before 1 :=
    .now (before.take 4) [] rfl (by decide)
  have hinterrupted :
      Interrupted Recording.driver.traced (lift Stage.Direction.apply) start before 0 :=
    .cancelled 2 1 hacquired hgoverns hcancelled
  obtain ⟨-, honly⟩ := only_rollback_after_interruption Recording.driver Stage.Direction.apply
    (.initial .default) [⟨.default, false⟩] before after 0 hinterrupted
  exact ⟨hinterrupted, by decide +kernel, honly⟩

end Scene

end UnitOfWork
