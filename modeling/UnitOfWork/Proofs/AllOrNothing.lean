import UnitOfWork.Proofs.Timeline
import UnitOfWork.Proofs.UnitTree
import UnitOfWork.Recording

namespace UnitOfWork

open Traced

structure Live {δ τ : Type} (w : World δ τ) (i : Nat) (t : Session τ) (x : τ) : Prop where
  session : w.session? i = some t
  active : t.status = .active
  transaction : t.transaction = some x
  deadline : t.deadline = none
  calm : w.timeline.Calm t.token

namespace Live

variable {δ τ : Type} {w : World δ τ} {i : Nat} {t : Session τ} {x : τ}

theorem of_set {w' : World δ τ} (h : Live w i t x) (depth : Nat) (e : Option Failure)
    (hs : w'.sessions = w.sessions.set i (some { t with depth := depth, error := e }))
    (ht : w'.timeline = w.timeline) :
    Live w' i { t with depth := depth, error := e } x := by
  refine ⟨?_, h.active, h.transaction, h.deadline, ?_⟩
  · exact World.session?_of_set_self h.session hs
  · rw [ht]
    exact h.calm

variable (D : Driver δ τ)

theorem join (h : Live w i t x) (k : Nat) (depot : Depot) {c : Context} (hc : c.session = some i) :
    (w.begin D k depot c).1 = .ok (i, c) ∧
      Live (w.begin D k depot c).2 i { t with depth := t.depth + 1 } x ∧
      (w.begin D k depot c).2.databases = w.databases := by
  obtain ⟨hr, hs, hd, ht⟩ := World.join_active w i t h.session h.active
  have hb : w.begin D k depot c = ((w.join i).1.map fun i => (i, c), (w.join i).2) := by
    rw [World.begin, hc]
  rw [hb, hr]
  exact ⟨rfl, h.of_set _ _ hs ht, hd⟩

theorem commit_poisoned (h : Live w i t x) {e : Failure} (he : t.error = some e) :
    (w.commit D i t).1 = .error (.poisoned e) ∧ Live (w.commit D i t).2 i t x ∧
      (w.commit D i t).2.databases = w.databases := by
  obtain ⟨hr, hs, hd⟩ := World.commit_of_error D w i t h.active he
  refine ⟨hr, ⟨?_, h.active, h.transaction, h.deadline, ?_⟩, hd⟩
  · rw [World.session?_of_eq hs, h.session]
  · simp only [World.commit, h.active, he]
    exact h.calm

theorem finish_nested (h : Live w i t x) (h1 : 1 < t.depth) (f : Finish) :
    ∃ e, Live (w.finish D i f) i { t with depth := t.depth - 1, error := e } x ∧
      e.isSome = (t.error.isSome || f = .rollback) ∧
      (w.finish D i f).databases = w.databases := by
  have hrollback (w' : World δ τ) (h' : Live w' i t x) :
      ∃ e, Live (w'.rollbackIn D i) i { t with depth := t.depth - 1, error := e } x ∧
        e.isSome = true ∧ (w'.rollbackIn D i).databases = w'.databases := by
    obtain ⟨-, hs, hd⟩ := World.rollback_nested D w' i t h.active h1
    rw [World.rollbackIn_of_session? D h'.session]
    exact ⟨_, h'.of_set _ _ hs (World.rollback_timeline D w' i t h1), rfl, hd⟩
  cases f with
  | rollback =>
    obtain ⟨e, hl, he, hd⟩ := hrollback w h
    exact ⟨e, hl, by simp [he], hd⟩
  | commit =>
    cases he : t.error with
    | none =>
      obtain ⟨hr, hs, hd⟩ := World.commit_nested D w i t h.active he h1
      rw [World.finish_ok D h.session hr]
      exact ⟨t.error, h.of_set _ _ hs (World.commit_timeline D w i t h1), by simp [he], hd⟩
    | some f =>
      obtain ⟨hr, h', hd⟩ := h.commit_poisoned D he
      rw [World.finish_error D h.session hr]
      obtain ⟨e, hl, he', hd'⟩ := hrollback _ h'
      exact ⟨e, hl, by simp [he'], hd'.trans hd⟩

theorem ask (h : Live w i t x) (q : Request) :
    Live (w.askIn D i q) i t x ∧ (w.askIn D i q).databases =
      match q.statement t.dialect with
      | .ok st => (D.run w.databases x q.call st).2
      | .error _ => w.databases := by
  have ha : w.askIn D i q = (w.ask D t q).2 := by rw [World.askIn, h.session]
  rw [ha]
  cases hst : q.statement t.dialect with
  | error e =>
    rw [World.ask_unstated D w t q hst]
    exact ⟨h, rfl⟩
  | ok st =>
    obtain ⟨hg, hcalm⟩ := h.calm.guarded (D.delay w.databases x)
    rw [← h.deadline] at hg hcalm
    obtain ⟨-, hs, hd, ht⟩ := World.ask_allowed D w t q hst h.transaction hg
    refine ⟨⟨?_, h.active, h.transaction, h.deadline, ?_⟩, hd⟩
    · rw [World.session?_of_eq hs, h.session]
    · rw [ht]
      exact hcalm

end Live

namespace Body

variable {δ τ : Type} (D : Driver δ τ) (k : Nat) (depot : Depot)

theorem run_live (b : Body) {w : World (Traced δ) (Nat × τ)} {i : Nat} {t : Session (Nat × τ)}
    {x : Nat × τ} {c : Context} (h : Live w i t x) (hc : c.session = some i) (hd : 0 < t.depth) :
    ∃ e, Live (b.run D.traced k depot i c w).1 i { t with error := e } x ∧
      e.isSome = (t.error.isSome || b.spoils) ∧
      (b.run D.traced k depot i c w).1.databases.log =
        w.databases.log ++ (b.calls t.dialect).map (.use x.1) ∧
      (b.run D.traced k depot i c w).2.length = b.units ∧
      ∀ s ∈ (b.run D.traced k depot i c w).2, ∃ n, s = (some n, some n) := by
  induction b generalizing w i t c with
  | done => exact ⟨t.error, h, by simp [spoils], by simp [run, calls], rfl, by simp [run]⟩
  | ask q rest ih =>
    obtain ⟨hl, hq⟩ := h.ask D.traced q
    obtain ⟨e, hr, he, hlog, hn, hs⟩ := ih hl hc hd
    refine ⟨e, hr, he, ?_, hn, hs⟩
    rw [run, hlog, hq, calls]
    cases q.statement t.dialect <;> simp
  | unit child f rest ihChild ihRest =>
    obtain ⟨hb, hjoin, hdb⟩ := h.join D.traced k depot hc
    obtain ⟨e₁, hin, he₁, hlog₁, hn₁, hs₁⟩ := ihChild hjoin hc (Nat.succ_pos _)
    obtain ⟨e₂, hout, he₂, hdb₂⟩ := hin.finish_nested D.traced (Nat.succ_lt_succ hd) f
    have hw : w.within D.traced k depot c f (child.run D.traced k depot) =
        (((child.run D.traced k depot i c (w.begin D.traced k depot c).2).1.finish D.traced i f),
          (child.run D.traced k depot i c (w.begin D.traced k depot c).2).2) := by
      simp [World.within, hb]
    -- the unit has taken one level and given it back, so the rest starts at the same depth
    replace hout : Live _ i { t with error := e₂ } x := hout
    obtain ⟨e₃, hrest, he₃, hlog₃, hn₃, hs₃⟩ := ihRest hout hc hd
    rw [run, hw]
    refine ⟨e₃, hrest, ?_, ?_, ?_, ?_⟩
    · simp only [he₃, he₂, he₁, spoils, Bool.or_assoc]
    · rw [hlog₃, hdb₂, hlog₁, hdb, calls, List.map_append, List.append_assoc]
    · simp only [List.length_append, hn₁, hn₃, units, List.length_singleton]
    · intro s hs
      obtain hs | hs := List.mem_append.mp hs
      · obtain hs | hs := List.mem_append.mp hs
        · exact hs₁ s hs
        · refine ⟨t.depth, ?_⟩
          rw [List.mem_singleton.mp hs, World.depth?, World.depth?, h.session, hout.session]
          rfl
      · exact hs₃ s hs

end Body

inductive Outcome : Bool → Status → List Use → Prop where
  | committed : Outcome false .committed [.commit true]
  | commitFailed (ok : Bool) : Outcome false .rolledBack [.commit false, .rollback ok]
  | spoilt (ok : Bool) : Outcome true .rolledBack [.rollback ok]

namespace Live

variable {δ τ : Type} (D : Driver δ τ) {w : World (Traced δ) (Nat × τ)} {i : Nat}
  {t : Session (Nat × τ)} {x : Nat × τ}

theorem rollback_outermost (h : Live w i t x) (h1 : t.depth = 1) :
    ∃ t' us, (w.rollbackIn D.traced i).session? i = some t' ∧ t'.depth = 0 ∧
      Outcome true t'.status us ∧
      (w.rollbackIn D.traced i).databases.log = w.databases.log ++ us.map (.use x.1) := by
  obtain ⟨-, hs, hd⟩ := World.rollback_outermost D.traced w i t h.active (by omega) h.transaction
  let ok := (D.traced.rollback w.databases x).1.isOk
  rw [World.rollbackIn_of_session? D.traced h.session]
  refine ⟨_, _, World.session?_of_set_self h.session hs, rfl, .spoilt ok, ?_⟩
  rw [hd, release_log, rollback_log]
  rfl

theorem finish_outermost (h : Live w i t x) (h1 : t.depth = 1) (f : Finish) :
    ∃ t' us, (w.finish D.traced i f).session? i = some t' ∧ t'.depth = 0 ∧
      Outcome (t.error.isSome || f = .rollback) t'.status us ∧
      (w.finish D.traced i f).databases.log = w.databases.log ++ us.map (.use x.1) := by
  cases f with
  | rollback =>
    rw [decide_eq_true rfl, Bool.or_true]
    exact h.rollback_outermost D h1
  | commit =>
    cases he : t.error with
    | some e =>
      obtain ⟨hr, h', hd⟩ := h.commit_poisoned D.traced he
      rw [World.finish_error D.traced h.session hr, ← hd]
      exact h'.rollback_outermost D h1
    | none =>
      have hc : w.timeline.check t.token t.deadline = .ok () := by
        rw [h.deadline]
        exact h.calm.check
      have ho := World.commit_outermost D.traced w i t h.active he (by omega) hc h.transaction
      cases hr : (D.traced.commit w.databases x).1 with
      | ok =>
        obtain ⟨hok, hs, hd⟩ := World.commitTransaction_ok D.traced w i t x hr
        rw [World.finish_ok D.traced h.session (by rw [ho, hok]), ho]
        refine ⟨_, _, World.session?_of_set_self h.session hs, rfl, .committed, ?_⟩
        rw [hd, release_log, commit_log, hr]
        rfl
      | error e =>
        obtain ⟨herr, hs, hd⟩ := World.commitTransaction_error D.traced w i t x hr
        have hs' := World.session?_of_set_self h.session hs
        rw [World.finish_error D.traced h.session (by rw [ho, herr]), ho,
          World.rollbackIn_of_session? D.traced hs',
          World.rollback_of_ended _ _ _ _ (by simp [Session.finished])]
        let ok := (D.traced.rollback (D.traced.commit w.databases x).2 x).1.isOk
        refine ⟨_, _, hs', rfl, .commitFailed ok, ?_⟩
        rw [hd, release_log, rollback_log, commit_log, hr, List.append_assoc]
        rfl

theorem begin (k : Nat) (depot : Depot) {c : Context} (hc : c.session = none)
    (hd : c.deadline = none) (hcalm : w.timeline.Calm c.token)
    (hb : (D.traced.begin w.databases k).1 = .ok x) :
    ∃ database c', (w.begin D.traced k depot c).1 = .ok (w.sessions.length, c') ∧
      c'.session = some w.sessions.length ∧
      Live (w.begin D.traced k depot c).2 w.sessions.length (World.begun database depot c x) x ∧
      (w.begin D.traced k depot c).2.databases = (D.traced.begin w.databases k).2.2 := by
  obtain ⟨hg, hcalm'⟩ := hcalm.guarded (D.traced.beginDelay w.databases k)
  rw [← hd] at hg hcalm'
  obtain ⟨hr, hs, hdb, ht⟩ := World.start_begun D.traced w k depot c hg hb
  have hw : w.begin D.traced k depot c = ((w.start D.traced k depot c).1.map fun s =>
      (s, c.carrying s), (w.start D.traced k depot c).2) := by
    rw [World.begin, hc]
  have hsession := World.session?_of_append hs w.sessions.length
  rw [if_pos rfl] at hsession
  rw [← ht] at hcalm'
  rw [hw, hr]
  exact ⟨_, _, rfl, rfl, ⟨hsession, rfl, rfl, hd, hcalm'⟩, hdb⟩

end Live

/-- Without interruption the statements of a tree of units are run in one transaction, in their
order. That is committed if every unit commits, else it is rolled back. -/
theorem all_or_nothing {δ τ : Type} (D : Driver δ τ) (w : World (Traced δ) (Nat × τ)) (k : Nat)
    (depot : Depot) (c : Context) (b : Body) (f : Finish) (hc : c.session = none)
    (hd : c.deadline = none) (hcalm : w.timeline.Calm c.token) :
    let r := w.within D.traced k depot c f (b.run D.traced k depot)
    (w.image Traced.inner Prod.snd).within D k depot c f (b.run D k depot) =
      (r.1.image Traced.inner Prod.snd, r.2) ∧
    (∀ e, (D.begin w.databases.inner k).1 = .error e → r.1.sessions = w.sessions ∧
      r.1.databases.log = w.databases.log ++ [.begin k false]) ∧
    (∀ y, (D.begin w.databases.inner k).1 = .ok y → ∃ t us,
      r.1.session? w.sessions.length = some t ∧ t.depth = 0 ∧
      Outcome (b.spoils || f = .rollback) t.status us ∧
      r.1.databases.log = w.databases.log ++
        .begin k true :: (b.calls depot.dialect ++ us).map (.use w.databases.begun) ∧
      r.2.length = b.units ∧ ∀ s ∈ r.2, ∃ n, s = (some n, some n)) := by
  intro r
  refine ⟨World.image_within (image_inner D) w k depot c f (b.image_run (image_inner D) k depot),
    ?_, ?_⟩
  · intro e he
    have hb : (D.traced.begin w.databases k).1 = .error e := by
      simp only [Driver.traced, he]
    have hg := (hcalm.guarded (D.traced.beginDelay w.databases k)).1
    rw [← hd] at hg
    obtain ⟨hr, hs, hdb⟩ := World.start_denied D.traced w k depot c hg hb
    have hw : r = ((w.start D.traced k depot c).2, []) := by
      simp [r, World.within, World.begin, hc, hr, Except.map]
    rw [hw]
    exact ⟨hs, by rw [hdb, (begin_error D w.databases k hb).2]⟩
  · intro y hy
    have hb : (D.traced.begin w.databases k).1 = .ok (w.databases.begun, y) := by
      simp only [Driver.traced, hy]
    obtain ⟨-, -, hlog⟩ := begin_ok D w.databases k hb
    obtain ⟨database, c', hr, hc', hl, hdb⟩ := Live.begin D k depot hc hd hcalm hb
    obtain ⟨e, hrun, he, hlog₁, hn, hs⟩ := b.run_live D k depot hl hc' Nat.one_pos
    obtain ⟨t, us, ht, h0, ho, hlog₂⟩ := hrun.finish_outermost D rfl f
    have hw : r = ((b.run D.traced k depot w.sessions.length c'
          (w.begin D.traced k depot c).2).1.finish D.traced w.sessions.length f,
        (b.run D.traced k depot w.sessions.length c' (w.begin D.traced k depot c).2).2) := by
      simp [r, World.within, hr]
    rw [hw]
    refine ⟨t, us, ht, h0, ?_, ?_, hn, hs⟩
    · simpa [he, World.begun] using ho
    · rw [hlog₂, hlog₁, hdb, hlog]
      simp [World.begun]

theorem all_or_nothing_nested :
    let w : World (Traced Recording) (Nat × Unit) :=
      ⟨.initial, .initial (.initial .default), [⟨.default, false⟩], [], []⟩
    let b : Body :=
      .unit (.ask (.exec ⟨"insert", []⟩) .done) .commit (.ask (.exec ⟨"delete", []⟩) .done)
    let r := w.within Recording.driver.traced 0 ⟨.default, false⟩ .background .commit
      (b.run Recording.driver.traced 0 ⟨.default, false⟩)
    ∃ t us, r.1.session? 0 = some t ∧ Outcome false t.status us ∧
      r.1.databases.log = .begin 0 true :: .use 0 (.run .affected ⟨"insert", []⟩) ::
        .use 0 (.run .affected ⟨"delete", []⟩) :: us.map (.use 0) := by
  intro w b r
  obtain ⟨-, -, h⟩ := all_or_nothing Recording.driver w 0 ⟨.default, false⟩ .background b .commit
    rfl rfl ⟨rfl, by simp [w, Timeline.initial]⟩
  obtain ⟨t, us, ht, -, ho, hlog, -⟩ := h () rfl
  refine ⟨t, us, ht, ho, ?_⟩
  rw [hlog]
  rfl

end UnitOfWork
