import UnitOfWork.Proofs.LinearUse

namespace UnitOfWork.Scene

open Traced

variable {δ τ ε : Type}

inductive Records (w : World δ τ) (i : Nat) : Operation ε → Prop where
  | marked (t : Session τ) (ht : w.session? i = some t) (e : Failure) :
    Records w i (.setError i (some e))
  | failed (t : Session τ) (ht : w.session? i = some t) (ha : t.status = .active)
      (h1 : 1 < t.depth) : Records w i (.rollback i)

def mark (w : World δ τ) (i : Nat) (m : Option Failure) : Operation ε → Option Failure
  | .setError j e => if j = i ∧ (w.session? i).isSome then e else m
  | _ => m

def RecordedBy (m e : Option Failure) : Prop := e = none ∧ m = none ∨ e = some (m.getD .rolledBack)

structure Marked (i : Nat) (m : Option Failure) (w : World δ τ) : Prop where
  recorded : ∀ t, w.session? i = some t → RecordedBy m t.error
  unmarked : w.sessions.length ≤ i → m = none

structure Stuck (i : Nat) (w : World δ τ) : Prop where
  begun : i < w.sessions.length
  error : ∀ t, w.session? i = some t → t.error.isSome

inductive Written (w : World δ τ) (o : Operation ε) (i : Nat) (t' : Session τ) : Prop where
  | marked (e : Option Failure) (ho : o = .setError i e) (t : Session τ)
      (ht : w.session? i = some t) (he : t'.error = e) : Written w o i t'
  | begun (ho : ∀ e, o ≠ .setError i e) (hi : w.sessions.length = i) (he : t'.error = none) :
    Written w o i t'
  | kept (ho : ∀ e, o ≠ .setError i e) (t : Session τ) (ht : w.session? i = some t)
      (he : t'.error = t.error) : Written w o i t'
  | failed (ho : ∀ e, o ≠ .setError i e) (t : Session τ) (ht : w.session? i = some t)
      (he : t'.error = some (t.error.getD .rolledBack)) : Written w o i t'

theorem mark_of_ne {w : World δ τ} {o : Operation ε} {i : Nat} (ho : ∀ e, o ≠ .setError i e)
    (m : Option Failure) : mark w i m o = m := by
  cases o with
  | setError j e =>
    have hj : j ≠ i := by
      rintro rfl
      exact ho e rfl
    exact if_neg fun h => hj h.1
  | _ => rfl

section run

variable (D : Driver δ τ) (direct : ε → δ → δ)

def latest (i : Nat) (s : Scene δ τ) (m : Option Failure) : List (Operation ε) → Option Failure
  | [] => m
  | o :: ops => latest i (step D direct s o) (mark s.world i m o) ops

theorem latest_snoc (i : Nat) (s : Scene δ τ) (m : Option Failure) (ops : List (Operation ε))
    (o : Operation ε) :
    latest D direct i s m (ops ++ [o]) =
      mark (run D direct s ops).world i (latest D direct i s m ops) o := by
  induction ops generalizing s m with
  | nil => rfl
  | cons p ops ih => exact ih _ _

theorem setError_step {s : Scene δ τ} {j : Nat} {t : Session τ} (ht : s.world.session? j = some t)
    (e : Option Failure) :
    (step D direct s (.setError j e)).world.sessions =
      s.world.sessions.set j (some { t with error := e }) := by
  have hstep : (step D direct s (.setError j e)).world = s.world.setError j t e := by
    simp only [step, onSession, ht]
  rw [hstep]
  cases e <;> rfl

theorem step_absent {s : Scene δ τ} {j : Nat} (hj : s.world.session? j = none)
    (e : Option Failure) : step D direct s (.setError j e) = s := by
  simp only [step, onSession, hj]

variable {D direct}

theorem written_change {w w' : World δ τ} {o : Operation ε} (h : Change D direct w w' o) {i : Nat}
    (ho : ∀ e, o ≠ .setError i e) {t' : Session τ} (ht' : w'.session? i = some t') :
    Written w o i t' := by
  have same (hs : w'.sessions = w.sessions) : Written w o i t' := by
    rw [World.session?_of_eq hs] at ht'
    exact .kept ho t' ht' rfl
  have changed (j : Nat) (t : Session τ) (x : Option (Session τ)) (ht : w.session? j = some t)
      (hs : w'.sessions = w.sessions.set j x)
      (hx : j = i → x = some t' → Written w o i t') : Written w o i t' := by
    rw [World.session?_of_set hs (World.lt_of_session? ht)] at ht'
    by_cases hj : j = i
    · rw [if_pos hj] at ht'
      exact hx hj ht'
    · rw [if_neg hj] at ht'
      exact .kept ho t' ht' rfl
  have held (j : Nat) (t u : Session τ) (ht : w.session? j = some t)
      (hs : w'.sessions = w.sessions.set j (some u)) (he : u.error = t.error) :
      Written w o i t' := by
    refine changed j t _ ht hs ?_
    rintro rfl ⟨⟩
    exact .kept ho t ht he
  cases h with
  | quiet _ hs hd => exact same hs
  | closed k hs hd => exact same hs
  | directed x hs hd => exact same hs
  | denied k c e hb hs hd => exact same hs
  | begun k c x database depot context hb hs hd =>
    rw [World.session?_of_append hs] at ht'
    by_cases hi : i = w.sessions.length
    · rw [if_pos hi] at ht'
      cases ht'
      exact .begun ho hi.symm rfl
    · rw [if_neg hi] at ht'
      exact .kept ho t' ht' rfl
  | joined k c j t ht ha hs hd => exact held j t _ ht hs rfl
  | marked j e t ht hs hd =>
    refine changed j t _ ht hs ?_
    rintro rfl
    exact absurd rfl (ho e)
  | asked j q t x st ht hx hst hs hd => exact same hs
  | left j t ht ha he h1 hs hd => exact held j t _ ht hs rfl
  | committed j t x ht ha he h1 hx hc hs hd => exact held j t _ ht hs rfl
  | commitFailed j t x e ht ha he h1 hx hc hs hd => exact held j t _ ht hs rfl
  | failed j t ht ha h1 hs hd =>
    refine changed j t _ ht hs ?_
    rintro rfl ⟨⟩
    exact .failed ho t ht rfl
  | rolledBack j t x ht ha h1 hx hs hd => exact held j t _ ht hs rfl
  | dropped j runtime t ht hx hs hd => exact changed j t _ ht hs (by rintro _ ⟨⟩)
  | droppedOpen j t x ht hx hs hd => exact changed j t _ ht hs (by rintro _ ⟨⟩)
  | abandoned j t x ht hx hs hd => exact changed j t _ ht hs (by rintro _ ⟨⟩)

theorem written_step (s : Scene δ τ) (o : Operation ε) {i : Nat} {t' : Session τ}
    (ht' : (step D direct s o).world.session? i = some t') : Written s.world o i t' := by
  by_cases ho : ∃ e, o = .setError i e
  · obtain ⟨e, rfl⟩ := ho
    cases ht : s.world.session? i with
    | none =>
      rw [step_absent D direct ht, ht] at ht'
      cases ht'
    | some t =>
      rw [World.session?_of_set_self ht (setError_step D direct ht e)] at ht'
      cases ht'
      exact .marked e rfl t ht rfl
  · have hne : ∀ e, o ≠ .setError i e := fun e h => ho ⟨e, h⟩
    exact written_change (change_step D direct s o) hne ht'

theorem Marked.step {i : Nat} {m : Option Failure} {s : Scene δ τ} (h : Marked i m s.world)
    (o : Operation ε) : Marked i (mark s.world i m o) (step D direct s o).world := by
  constructor
  · intro t' ht'
    cases written_step s o ht' with
    | marked e ho t ht he =>
      have hm : mark s.world i m o = e := by
        rw [ho, mark, ht]
        exact if_pos ⟨rfl, rfl⟩
      rw [hm, he]
      cases e with
      | none => exact .inl ⟨rfl, rfl⟩
      | some e => exact .inr rfl
    | begun ho hi he =>
      rw [mark_of_ne ho, he, h.unmarked (Nat.le_of_eq hi)]
      exact .inl ⟨rfl, rfl⟩
    | kept ho t ht he =>
      rw [mark_of_ne ho, he]
      exact h.recorded t ht
    | failed ho t ht he =>
      rw [mark_of_ne ho, he]
      obtain ⟨hnone, hm⟩ | hsome := h.recorded t ht
      · rw [hnone, hm]
        exact .inr rfl
      · rw [hsome]
        exact .inr rfl
  · intro hi
    have hle := length_le_of_change (change_step D direct s o)
    have habsent : s.world.session? i = none := by
      rw [World.session?, List.getElem?_eq_none (Nat.le_trans hle hi), Option.join_none]
    have hm : mark s.world i m o = m := by
      cases o with
      | setError j e =>
        rw [mark, habsent]
        refine if_neg ?_
        rintro ⟨-, ⟨⟩⟩
      | _ => rfl
    rw [hm]
    exact h.unmarked (Nat.le_trans hle hi)

variable (D direct) in
theorem marked_run (i : Nat) (d : δ) (depots : List Depot) (ops : List (Operation ε)) :
    Marked i (latest D direct i (initial d depots) none ops)
      (run D direct (initial d depots) ops).world := by
  refine run_induction (P := fun ops s =>
    Marked i (latest D direct i (initial d depots) none ops) s.world) D direct _ ?_ ?_ ops
  · constructor
    · intro t ht
      simp [initial, World.session?] at ht
    · exact fun _ => rfl
  · intro ops o h
    rw [latest_snoc]
    exact h.step o

theorem stuck_of_records {s : Scene δ τ} {o : Operation ε} {i : Nat} (h : Records s.world i o) :
    Stuck i (step D direct s o).world := by
  have hle := length_le_of_change (change_step D direct s o)
  cases h with
  | marked t ht e =>
    refine ⟨Nat.lt_of_lt_of_le (World.lt_of_session? ht) hle, ?_⟩
    intro t' ht'
    rw [World.session?_of_set_self ht (setError_step D direct ht _)] at ht'
    cases ht'
    rfl
  | failed t ht ha h1 =>
    refine ⟨Nat.lt_of_lt_of_le (World.lt_of_session? ht) hle, ?_⟩
    intro t' ht'
    obtain ⟨-, hs, -⟩ := World.rollback_nested D s.world i t ha h1
    rw [← step_rollback D direct ht] at hs
    rw [World.session?_of_set_self ht hs] at ht'
    cases ht'
    rfl

theorem Stuck.step {i : Nat} {s : Scene δ τ} (h : Stuck i s.world) {o : Operation ε}
    (ho : o ≠ .setError i none) : Stuck i (step D direct s o).world := by
  have hle := length_le_of_change (change_step D direct s o)
  refine ⟨Nat.lt_of_lt_of_le h.begun hle, ?_⟩
  intro t' ht'
  cases written_step s o ht' with
  | marked e hm t ht he =>
    rw [he]
    cases e with
    | none => exact absurd hm ho
    | some e => rfl
  | begun _ hi he => exact absurd hi (Nat.ne_of_gt h.begun)
  | kept _ t ht he =>
    rw [he]
    exact h.error t ht
  | failed _ t ht he => rw [he, Option.isSome_some]

end run

variable {D : Driver δ τ} {direct : ε → δ → δ}

def Committable (w : World δ τ) (i : Nat) : Prop :=
  ∃ t, w.session? i = some t ∧ t.status = .active ∧ t.error = none ∧ ¬ 1 < t.depth

theorem Kept.called {w w' : World (Traced δ) (Nat × τ)} {o : Operation ε} (h : Kept w)
    (hc : Change D.traced (lift direct) w w' o) :
    ∃ more, w'.databases.log = w.databases.log ++ more ∧
      ∀ i ok, .use i (.commit ok) ∈ more → o = .commit i ∧ Committable w i := by
  have nothing (hd : w'.databases.log = w.databases.log) :
      ∃ more, w'.databases.log = w.databases.log ++ more ∧
        ∀ i ok, .use i (.commit ok) ∈ more → o = .commit i ∧ Committable w i :=
    ⟨[], by rw [hd, List.append_nil], by simp⟩
  cases hc with
  | quiet _ hs hd => exact nothing (by rw [hd])
  | closed k hs hd => exact nothing (by rw [hd]; rfl)
  | directed x hs hd => exact nothing (by rw [hd]; rfl)
  | denied k c e hb hs hd =>
    exact ⟨[.begin k false], by rw [hd, (begin_error D _ k hb).2], by simp⟩
  | begun k c x database depot context hb hs hd =>
    exact ⟨[.begin k true], by rw [hd, (begin_ok D _ k hb).2.2], by simp⟩
  | joined k c i t ht ha hs hd => exact nothing (by rw [hd])
  | marked i e t ht hs hd => exact nothing (by rw [hd])
  | asked i q t x st ht hx hst hs hd =>
    exact ⟨[.use x.1 (.run q.call st)], by rw [hd, run_log], by simp⟩
  | left i t ht ha he h1 hs hd => exact nothing (by rw [hd])
  | committed i t x ht ha he h1 hx hc hs hd =>
    refine ⟨[.use x.1 (.commit _)], by rw [hd, release_log, commit_log], ?_⟩
    intro j ok hj
    obtain ⟨rfl, -⟩ : j = x.1 ∧ _ := by simpa using hj
    rw [h.own i t x ht hx]
    exact ⟨rfl, t, ht, ha, he, h1⟩
  | commitFailed i t x e ht ha he h1 hx hc hs hd =>
    refine ⟨[.use x.1 (.commit _), .use x.1 (.rollback _)], by
      rw [hd, release_log, rollback_log, commit_log, List.append_assoc]
      rfl, ?_⟩
    intro j ok hj
    obtain ⟨rfl, -⟩ : j = x.1 ∧ _ := by simpa using hj
    rw [h.own i t x ht hx]
    exact ⟨rfl, t, ht, ha, he, h1⟩
  | failed i t ht ha h1 hs hd => exact nothing (by rw [hd])
  | rolledBack i t x ht ha h1 hx hs hd =>
    exact ⟨[.use x.1 (.rollback _)], by rw [hd, release_log, rollback_log], by simp⟩
  | dropped i runtime t ht hx hs hd => exact nothing (by rw [hd])
  | droppedOpen i t x ht hx hs hd =>
    exact ⟨[.use x.1 (.rollback _)], by rw [hd, release_log, rollback_log], by simp⟩
  | abandoned i t x ht hx hs hd => exact nothing (by rw [hd, release_log])

theorem Stuck.not_committable {i : Nat} {w : World δ τ} (h : Stuck i w) : ¬ Committable w i := by
  rintro ⟨t, ht, -, he, -⟩
  have hsome := h.error t ht
  rw [he] at hsome
  cases hsome

theorem Stuck.run {i : Nat} {s : Scene (Traced δ) (Nat × τ)} (h : Stuck i s.world)
    (hk : Kept s.world) (ops : List (Operation ε)) (hclear : .setError i none ∉ ops) :
    Stuck i (run D.traced (lift direct) s ops).world ∧
      ∃ more, (run D.traced (lift direct) s ops).world.databases.log =
        s.world.databases.log ++ more ∧ ∀ ok, .use i (.commit ok) ∉ more := by
  induction ops generalizing s with
  | nil => exact ⟨h, [], by simp [Scene.run], by simp⟩
  | cons o ops ih =>
    have hops : .setError i none ∉ ops := fun hmem => hclear (List.mem_cons_of_mem o hmem)
    have ho : o ≠ .setError i none := fun hmem => hclear (by rw [hmem]; exact List.mem_cons_self)
    have hc := change_step D.traced (lift direct) s o
    have hk' : Kept (Scene.step D.traced (lift direct) s o).world := hk.step o
    -- the step calls no commit, since a failure is recorded before it
    obtain ⟨first, hfirst, hcommit⟩ := hk.called hc
    obtain ⟨hr, more, hmore, hnone⟩ := ih (h.step ho) hk' hops
    refine ⟨hr, first ++ more, ?_, ?_⟩
    · rw [← List.append_assoc, ← hfirst]
      exact hmore
    · intro ok hok
      obtain hok | hok := List.mem_append.mp hok
      · exact h.not_committable (hcommit i ok hok).2
      · exact hnone ok hok

/-- While a session is poisoned, commits of it are not called. The failure recorded is the one that
was marked last, or else that of a rollback, and the commits that are asked for are refused with
it and change nothing. A nested rollback keeps it. -/
structure Poisoned (D : Driver (Traced δ) (Nat × τ)) (i : Nat) (last : Option Failure)
    (w w' : World (Traced δ) (Nat × τ)) : Prop where
  log : ∃ more, w'.databases.log = w.databases.log ++ more ∧ ∀ ok, .use i (.commit ok) ∉ more
  error : ∀ t, w'.session? i = some t → t.error = some (last.getD .rolledBack)
  commit : ∀ t, w'.session? i = some t → t.status = .active →
    (w'.commit D i t).1 = .error (.poisoned (last.getD .rolledBack)) ∧
      (w'.commit D i t).2.sessions = w'.sessions ∧ (w'.commit D i t).2.databases = w'.databases
  rollback : ∀ t, w'.session? i = some t → t.status = .active → 1 < t.depth →
    (w'.rollback D i t).2.session? i = some { t with depth := t.depth - 1 } ∧
      (w'.rollback D i t).2.databases = w'.databases

/-- In every run a session is poisoned from the moment at which a failure is recorded on it until it
is cleared. -/
theorem poisoned_until_cleared (D : Driver δ τ) (direct : ε → δ → δ) (d : δ) (depots : List Depot)
    (before between : List (Operation ε)) (o : Operation ε) (i : Nat)
    (h : Records (run D.traced (lift direct) (initial (.initial d) depots) before).world i o)
    (hclear : .setError i none ∉ between) :
    let s := run D.traced (lift direct) (initial (.initial d) depots) before
    let r := run D.traced (lift direct) (initial (.initial d) depots) (before ++ o :: between)
    run D direct (initial d depots) (before ++ o :: between) = r.image Traced.inner Prod.snd ∧
      Poisoned D.traced i (latest D.traced (lift direct) i (initial (.initial d) depots) none
        (before ++ o :: between)) s.world r.world := by
  intro s r
  have hk : Kept s.world := kept_run D direct d depots before
  have hc := change_step D.traced (lift direct) s o
  have hk' : Kept (step D.traced (lift direct) s o).world := hk.step o
  have hr : r = run D.traced (lift direct) (step D.traced (lift direct) s o) between :=
    run_append D.traced (lift direct) _ before (o :: between)
  obtain ⟨first, hfirst, hcommit⟩ := hk.called hc
  obtain ⟨hstuck, more, hmore, hnone⟩ := (stuck_of_records h).run hk' between hclear
  rw [← hr] at hstuck hmore
  have hmarked := marked_run D.traced (lift direct) i (.initial d) depots
    (before ++ o :: between)
  have herror : ∀ t, r.world.session? i = some t → t.error = some ((latest D.traced (lift direct) i
      (initial (.initial d) depots) none (before ++ o :: between)).getD .rolledBack) := by
    intro t ht
    obtain ⟨hnone, -⟩ | hsome := hmarked.recorded t ht
    · have hpresent := hstuck.error t ht
      rw [hnone] at hpresent
      cases hpresent
    · exact hsome
  refine ⟨run_traced D direct d depots _, ⟨first ++ more, ?_, ?_⟩, herror, ?_, ?_⟩
  · rw [hmore, hfirst, List.append_assoc]
  · intro ok hok
    obtain hok | hok := List.mem_append.mp hok
    · -- what records a failure is no commit
      have ho := (hcommit i ok hok).1
      rw [ho] at h
      cases h
    · exact hnone ok hok
  · intro t ht ha
    exact World.commit_of_error D.traced r.world i t ha (herror t ht)
  · intro t ht ha h1
    obtain ⟨-, hs, hd⟩ := World.rollback_nested D.traced r.world i t ha h1
    refine ⟨?_, hd⟩
    rw [World.session?_of_set_self ht hs, herror t ht]
    rfl

theorem poisoned_by_nested_rollback :
    let before : List (Operation Direction) := [.begin 0 0, .begin 0 1]
    let between : List (Operation Direction) :=
      [.setError 0 (some .noResult), .begin 0 1, .rollback 0, .commit 0]
    let start := initial (.initial (.initial .default)) [⟨.default, false⟩]
    let s := run Recording.driver.traced (lift Stage.Direction.apply) start before
    let r := run Recording.driver.traced (lift Stage.Direction.apply) start
      (before ++ .rollback 0 :: between)
    (r.world.session? 0).map Session.status = some .active ∧
      Poisoned Recording.driver.traced 0 (some .noResult) s.world r.world := by
  intro before between start s r
  let t : Session (Nat × Unit) :=
    ⟨.recording, .default, false, 0, none, 2, none, .active, some (0, ())⟩
  have hrecords : Records s.world 0 (.rollback 0 : Operation Direction) :=
    .failed t rfl rfl (by decide)
  have hclear : Operation.setError 0 none ∉ between := by simp [between]
  obtain ⟨-, hpoisoned⟩ := poisoned_until_cleared Recording.driver Stage.Direction.apply
    (.initial .default) [⟨.default, false⟩] before between (.rollback 0) 0 hrecords hclear
  have hactive : (r.world.session? 0).map Session.status = some .active := by decide +kernel
  exact ⟨hactive, hpoisoned⟩

end UnitOfWork.Scene
