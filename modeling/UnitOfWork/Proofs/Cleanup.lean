import UnitOfWork.Proofs.LinearUse

namespace UnitOfWork.Scene

open Traced

variable {δ τ ε : Type}

inductive Ends (D : Driver δ τ) (w : World δ τ) (i : Nat) (t : Session τ) : World δ τ → Prop where
  | commit (h : (w.commit D i t).1 = .ok ()) : Ends D w i t (w.commit D i t).2
  | rollback : Ends D w i t (w.rollback D i t).2

structure Harmless (D : Driver δ τ) (w : World (Traced δ) (Nat × τ)) (i : Nat)
    (t : Session (Nat × τ)) : Prop where
  ok : (w.rollback D.traced i t).1 = .ok ()
  log : (w.rollback D.traced i t).2.databases.log = w.databases.log
  session : ∃ t', (w.rollback D.traced i t).2.session? i = some t' ∧ t'.depth = t.depth ∧
    t'.status = t.status ∧ t'.error = t.error

/-- A rollback takes the level of a unit that has not ended, or ends the transaction. -/
structure Harmful (D : Driver δ τ) (w : World (Traced δ) (Nat × τ)) (i : Nat)
    (t : Session (Nat × τ)) : Prop where
  nested : 1 < t.depth → ∃ t', (w.rollback D.traced i t).2.session? i = some t' ∧
    t'.depth + 1 = t.depth ∧ t'.error.isSome
  outermost : t.depth = 1 → (∃ t', (w.rollback D.traced i t).2.session? i = some t' ∧
    t'.status = .rolledBack) ∧ ∃ ok, uses i (w.rollback D.traced i t).2.databases.log =
      uses i w.databases.log ++ [.rollback ok]

variable {D : Driver δ τ}

theorem Ends.outermost {w w' : World δ τ} {i : Nat} {t : Session τ} (h : Ends D w i t w')
    (ht : w.session? i = some t) (hsound : t.Sound) (h1 : ¬ 1 < t.depth) :
    ∃ t', w'.session? i = some t' ∧ t'.status ≠ .active := by
  cases h with
  | commit hok =>
    cases World.commit_case D w i t with
    | ended ha h | absent hx h | refused e ha he h1 hc h =>
      rw [h] at hok
      cases hok
    | poisoned e ha he hr hs hd | failed x e ha he h1 hc hx hb hr hs hd =>
      rw [hr] at hok
      cases hok
    | nested ha he hd => exact absurd hd h1
    | committed x ha he h1 hc hx hb hr hs hd =>
      exact ⟨_, World.session?_of_set_self ht hs, by simp [Session.finished]⟩
  | rollback =>
    cases World.rollback_case D w i t with
    | ended ha h =>
      rw [h]
      exact ⟨t, ht, ha⟩
    | nested ha hd => exact absurd hd h1
    | absent hx h =>
      rw [h]
      exact ⟨t, ht, fun ha => by simpa [hx] using hsound.active_iff_open.mp ha⟩
    | outermost x ha h1 hx hr hs hd =>
      exact ⟨_, World.session?_of_set_self ht hs, by simp [Session.finished]⟩

theorem Ends.nested {w w' : World δ τ} {i : Nat} {t : Session τ} (h : Ends D w i t w')
    (ht : w.session? i = some t) (ha : t.status = .active) (h1 : 1 < t.depth) :
    ∃ t', w'.session? i = some t' ∧ t'.status = .active ∧ t'.depth + 1 = t.depth ∧
      t'.transaction = t.transaction ∧ w'.databases = w.databases := by
  cases h with
  | commit hok =>
    cases he : t.error with
    | some e =>
      rw [(World.commit_of_error D w i t ha he).1] at hok
      cases hok
    | none =>
      obtain ⟨-, hs, hd⟩ := World.commit_nested D w i t ha he h1
      exact ⟨_, World.session?_of_set_self ht hs, ha, Nat.sub_add_cancel (by omega), rfl, hd⟩
  | rollback =>
    obtain ⟨-, hs, hd⟩ := World.rollback_nested D w i t ha h1
    exact ⟨_, World.session?_of_set_self ht hs, ha, Nat.sub_add_cancel (by omega), rfl, hd⟩

theorem harmless_of_ended {w : World (Traced δ) (Nat × τ)} {i : Nat} {t : Session (Nat × τ)}
    (ht : w.session? i = some t) (ha : t.status ≠ .active) : Harmless D w i t := by
  have hr := World.rollback_of_ended D.traced w i t ha
  exact ⟨by rw [hr], by rw [hr], t, by rw [hr, ht], rfl, rfl, rfl⟩

theorem harmful_of_active {w : World (Traced δ) (Nat × τ)} {i : Nat} {t : Session (Nat × τ)}
    {x : Nat × τ} (ht : w.session? i = some t) (ha : t.status = .active)
    (hx : t.transaction = some x) (hi : x.1 = i) : Harmful D w i t := by
  constructor
  · intro h1
    obtain ⟨-, hs, -⟩ := World.rollback_nested D.traced w i t ha h1
    exact ⟨_, World.session?_of_set_self ht hs, Nat.sub_add_cancel (by omega), rfl⟩
  · intro h1
    obtain ⟨-, hs, hd⟩ := World.rollback_outermost D.traced w i t ha (by omega) hx
    refine ⟨⟨_, World.session?_of_set_self ht hs, rfl⟩,
      (D.traced.rollback w.databases x).1.isOk, ?_⟩
    rw [hd, release_log, rollback_log, uses_append, hi, uses_same]

theorem Harmful.not_harmless {w : World (Traced δ) (Nat × τ)} {i : Nat} {t : Session (Nat × τ)}
    (h : Harmful D w i t) (ha : t.status = .active) (hd : 0 < t.depth) : ¬ Harmless D w i t := by
  intro hl
  obtain ⟨t', ht', hdepth, hstatus, -⟩ := hl.session
  by_cases h1 : 1 < t.depth
  · obtain ⟨t'', ht'', hd'', -⟩ := h.nested h1
    rw [ht'] at ht''
    cases ht''
    omega
  · obtain ⟨⟨t'', ht'', hs''⟩, -⟩ := h.outermost (by omega)
    rw [ht'] at ht''
    cases ht''
    rw [hs'', ha] at hstatus
    cases hstatus

/-- In every run one more rollback of a unit that has ended is harmless if and only if no other unit
shared the session. Else it falls to the unit around it. -/
theorem rollback_again (direct : ε → δ → δ) (d : δ) (depots : List Depot)
    (ops : List (Operation ε)) (i : Nat) (t : Session (Nat × τ))
    (w' : World (Traced δ) (Nat × τ))
    (ht : (run D.traced (lift direct) (initial (.initial d) depots) ops).world.session? i = some t)
    (h : Ends D.traced (run D.traced (lift direct) (initial (.initial d) depots) ops).world i t
      w') :
    ∃ t', w'.session? i = some t' ∧ (Harmless D w' i t' ↔ ¬ 1 < t.depth) ∧
      (1 < t.depth → Harmful D w' i t') := by
  have hk := kept_run D direct d depots ops
  have hsound := hk.sound i t ht
  by_cases h1 : 1 < t.depth
  · have ha := hsound.active_iff_depth.mpr (by omega)
    obtain ⟨x, hx⟩ := hsound.exists_transaction ha
    obtain ⟨t', ht', ha', hd', hx', hdb⟩ := h.nested ht ha h1
    have hharm : Harmful D w' i t' :=
      harmful_of_active ht' ha' (hx'.trans hx) (hk.own i t x ht hx)
    have hnot := hharm.not_harmless ha' (by omega)
    exact ⟨t', ht', ⟨fun hl => absurd hl hnot, fun hn => absurd h1 hn⟩, fun _ => hharm⟩
  · obtain ⟨t', ht', ha'⟩ := h.outermost ht hsound h1
    exact ⟨t', ht', ⟨fun _ => h1, fun _ => harmless_of_ended ht' ha'⟩, fun hn => absurd hn h1⟩

theorem rollback_again_nested :
    let w := (run Recording.driver.traced (lift Stage.Direction.apply)
      (initial (.initial (.initial .default)) [⟨.default, false⟩]) [.begin 0 0, .begin 0 1]).world
    ∃ t, w.session? 0 = some t ∧ (w.commit Recording.driver.traced 0 t).1 = .ok () ∧
      ∃ t', (w.commit Recording.driver.traced 0 t).2.session? 0 = some t' ∧
        Harmful Recording.driver (w.commit Recording.driver.traced 0 t).2 0 t' := by
  intro w
  let t : Session (Nat × Unit) :=
    ⟨.recording, .default, false, 0, none, 2, none, .active, some (0, ())⟩
  have hok : (w.commit Recording.driver.traced 0 t).1 = .ok () := rfl
  obtain ⟨t', ht', -, hharm⟩ := rollback_again Stage.Direction.apply _ _ _ 0 t _ rfl (.commit hok)
  exact ⟨t, rfl, hok, t', ht', hharm (by decide)⟩

/-- A unit commits, and cleans up by a rollback; the unit around it finds its work undone. -/
theorem outer_unit_rolled_back :
    let s := run Recording.driver Stage.Direction.apply
      (initial (.initial .default) [⟨.default, false⟩]) [.begin 0 0, .begin 0 1, .commit 0]
    let r := step Recording.driver Stage.Direction.apply s (.rollback 0)
    (s.world.session? 0).map Session.status = some .active ∧ s.world.databases.rollbacks = 0 ∧
      (r.world.session? 0).map Session.status = some .rolledBack ∧
      r.world.databases.rollbacks = 1 := ⟨rfl, rfl, rfl, rfl⟩

end UnitOfWork.Scene
