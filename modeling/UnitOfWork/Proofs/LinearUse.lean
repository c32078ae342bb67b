import UnitOfWork.Proofs.Recording.Balance
import UnitOfWork.Proofs.Scene.Image

namespace UnitOfWork

open Traced

inductive Ending : Status → List Use → Prop where
  | active : Ending .active []
  | committed : Ending .committed [.commit true]
  | commitFailed (ok : Bool) : Ending .rolledBack [.commit false, .rollback ok]
  | rolledBack (ok : Bool) : Ending .rolledBack [.rollback ok]

def Course (status : Status) (us : List Use) : Prop :=
  ∃ statements ending, us = statements ++ ending ∧ (∀ u ∈ statements, ∃ c st, u = .run c st) ∧
    Ending status ending

namespace Course

variable {status : Status} {us : List Use}

theorem nil : Course .active [] := ⟨[], [], rfl, by simp, .active⟩

theorem run (h : Course .active us) (c : Call) (st : Statement) :
    Course .active (us ++ [.run c st]) := by
  obtain ⟨statements, _, rfl, hr, ⟨⟩⟩ := h
  refine ⟨statements ++ [.run c st], [], by simp, ?_, .active⟩
  intro u hu
  obtain hu | hu := List.mem_append.mp hu
  · exact hr u hu
  · exact ⟨c, st, List.mem_singleton.mp hu⟩

theorem ended (h : Course .active us) {ending : List Use} (he : Ending status ending) :
    Course status (us ++ ending) := by
  obtain ⟨statements, _, rfl, hr, ⟨⟩⟩ := h
  exact ⟨statements, ending, by simp, hr, he⟩

theorem committed_iff (h : Course status us) : status = .committed ↔ .commit true ∈ us := by
  obtain ⟨statements, ending, rfl, hr, he⟩ := h
  have hn : Use.commit true ∉ statements := by
    intro hu
    obtain ⟨c, st, hc⟩ := hr _ hu
    cases hc
  cases he <;> simp [hn]

theorem rolledBack_iff (h : Course status us) :
    status = .rolledBack ↔ ∃ ok, .rollback ok ∈ us := by
  obtain ⟨statements, ending, rfl, hr, he⟩ := h
  have hn : ∀ ok, Use.rollback ok ∉ statements := by
    intro ok hu
    obtain ⟨c, st, hc⟩ := hr _ hu
    cases hc
  cases he <;> simp [hn]

end Course

namespace Scene

variable {δ τ ε : Type}

inductive Turn (t : Session τ) : List Use → Option (Session τ) → Prop where
  | kept (t' : Session τ) (hs : t'.status = t.status) (hx : t'.transaction = t.transaction) :
    Turn t [] (some t')
  | run (ha : t.status = .active) (c : Call) (st : Statement) : Turn t [.run c st] (some t)
  | ended (ha : t.status = .active) (status : Status) (us : List Use) (he : Ending status us) :
    Turn t us (some (t.finished status))
  | left : Turn t [] none
  | dropped (ha : t.status = .active) (ok : Bool) : Turn t [.rollback ok] none

inductive Move (w w' : World (Traced δ) (Nat × τ)) : Prop where
  | still (hs : w'.sessions = w.sessions) (hb : w'.databases.begun = w.databases.begun)
      (hu : ∀ i, uses i w'.databases.log = uses i w.databases.log) : Move w w'
  | begun (s : Session (Nat × τ)) (x : τ) (ha : s.status = .active)
      (hx : s.transaction = some (w.databases.begun, x))
      (hs : w'.sessions = w.sessions ++ [some s])
      (hb : w'.databases.begun = w.databases.begun + 1)
      (hu : ∀ i, uses i w'.databases.log = uses i w.databases.log) : Move w w'
  | turned (i : Nat) (t : Session (Nat × τ)) (us : List Use) (x : Option (Session (Nat × τ)))
      (ht : w.session? i = some t) (hx : Turn t us x)
      (hs : w'.sessions = w.sessions.set i x)
      (hb : w'.databases.begun = w.databases.begun)
      (hl : w'.databases.log = w.databases.log ++ us.map (.use i)) : Move w w'

structure Kept (w : World (Traced δ) (Nat × τ)) : Prop where
  sound : AllSound w
  begun : w.databases.begun = w.sessions.length
  own : ∀ i t x, w.session? i = some t → t.transaction = some x → x.1 = i
  course : ∀ i t, w.session? i = some t → Course t.status (uses i w.databases.log)
  unused : ∀ i, w.sessions.length ≤ i → uses i w.databases.log = []
  linear : ∀ i, ∃ status, Course status (uses i w.databases.log)

theorem uses_map_same (i : Nat) (us : List Use) : uses i (us.map (.use i)) = us := by
  induction us with
  | nil => rfl
  | cons u us ih =>
    rw [List.map_cons, ← List.singleton_append, uses_append, uses_same, ih]
    rfl

theorem uses_map_other {i j : Nat} (h : i ≠ j) (us : List Use) :
    uses j (us.map (.use i)) = [] := by
  simp [uses, h]

variable {D : Driver δ τ} {direct : ε → δ → δ}

theorem Kept.move {w w' : World (Traced δ) (Nat × τ)} {o : Operation ε} (h : Kept w)
    (hc : Change D.traced (lift direct) w w' o) : Move w w' := by
  have still (hs : w'.sessions = w.sessions) (hd : w'.databases = w.databases) : Move w w' :=
    .still hs (by rw [hd]) fun i => by rw [hd]
  have turned (i : Nat) (t : Session (Nat × τ)) (x : Option (Session (Nat × τ)))
      (ht : w.session? i = some t) (hs : w'.sessions = w.sessions.set i x)
      (hd : w'.databases = w.databases) (hx : Turn t [] x) : Move w w' :=
    .turned i t [] x ht hx hs (by rw [hd]) (by simp [hd])
  cases hc with
  | quiet _ hs hd => exact still hs hd
  | closed k hs hd => exact .still hs (by rw [hd]; rfl) fun i => by rw [hd]; rfl
  | directed x hs hd => exact .still hs (by rw [hd]; rfl) fun i => by rw [hd]; rfl
  | denied k c e hb hs hd =>
    obtain ⟨hn, hl⟩ := begin_error D _ k hb
    exact .still hs (by rw [hd, hn]) fun i => by simp [hd, hl, uses_append, uses_begin]
  | begun k c x database depot context hb hs hd =>
    obtain ⟨hx, hn, hl⟩ := begin_ok D _ k hb
    refine .begun _ x.2 rfl ?_ hs (by rw [hd, hn]) fun i => by
      simp [hd, hl, uses_append, uses_begin]
    rw [← hx]
    rfl
  | joined k c i t ht ha hs hd => exact turned i t _ ht hs hd (.kept _ rfl rfl)
  | marked i e t ht hs hd => exact turned i t _ ht hs hd (.kept _ rfl rfl)
  | asked i q t x st ht hx hst hs hd =>
    have ha := (h.sound i t ht).active_of_transaction hx
    refine .turned i t [.run q.call st] (some t) ht (.run ha _ _) ?_ (by rw [hd]; rfl) ?_
    · rw [hs, World.set_of_session? ht]
    · simp [hd, h.own i t x ht hx]
  | left i t ht ha he h1 hs hd => exact turned i t _ ht hs hd (.kept _ rfl rfl)
  | committed i t x ht ha he h1 hx hc hs hd =>
    refine .turned i t [.commit true] _ ht (.ended ha _ _ .committed) hs (by rw [hd]; rfl) ?_
    simp [hd, hc, h.own i t x ht hx, Except.isOk, Except.toBool]
  | commitFailed i t x e ht ha he h1 hx hc hs hd =>
    let ok := (D.traced.rollback (D.traced.commit w.databases x).2 x).1.isOk
    refine .turned i t [.commit false, .rollback ok] _ ht (.ended ha _ _ (.commitFailed _)) hs
      (by rw [hd]; rfl) ?_
    simp [hd, hc, h.own i t x ht hx, Except.isOk, Except.toBool, ok]
  | failed i t ht ha h1 hs hd => exact turned i t _ ht hs hd (.kept _ rfl rfl)
  | rolledBack i t x ht ha h1 hx hs hd =>
    let ok := (D.traced.rollback w.databases x).1.isOk
    refine .turned i t [.rollback ok] _ ht (.ended ha _ _ (.rolledBack _)) hs (by rw [hd]; rfl) ?_
    simp [hd, h.own i t x ht hx, ok]
  | dropped i runtime t ht hx hs hd => exact turned i t _ ht hs hd .left
  | droppedOpen i t x ht hx hs hd =>
    have ha := (h.sound i t ht).active_of_transaction hx
    let ok := (D.traced.rollback w.databases x).1.isOk
    refine .turned i t [.rollback ok] _ ht (.dropped ha _) hs (by rw [hd]; rfl) ?_
    simp [hd, h.own i t x ht hx, ok]
  | abandoned i t x ht hx hs hd =>
    refine .turned i t [] _ ht .left hs (by rw [hd]; rfl) ?_
    simp [hd]

theorem Turn.course {t : Session τ} {us : List Use} {x : Option (Session τ)} (h : Turn t us x)
    {before : List Use} (hc : Course t.status before) :
    (∃ status, Course status (before ++ us)) ∧
      ∀ s, x = some s → Course s.status (before ++ us) ∧
        ∀ y, s.transaction = some y → t.transaction = some y := by
  cases h with
  | kept t' hs hx =>
    rw [List.append_nil]
    refine ⟨⟨_, hc⟩, ?_⟩
    rintro _ ⟨⟩
    rw [hs, hx]
    exact ⟨hc, fun y hy => hy⟩
  | run ha c st =>
    have hr : Course t.status (before ++ [.run c st]) := by
      rw [ha] at hc ⊢
      exact hc.run c st
    refine ⟨⟨_, hr⟩, ?_⟩
    rintro _ ⟨⟩
    exact ⟨hr, fun y hy => hy⟩
  | ended ha status us he =>
    rw [ha] at hc
    refine ⟨⟨_, hc.ended he⟩, ?_⟩
    rintro _ ⟨⟩
    refine ⟨hc.ended he, fun y hy => ?_⟩
    cases hy
  | left =>
    rw [List.append_nil]
    exact ⟨⟨_, hc⟩, fun s hs => nomatch hs⟩
  | dropped ha ok =>
    rw [ha] at hc
    exact ⟨⟨_, hc.ended (.rolledBack ok)⟩, fun s hs => nomatch hs⟩

theorem Kept.of_move {w w' : World (Traced δ) (Nat × τ)} (h : Kept w) (hw : AllSound w')
    (hm : Move w w') : Kept w' := by
  cases hm with
  | still hs hb hu =>
    refine ⟨hw, by rw [hb, hs, h.begun], ?_, ?_, ?_, ?_⟩ <;> intro i
    · simpa only [World.session?_of_eq hs] using h.own i
    · simpa only [World.session?_of_eq hs, hu] using h.course i
    · simpa only [hs, hu] using h.unused i
    · simpa only [hu] using h.linear i
  | begun s x ha hx hs hb hu =>
    have hn : uses w.sessions.length w.databases.log = [] := h.unused _ (Nat.le_refl _)
    refine ⟨hw, by rw [hb, hs, h.begun, List.length_append, List.length_singleton], ?_, ?_, ?_,
      ?_⟩ <;> intro i
    · intro t y ht hy
      rw [World.session?_of_append hs] at ht
      split at ht
      · cases ht
        rw [hx] at hy
        cases hy
        rw [h.begun]
        exact Eq.symm ‹_›
      · exact h.own i t y ht hy
    · intro t ht
      rw [World.session?_of_append hs] at ht
      rw [hu]
      split at ht
      · cases ht
        subst_vars
        rw [hn, ha]
        exact .nil
      · exact h.course i t ht
    · intro hi
      rw [hs, List.length_append, List.length_singleton] at hi
      rw [hu]
      exact h.unused i (by omega)
    · rw [hu]
      exact h.linear i
  | turned i t us x ht hx hs hb hl =>
    have hi := World.lt_of_session? ht
    have hsame : uses i w'.databases.log = uses i w.databases.log ++ us := by
      rw [hl, uses_append, uses_map_same]
    have hother : ∀ j, i ≠ j → uses j w'.databases.log = uses j w.databases.log := by
      intro j hj
      rw [hl, uses_append, uses_map_other hj, List.append_nil]
    obtain ⟨hlin, hafter⟩ := hx.course (h.course i t ht)
    refine ⟨hw, by rw [hb, hs, h.begun, List.length_set], ?_, ?_, ?_, ?_⟩ <;> intro j
    · intro t' y ht' hy
      rw [World.session?_of_set hs hi] at ht'
      split at ht'
      · subst_vars
        exact h.own _ t y ht ((hafter t' rfl).2 y hy)
      · exact h.own j t' y ht' hy
    · intro t' ht'
      rw [World.session?_of_set hs hi] at ht'
      split at ht'
      · subst_vars
        rw [hsame]
        exact (hafter t' rfl).1
      · rw [hother j ‹_›]
        exact h.course j t' ht'
    · intro hj
      rw [hs, List.length_set] at hj
      rw [hother j (by omega)]
      exact h.unused j hj
    · by_cases hij : i = j
      · rw [← hij, hsame]
        exact hlin
      · rw [hother j hij]
        exact h.linear j

theorem Kept.step {s : Scene (Traced δ) (Nat × τ)} (h : Kept s.world) (o : Operation ε) :
    Kept (step D.traced (lift direct) s o).world := by
  have hc := change_step D.traced (lift direct) s o
  exact h.of_move (h.sound.change hc) (h.move hc)

variable (D direct) in
theorem kept_run (d : δ) (depots : List Depot) (ops : List (Operation ε)) :
    Kept (run D.traced (lift direct) (initial (.initial d) depots) ops).world := by
  refine run_induction (P := fun _ s => Kept s.world) D.traced (lift direct) _ ?_ ?_ ops
  · refine ⟨?_, rfl, ?_, ?_, fun _ _ => rfl, fun _ => ⟨_, .nil⟩⟩ <;> intro i <;>
      simp [initial, World.session?]
  · intro ops o h
    exact h.step o

def Gone (i : Nat) (w : World δ τ) : Prop := i < w.sessions.length ∧ w.session? i = none

theorem Gone.move {w w' : World (Traced δ) (Nat × τ)} {i : Nat} (h : Gone i w)
    (hm : Move w w') : Gone i w' ∧ uses i w'.databases.log = uses i w.databases.log := by
  obtain ⟨hi, hn⟩ := h
  cases hm with
  | still hs hb hu => exact ⟨⟨by rw [hs]; exact hi, by rw [World.session?_of_eq hs, hn]⟩, hu i⟩
  | begun s x ha hx hs hb hu =>
    refine ⟨⟨?_, ?_⟩, hu i⟩
    · rw [hs, List.length_append]
      omega
    · rw [World.session?_of_append hs, if_neg (by omega), hn]
  | turned j t us x ht hx hs hb hl =>
    have hij : j ≠ i := by
      rintro rfl
      rw [hn] at ht
      cases ht
    refine ⟨⟨?_, ?_⟩, ?_⟩
    · rw [hs, List.length_set]
      exact hi
    · rw [World.session?_of_set hs (World.lt_of_session? ht), if_neg hij, hn]
    · rw [hl, uses_append, uses_map_other hij, List.append_nil]

theorem Gone.uses_run {s : Scene (Traced δ) (Nat × τ)} {i : Nat} (hk : Kept s.world)
    (h : Gone i s.world) (ops : List (Operation ε)) :
    uses i (run D.traced (lift direct) s ops).world.databases.log =
      uses i s.world.databases.log := by
  suffices hall : Kept (run D.traced (lift direct) s ops).world ∧
      Gone i (run D.traced (lift direct) s ops).world ∧
      uses i (run D.traced (lift direct) s ops).world.databases.log =
        uses i s.world.databases.log from hall.2.2
  refine run_induction (P := fun _ r => Kept r.world ∧ Gone i r.world ∧
    uses i r.world.databases.log = uses i s.world.databases.log) D.traced (lift direct) s
    ⟨hk, h, rfl⟩ ?_ ops
  rintro ops o ⟨hk, hg, hu⟩
  have hc := change_step D.traced (lift direct) (run D.traced (lift direct) s ops) o
  obtain ⟨hg', hu'⟩ := hg.move (hk.move hc)
  exact ⟨hk.step o, hg', hu'.trans hu⟩

theorem uses_drop {s : Scene (Traced δ) (Nat × τ)} (hk : Kept s.world) {i : Nat}
    {t : Session (Nat × τ)} (ht : s.world.session? i = some t) (ha : t.status = .active)
    (runtime : Bool) (ops : List (Operation ε)) :
    ∃ ok, uses i (run D.traced (lift direct) s (.drop i runtime :: ops)).world.databases.log =
      uses i s.world.databases.log ++ if runtime then [.rollback ok] else [] := by
  obtain ⟨x, hx⟩ := (hk.sound i t ht).exists_transaction ha
  let r := step D.traced (lift direct) s (.drop i runtime)
  have hr : r.world = s.world.drop D.traced i t runtime := by simp [r, step, onSession, ht]
  have hk' : Kept r.world := hk.step (.drop i runtime)
  have hu : ∃ ok, uses i r.world.databases.log =
      uses i s.world.databases.log ++ if runtime then [.rollback ok] else [] := by
    rw [hr]
    cases runtime with
    | true =>
      refine ⟨(D.traced.rollback s.world.databases x).1.isOk, ?_⟩
      rw [(World.drop_open D.traced s.world i t hx).2, release_log, rollback_log, uses_append,
        hk.own i t x ht hx, uses_same]
      rfl
    | false =>
      refine ⟨true, ?_⟩
      rw [(World.drop_abandoned D.traced s.world i t hx).2, release_log]
      simp
  have hg : Gone i r.world := by
    have hs : r.world.sessions = s.world.sessions.set i none := by
      rw [hr]
      cases runtime with
      | true => exact (World.drop_open D.traced s.world i t hx).1
      | false => exact (World.drop_abandoned D.traced s.world i t hx).1
    have hi := World.lt_of_session? ht
    exact ⟨by rw [hs, List.length_set]; exact hi, World.session?_of_set_self ht hs⟩
  obtain ⟨ok, hu⟩ := hu
  exact ⟨ok, (hg.uses_run hk' ops).trans hu⟩

structure LinearUse (D : Driver δ τ) (direct : ε → δ → δ) (d : δ) (depots : List Depot)
    (ops : List (Operation ε)) (r : Scene (Traced δ) (Nat × τ)) : Prop where
  run_eq : run D direct (initial d depots) ops = r.image Traced.inner Prod.snd
  course : ∀ n, ∃ status, Course status (uses n r.world.databases.log)
  own : ∀ i t x, r.world.session? i = some t → t.transaction = some x → x.1 = i
  committed_iff : ∀ i t, r.world.session? i = some t →
    (t.status = .committed ↔ .commit true ∈ uses i r.world.databases.log)
  rolledBack_iff : ∀ i t, r.world.session? i = some t →
    (t.status = .rolledBack ↔ ∃ ok, .rollback ok ∈ uses i r.world.databases.log)
  dropped : ∀ before after i t runtime, ops = before ++ .drop i runtime :: after →
    (run D.traced (lift direct) (initial (.initial d) depots) before).world.session? i = some t →
    t.status = .active →
    ∃ ok, uses i r.world.databases.log =
      uses i
          (run D.traced (lift direct) (initial (.initial d) depots) before).world.databases.log ++
        if runtime then [.rollback ok] else []

/-- Transactions are used linearly, and begins, commits and rollbacks add up. -/
theorem linear_use (D : Driver δ τ) (direct : ε → δ → δ) (d : δ) (depots : List Depot)
    (ops : List (Operation ε)) (dialect : Dialect) (steps : List (Operation Direction)) :
    LinearUse D direct d depots ops
        (run D.traced (lift direct) (initial (.initial d) depots) ops) ∧
      let s := initial (Recording.initial dialect) depots
      let w := (run Recording.driver Stage.Direction.apply s steps).world
      w.databases.begins = w.databases.commits + w.databases.rollbacks + actives w +
        abandoned Recording.driver Stage.Direction.apply s steps := by
  have hk := kept_run D direct d depots ops
  refine ⟨⟨run_traced D direct d depots ops, hk.linear, hk.own, ?_, ?_, ?_⟩,
    balanced_run dialect depots steps⟩
  · intro i t ht
    exact (hk.course i t ht).committed_iff
  · intro i t ht
    exact (hk.course i t ht).rolledBack_iff
  · rintro before after i t runtime rfl ht ha
    rw [run_append]
    exact uses_drop (kept_run D direct d depots before) ht ha runtime after

/-- A session that is dropped outside a runtime is active no more, but not rolled back either. -/
theorem abandoned_unended :
    let w := (run Recording.driver Stage.Direction.apply
      (initial (.initial .default) [⟨.default, false⟩]) [.begin 0 0, .drop 0 false]).world
    w.databases.begins = 1 ∧ w.databases.commits = 0 ∧ w.databases.rollbacks = 0 ∧
      actives w = 0 := ⟨rfl, rfl, rfl, rfl⟩

end Scene

end UnitOfWork
