import UnitOfWork.Proofs.LinearUse

namespace UnitOfWork.Scene

open Traced

variable {δ τ ε : Type}

inductive Fate (t : Session τ) (i : Nat) : Operation ε → List Use → Option (Session τ) → Prop where
  | asked (ha : t.status = .active) (q : Request) (st : Statement) :
    Fate t i (.ask i q) [.run q.call st] (some t)
  | joined (ha : t.status = .active) (k c : Nat) :
    Fate t i (.begin k c) [] (some { t with depth := t.depth + 1 })
  | marked (e : Option Failure) : Fate t i (.setError i e) [] (some { t with error := e })
  | left (ha : t.status = .active) (he : t.error = none) (h1 : 1 < t.depth) :
    Fate t i (.commit i) [] (some { t with depth := t.depth - 1 })
  | committed (ha : t.status = .active) (h1 : ¬ 1 < t.depth) (status : Status) (us : List Use)
      (he : Ending status us) (hs : status ≠ .active) :
    Fate t i (.commit i) us (some (t.finished status))
  | failed (ha : t.status = .active) (h1 : 1 < t.depth) :
    Fate t i (.rollback i) []
      (some { t with depth := t.depth - 1, error := some (t.error.getD .rolledBack) })
  | rolledBack (ha : t.status = .active) (h1 : ¬ 1 < t.depth) (ok : Bool) :
    Fate t i (.rollback i) [.rollback ok] (some (t.finished .rolledBack))
  | dropped (runtime : Bool) : Fate t i (.drop i runtime) [] none
  | droppedOpen (ha : t.status = .active) (ok : Bool) : Fate t i (.drop i true) [.rollback ok] none

variable {D : Driver δ τ} {direct : ε → δ → δ}

inductive Result (w w' : World (Traced δ) (Nat × τ)) (o : Operation ε) (i : Nat) : Prop where
  | alone (hs : w'.session? i = w.session? i)
      (hu : uses i w'.databases.log = uses i w.databases.log) : Result w w' o i
  | made (t : Session (Nat × τ)) (us : List Use) (ht : w.session? i = some t)
      (hf : Fate t i o us (w'.session? i))
      (hu : uses i w'.databases.log = uses i w.databases.log ++ us) : Result w w' o i

namespace Result

variable {w w' : World (Traced δ) (Nat × τ)} {o : Operation ε} {i j : Nat} {t : Session (Nat × τ)}
  {x : Option (Session (Nat × τ))}

theorem of_eq (hs : w'.sessions = w.sessions)
    (hu : uses i w'.databases.log = uses i w.databases.log) : Result w w' o i :=
  .alone (World.session?_of_eq hs i) hu

theorem of_set (us : List Use) (ht : w.session? j = some t) (hs : w'.sessions = w.sessions.set j x)
    (hl : w'.databases.log = w.databases.log ++ us.map (.use j))
    (hf : j = i → Fate t i o us x) : Result w w' o i := by
  have hx := World.session?_of_set hs (World.lt_of_session? ht) i
  by_cases hj : j = i
  · subst hj
    rw [if_pos rfl] at hx
    refine .made t us ht ?_ (by rw [hl, uses_append, uses_map_same])
    rw [hx]
    exact hf rfl
  · rw [if_neg hj] at hx
    exact .alone hx (by rw [hl, uses_append, uses_map_other hj, List.append_nil])

theorem of_unused (ht : w.session? j = some t) (hs : w'.sessions = w.sessions.set j x)
    (hd : w'.databases = w.databases) (hf : j = i → Fate t i o [] x) : Result w w' o i :=
  of_set [] ht hs (by rw [hd, List.map_nil, List.append_nil]) hf

end Result

theorem Kept.result {w w' : World (Traced δ) (Nat × τ)} {o : Operation ε} (h : Kept w)
    (hc : Change D.traced (lift direct) w w' o) {i : Nat} (hi : i < w.sessions.length) :
    Result w w' o i := by
  cases hc with
  | quiet _ hs hd => exact .of_eq hs (by rw [hd])
  | closed k hs hd => exact .of_eq hs (by rw [hd]; rfl)
  | directed x hs hd => exact .of_eq hs (by rw [hd]; rfl)
  | denied k c e hb hs hd =>
    refine .of_eq hs ?_
    rw [hd, (begin_error D _ k hb).2, uses_append, uses_begin, List.append_nil]
  | begun k c x database depot context hb hs hd =>
    refine .alone ?_ ?_
    · rw [World.session?_of_append hs, if_neg (Nat.ne_of_lt hi)]
    · rw [hd, (begin_ok D _ k hb).2.2, uses_append, uses_begin, List.append_nil]
  | joined k c j t ht ha hs hd => exact .of_unused ht hs hd fun _ => .joined ha k c
  | marked j e t ht hs hd =>
    refine .of_unused ht hs hd ?_
    rintro rfl
    exact .marked e
  | asked j q t x st ht hx hst hs hd =>
    have ha := (h.sound j t ht).active_of_transaction hx
    refine .of_set [.run q.call st] ht (hs.trans (World.set_of_session? ht).symm) ?_ ?_
    · rw [hd, run_log, h.own j t x ht hx]
      rfl
    · rintro rfl
      exact .asked ha q st
  | left j t ht ha he h1 hs hd =>
    refine .of_unused ht hs hd ?_
    rintro rfl
    exact .left ha he h1
  | committed j t x ht ha he h1 hx hc hs hd =>
    refine .of_set [.commit true] ht hs ?_ ?_
    · rw [hd, release_log, commit_log, hc, h.own j t x ht hx]
      rfl
    · rintro rfl
      exact .committed ha h1 _ _ .committed (by simp)
  | commitFailed j t x e ht ha he h1 hx hc hs hd =>
    let ok := (D.traced.rollback (D.traced.commit w.databases x).2 x).1.isOk
    refine .of_set [.commit false, .rollback ok] ht hs ?_ ?_
    · rw [hd, release_log, rollback_log, commit_log, hc, h.own j t x ht hx, List.append_assoc]
      rfl
    · rintro rfl
      exact .committed ha h1 _ _ (.commitFailed ok) (by simp)
  | failed j t ht ha h1 hs hd =>
    refine .of_unused ht hs hd ?_
    rintro rfl
    exact .failed ha h1
  | rolledBack j t x ht ha h1 hx hs hd =>
    let ok := (D.traced.rollback w.databases x).1.isOk
    refine .of_set [.rollback ok] ht hs ?_ ?_
    · rw [hd, release_log, rollback_log, h.own j t x ht hx]
      rfl
    · rintro rfl
      exact .rolledBack ha h1 ok
  | dropped j runtime t ht hx hs hd =>
    refine .of_unused ht hs hd ?_
    rintro rfl
    exact .dropped runtime
  | droppedOpen j t x ht hx hs hd =>
    have ha := (h.sound j t ht).active_of_transaction hx
    let ok := (D.traced.rollback w.databases x).1.isOk
    refine .of_set [.rollback ok] ht hs ?_ ?_
    · rw [hd, release_log, rollback_log, h.own j t x ht hx]
      rfl
    · rintro rfl
      exact .droppedOpen ha ok
  | abandoned j t x ht hx hs hd =>
    refine .of_set [] ht hs ?_ ?_
    · rw [hd, release_log, List.map_nil, List.append_nil]
    · rintro rfl
      exact .dropped false

structure Ended (i : Nat) (w : World δ τ) : Prop where
  begun : i < w.sessions.length
  inactive : ∀ t, w.session? i = some t → t.status ≠ .active

structure Settled (i : Nat) (w w' : World (Traced δ) (Nat × τ)) : Prop where
  ended : Ended i w'
  status : ∀ t', w'.session? i = some t' → ∃ t, w.session? i = some t ∧ t'.status = t.status
  calls : uses i w'.databases.log = uses i w.databases.log

theorem Settled.refl {i : Nat} {w : World (Traced δ) (Nat × τ)} (h : Ended i w) :
    Settled i w w := ⟨h, fun t ht => ⟨t, ht, rfl⟩, rfl⟩

theorem Settled.trans {i : Nat} {w w' w'' : World (Traced δ) (Nat × τ)} (h : Settled i w w')
    (h' : Settled i w' w'') : Settled i w w'' := by
  refine ⟨h'.ended, ?_, h'.calls.trans h.calls⟩
  intro t'' ht''
  obtain ⟨t', ht', hs'⟩ := h'.status t'' ht''
  obtain ⟨t, ht, hs⟩ := h.status t' ht'
  exact ⟨t, ht, hs'.trans hs⟩

theorem Ended.change {w w' : World (Traced δ) (Nat × τ)} {o : Operation ε} {i : Nat}
    (h : Ended i w) (hk : Kept w) (hc : Change D.traced (lift direct) w w' o) :
    Settled i w w' := by
  have hi : i < w'.sessions.length := Nat.lt_of_lt_of_le h.begun (length_le_of_change hc)
  cases hk.result hc h.begun with
  | alone hs hu =>
    refine ⟨⟨hi, ?_⟩, ?_, hu⟩
    · rw [hs]
      exact h.inactive
    · rw [hs]
      exact fun t ht => ⟨t, ht, rfl⟩
  | made t us ht hf hu =>
    have hn := h.inactive t ht
    generalize hx : w'.session? i = x at hf
    -- only a mark and a drop are left; whatever else there is needs an active session
    cases hf with
    | marked e =>
      refine ⟨⟨hi, ?_⟩, ?_, by rw [hu, List.append_nil]⟩ <;> rw [hx] <;> rintro _ ⟨⟩
      · exact hn
      · exact ⟨t, ht, rfl⟩
    | dropped runtime =>
      refine ⟨⟨hi, ?_⟩, ?_, by rw [hu, List.append_nil]⟩ <;> rw [hx] <;> rintro _ ⟨⟩
    | asked ha q st => exact absurd ha hn
    | joined ha k c => exact absurd ha hn
    | left ha he h1 => exact absurd ha hn
    | committed ha h1 status us he hs => exact absurd ha hn
    | failed ha h1 => exact absurd ha hn
    | rolledBack ha h1 ok => exact absurd ha hn
    | droppedOpen ha ok => exact absurd ha hn

theorem Ended.run {s : Scene (Traced δ) (Nat × τ)} {i : Nat} (h : Ended i s.world)
    (hk : Kept s.world) (ops : List (Operation ε)) :
    Settled i s.world (run D.traced (lift direct) s ops).world := by
  induction ops generalizing s with
  | nil => exact .refl h
  | cons o ops ih =>
    have hs := h.change hk (change_step D.traced (lift direct) s o)
    exact hs.trans (ih hs.ended (hk.step o))

end UnitOfWork.Scene
