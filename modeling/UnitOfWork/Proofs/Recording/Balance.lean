import UnitOfWork.Proofs.Scene.Sound
import UnitOfWork.Stage

namespace UnitOfWork

namespace Recording

def ended (r : Recording) : Nat := r.commits + r.rollbacks

theorem begin_ok (r : Recording) (k : Nat) (h : (driver.begin r k).1 = .ok ()) :
    (driver.begin r k).2.2.begins = r.begins + 1 ∧ (driver.begin r k).2.2.ended = r.ended := by
  simp only [driver, begin] at h ⊢
  cases hf : r.failBegin with
  | some m => simp [hf] at h
  | none => exact ⟨rfl, rfl⟩

theorem begin_error (r : Recording) (k : Nat) {e : Failure} (h : (driver.begin r k).1 = .error e) :
    (driver.begin r k).2.2.begins = r.begins ∧ (driver.begin r k).2.2.ended = r.ended := by
  simp only [driver, begin] at h ⊢
  cases hf : r.failBegin with
  | some m => exact ⟨rfl, rfl⟩
  | none => simp [hf] at h

theorem run_counts (r : Recording) (u : Unit) (c : Call) (st : Statement) :
    (driver.run r u c st).2.begins = r.begins ∧ (driver.run r u c st).2.ended = r.ended := by
  simp only [driver, run, record]
  cases r.failNext with
  | some m => exact ⟨rfl, rfl⟩
  | none => cases c <;> exact ⟨rfl, rfl⟩

theorem commit_ok (r : Recording) (u : Unit) (h : (driver.commit r u).1 = .ok ()) :
    (driver.commit r u).2.begins = r.begins ∧ (driver.commit r u).2.ended = r.ended + 1 := by
  simp only [driver, commit] at h ⊢
  cases hf : r.failCommit with
  | some m => simp [hf] at h
  | none => exact ⟨rfl, by simp only [ended]; omega⟩

theorem commit_error (r : Recording) (u : Unit) {e : Failure}
    (h : (driver.commit r u).1 = .error e) :
    (driver.commit r u).2.begins = r.begins ∧ (driver.commit r u).2.ended = r.ended := by
  simp only [driver, commit] at h ⊢
  cases hf : r.failCommit with
  | some m => exact ⟨rfl, rfl⟩
  | none => simp [hf] at h

theorem rollback_counts (r : Recording) (u : Unit) :
    (driver.rollback r u).2.begins = r.begins ∧ (driver.rollback r u).2.ended = r.ended + 1 := by
  simp only [driver, rollback]
  cases r.failRollback with
  | some m => exact ⟨rfl, by simp only [ended]; omega⟩
  | none => exact ⟨rfl, by simp only [ended]; omega⟩

theorem direct_counts (x : Direction) (r : Recording) :
    (Stage.Direction.apply x r).begins = r.begins ∧
      (Stage.Direction.apply x r).ended = r.ended := by
  cases x <;> exact ⟨rfl, rfl⟩

end Recording

namespace Scene

variable {δ τ ε : Type} {D : Driver δ τ} {direct : ε → δ → δ}

def actives (w : World δ τ) : Nat := w.sessions.countP fun s => s.any (·.status = .active)

def abandons (s : Scene δ τ) : Operation ε → Bool
  | .drop i false => (s.world.session? i).any (·.status = .active)
  | _ => false

def abandoned (D : Driver δ τ) (direct : ε → δ → δ) (s : Scene δ τ) : List (Operation ε) → Nat
  | [] => 0
  | o :: ops => (abandons s o).toNat + abandoned D direct (step D direct s o) ops

theorem abandoned_snoc (s : Scene δ τ) (ops : List (Operation ε)) (o : Operation ε) :
    abandoned D direct s (ops ++ [o]) =
      abandoned D direct s ops + (abandons (run D direct s ops) o).toNat := by
  induction ops generalizing s with
  | nil => simp [abandoned, run]
  | cons p ops ih =>
    rw [List.cons_append, abandoned, abandoned, ih, Nat.add_assoc]
    rfl

theorem actives_of_set {w w' : World δ τ} {i : Nat} {t : Session τ} {x : Option (Session τ)}
    (ht : w.session? i = some t) (hs : w'.sessions = w.sessions.set i x) :
    actives w' + (decide (t.status = .active)).toNat =
      actives w + (x.any (·.status = .active)).toNat := by
  have hi := World.lt_of_session? ht
  have he : w.sessions[i] = some t := by
    simpa [World.session?, List.getElem?_eq_getElem hi] using ht
  have hpos : t.status = .active → 0 < actives w := by
    intro ha
    apply List.countP_pos_iff.mpr
    exact ⟨some t, he ▸ List.getElem_mem hi, by simp [ha]⟩
  rw [actives, hs, List.countP_set hi, he]
  change actives w - _ + _ + _ = actives w + _
  generalize actives w = n at hpos
  by_cases ha : t.status = .active
  · have hn := hpos ha
    cases x.any (·.status = .active) <;> simp [ha] <;> omega
  · cases x.any (·.status = .active) <;> simp [ha]

def Balanced (w : World Recording Unit) (n : Nat) : Prop :=
  w.databases.begins = w.databases.ended + actives w + n

theorem Balanced.of_eq {w w' : World Recording Unit} {n : Nat} (h : Balanced w n)
    (hs : w'.sessions = w.sessions)
    (hd : w'.databases.begins = w.databases.begins ∧ w'.databases.ended = w.databases.ended) :
    Balanced w' n := by
  rw [Balanced, hd.1, hd.2, actives, hs]
  exact h

theorem Balanced.of_set {w w' : World Recording Unit} {n : Nat} (h : Balanced w n) {i : Nat}
    {t : Session Unit} {x : Option (Session Unit)} (ht : w.session? i = some t)
    (hs : w'.sessions = w.sessions.set i x)
    (hx : x.any (·.status = .active) = decide (t.status = .active))
    (hd : w'.databases = w.databases) : Balanced w' n := by
  have ha := actives_of_set ht hs
  rw [hx] at ha
  rw [Balanced, hd] at *
  omega

theorem Balanced.of_end {w w' : World Recording Unit} {n m : Nat} (h : Balanced w n) {i : Nat}
    {t : Session Unit} {x : Option (Session Unit)} (ht : w.session? i = some t)
    (ha : t.status = .active) (hs : w'.sessions = w.sessions.set i x)
    (hx : x.any (·.status = .active) = false)
    (hd : w'.databases.begins = w.databases.begins ∧
      w'.databases.ended + m = w.databases.ended + n + 1) : Balanced w' m := by
  have hn := actives_of_set ht hs
  simp only [ha, hx, decide_true, Bool.toNat_true, Bool.toNat_false] at hn
  rw [Balanced] at *
  omega

theorem Balanced.of_rollback {w w' : World Recording Unit} {n : Nat} (h : Balanced w n) {i : Nat}
    {t : Session Unit} {s : Option (Session Unit)} {r : Recording} {x : Unit}
    (ht : w.session? i = some t) (ha : t.status = .active) (hs : w'.sessions = w.sessions.set i s)
    (hn : s.any (·.status = .active) = false)
    (hr : r.begins = w.databases.begins ∧ r.ended = w.databases.ended)
    (hd : w'.databases = (Recording.driver.rollback r x).2) : Balanced w' n := by
  obtain ⟨hbegins, hended⟩ := Recording.rollback_counts r x
  refine h.of_end ht ha hs hn ⟨?_, ?_⟩
  · rw [hd, hbegins, hr.1]
  · rw [hd, hended, hr.2]
    omega

theorem Balanced.change {w w' : World Recording Unit} {n : Nat} {o : Operation Direction}
    (h : Balanced w n) (hw : AllSound w)
    (hc : Change Recording.driver Stage.Direction.apply w w' o) (ho : ∀ i, o ≠ .drop i false) :
    Balanced w' n := by
  cases hc with
  | quiet _ hs hd => exact h.of_eq hs (by simp [hd])
  | closed k hs hd => exact h.of_eq hs (by rw [hd]; exact ⟨rfl, rfl⟩)
  | directed x hs hd => exact h.of_eq hs (by rw [hd]; exact Recording.direct_counts x _)
  | denied k c e hb hs hd => exact h.of_eq hs (by rw [hd]; exact Recording.begin_error _ k hb)
  | begun k c x database depot context hb hs hd =>
    obtain ⟨hbegins, hended⟩ := Recording.begin_ok _ k hb
    have ha : actives w' = actives w + 1 := by
      rw [actives, hs, List.countP_append]
      rfl
    rw [Balanced, hd, hbegins, hended, ha, show w.databases.begins = _ from h]
    omega
  | joined k c i t ht ha hs hd => exact h.of_set ht hs rfl hd
  | marked i e t ht hs hd => exact h.of_set ht hs rfl hd
  | asked i q t x st ht hx hst hs hd =>
    exact h.of_eq hs (by rw [hd]; exact Recording.run_counts _ x _ st)
  | left i t ht ha he h1 hs hd => exact h.of_set ht hs rfl hd
  | committed i t x ht ha he h1 hx hc hs hd =>
    obtain ⟨hbegins, hended⟩ := Recording.commit_ok _ x hc
    refine h.of_end ht ha hs rfl ⟨?_, ?_⟩ <;> rw [hd]
    · exact hbegins
    · change (Recording.driver.commit _ _).2.ended + n = _
      omega
  | commitFailed i t x e ht ha he h1 hx hc hs hd =>
    exact h.of_rollback ht ha hs rfl (Recording.commit_error _ x hc) hd
  | failed i t ht ha h1 hs hd => exact h.of_set ht hs rfl hd
  | rolledBack i t x ht ha h1 hx hs hd => exact h.of_rollback ht ha hs rfl ⟨rfl, rfl⟩ hd
  | dropped i runtime t ht hx hs hd =>
    have ha : t.status ≠ .active := by
      intro ha
      obtain ⟨y, hy⟩ := (hw i t ht).exists_transaction ha
      rw [hx] at hy
      cases hy
    exact h.of_set ht hs (by simp [ha]) hd
  | droppedOpen i t x ht hx hs hd =>
    exact h.of_rollback ht ((hw i t ht).active_of_transaction hx) hs rfl ⟨rfl, rfl⟩ hd
  | abandoned i t x ht hx hs hd => exact absurd rfl (ho i)

theorem Balanced.abandon {s : Scene Recording Unit} {n : Nat} (h : Balanced s.world n)
    (hw : AllSound s.world) (i : Nat) :
    Balanced (step Recording.driver Stage.Direction.apply s (.drop i false)).world
      (n + (abandons s (.drop i false : Operation Direction)).toNat) := by
  cases ht : s.world.session? i with
  | none => simpa [step, onSession, abandons, ht] using h
  | some t =>
    have hr : (step Recording.driver Stage.Direction.apply s (.drop i false)).world =
        s.world.drop Recording.driver i t false := by
      simp [step, onSession, ht]
    rw [hr]
    by_cases ha : t.status = .active
    · obtain ⟨x, hx⟩ := (hw i t ht).exists_transaction ha
      obtain ⟨hs, hd⟩ := World.drop_abandoned Recording.driver s.world i t hx
      refine h.of_end ht ha hs rfl ?_
      rw [hd]
      simp [abandons, ht, ha, Recording.driver]
      omega
    · have hx : t.transaction = none := by
        cases hx : t.transaction with
        | none => rfl
        | some x => exact absurd ((hw i t ht).active_of_transaction hx) ha
      rw [World.drop_ended Recording.driver s.world i t false hx]
      have hn : abandons s (.drop i false : Operation Direction) = false := by
        simp [abandons, ht, ha]
      rw [hn]
      exact h.of_set ht rfl (by simp [ha]) rfl

theorem balanced_run (dialect : Dialect) (depots : List Depot) (ops : List (Operation Direction)) :
    let s : Scene Recording Unit := initial (.initial dialect) depots
    Balanced (run Recording.driver Stage.Direction.apply s ops).world
      (abandoned Recording.driver Stage.Direction.apply s ops) := by
  intro s
  refine run_induction (P := fun ops r => Balanced r.world
    (abandoned Recording.driver Stage.Direction.apply s ops)) _ _ s rfl ?_ ops
  intro ops o h
  have hw := sound_run Recording.driver Stage.Direction.apply (.initial dialect) depots ops
  rw [abandoned_snoc]
  by_cases ho : ∃ i, o = .drop i false
  · obtain ⟨i, rfl⟩ := ho
    exact h.abandon hw i
  · have hn : abandons (run Recording.driver Stage.Direction.apply s ops) o = false := by
      unfold abandons
      split
      · exact absurd ⟨_, rfl⟩ ho
      · rfl
    rw [hn]
    exact h.change hw (change_step _ _ _ o) fun i hi => ho ⟨i, hi⟩

end Scene

end UnitOfWork
