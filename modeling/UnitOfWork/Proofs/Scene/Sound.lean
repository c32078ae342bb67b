import UnitOfWork.Proofs.Scene

namespace UnitOfWork

structure Session.Sound {τ : Type} (s : Session τ) : Prop where
  active_iff_depth : s.status = .active ↔ 0 < s.depth
  active_iff_open : s.status = .active ↔ s.transaction.isSome

namespace Session.Sound

variable {τ : Type} {s : Session τ}

theorem exists_transaction (h : s.Sound) (ha : s.status = .active) : ∃ x, s.transaction = some x :=
  Option.isSome_iff_exists.mp (h.active_iff_open.mp ha)

theorem active_of_transaction (h : s.Sound) {x : τ} (hx : s.transaction = some x) :
    s.status = .active := h.active_iff_open.mpr (by rw [hx]; rfl)

theorem finished (s : Session τ) {status : Status} (h : status ≠ .active) :
    (s.finished status).Sound := by
  constructor <;> simp [Session.finished, h]

theorem begun (d : Database) (depot : Depot) (c : Context) (x : τ) :
    (World.begun d depot c x).Sound := by
  constructor <;> simp [World.begun]

theorem of_active (h : s.Sound) (ha : s.status = .active) (depth : Nat) (e : Option Failure)
    (hd : 0 < depth) : Session.Sound { s with depth := depth, error := e } := by
  constructor
  · simp [ha, hd]
  · simpa using h.active_iff_open

theorem of_error (h : s.Sound) (e : Option Failure) : Session.Sound { s with error := e } :=
  ⟨h.active_iff_depth, h.active_iff_open⟩

end Session.Sound

namespace Scene

variable {δ τ ε : Type} {D : Driver δ τ} {direct : ε → δ → δ}

def AllSound (w : World δ τ) : Prop := ∀ i t, w.session? i = some t → t.Sound

theorem AllSound.of_eq {w w' : World δ τ} (h : AllSound w) (hs : w'.sessions = w.sessions) :
    AllSound w' := by
  intro i t ht
  rw [World.session?_of_eq hs] at ht
  exact h i t ht

theorem AllSound.of_set {w w' : World δ τ} (h : AllSound w) {i : Nat} {s s' : Session τ}
    (hi : w.session? i = some s) (hs : w'.sessions = w.sessions.set i (some s'))
    (h' : s'.Sound) : AllSound w' := by
  intro j t ht
  rw [World.session?_of_set hs (World.lt_of_session? hi)] at ht
  split at ht
  · cases ht
    exact h'
  · exact h j t ht

theorem AllSound.of_unset {w w' : World δ τ} (h : AllSound w) {i : Nat} {s : Session τ}
    (hi : w.session? i = some s) (hs : w'.sessions = w.sessions.set i none) : AllSound w' := by
  intro j t ht
  rw [World.session?_of_set hs (World.lt_of_session? hi)] at ht
  split at ht
  · cases ht
  · exact h j t ht

theorem AllSound.change {w w' : World δ τ} {o : Operation ε} (h : AllSound w)
    (hc : Change D direct w w' o) : AllSound w' := by
  cases hc with
  | quiet _ hs hd => exact h.of_eq hs
  | closed k hs hd => exact h.of_eq hs
  | directed x hs hd => exact h.of_eq hs
  | denied k c e hb hs hd => exact h.of_eq hs
  | begun k c x database depot context hb hs hd =>
    intro i t ht
    rw [World.session?_of_append hs] at ht
    split at ht
    · cases ht
      exact .begun ..
    · exact h i t ht
  | joined k c i t ht ha hs hd => exact h.of_set ht hs ((h i t ht).of_active ha _ _ (by omega))
  | marked i e t ht hs hd => exact h.of_set ht hs ((h i t ht).of_error e)
  | asked i q t x st ht hx hst hs hd => exact h.of_eq hs
  | left i t ht ha he h1 hs hd => exact h.of_set ht hs ((h i t ht).of_active ha _ _ (by omega))
  | committed i t x ht ha he h1 hx hc hs hd => exact h.of_set ht hs (.finished t (by simp))
  | commitFailed i t x e ht ha he h1 hx hc hs hd => exact h.of_set ht hs (.finished t (by simp))
  | failed i t ht ha h1 hs hd => exact h.of_set ht hs ((h i t ht).of_active ha _ _ (by omega))
  | rolledBack i t x ht ha h1 hx hs hd => exact h.of_set ht hs (.finished t (by simp))
  | dropped i runtime t ht hx hs hd => exact h.of_unset ht hs
  | droppedOpen i t x ht hx hs hd => exact h.of_unset ht hs
  | abandoned i t x ht hx hs hd => exact h.of_unset ht hs

variable (D direct) in
theorem sound_run (d : δ) (depots : List Depot) (ops : List (Operation ε)) :
    AllSound (run D direct (initial d depots) ops).world := by
  refine run_induction (P := fun _ s => AllSound s.world) D direct _ ?_ ?_ ops
  · intro i t ht
    simp [initial, World.session?] at ht
  · intro ops o h
    exact h.change (change_step D direct _ o)

end Scene

end UnitOfWork
