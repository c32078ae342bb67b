import Mathlib.Data.List.Induction
import UnitOfWork.Proofs.World

/-!
Runs of operations on a world whose sessions and contexts are numbered, with any driver. Main
statement: what an operation may change.
-/
namespace UnitOfWork

inductive Operation (ε : Type) where
  | derive (context : Nat) (derivation : Derivation)
  | cancel (context : Nat)
  | cancelAfter (context ms : Nat)
  | wait (ms : Nat)
  | begin (depot context : Nat)
  | commit (session : Nat)
  | rollback (session : Nat)
  | setError (session : Nat) (error : Option Failure)
  | ask (session : Nat) (request : Request)
  | drop (session : Nat) (runtime : Bool)
  | close (depot : Nat)
  | direct (direction : ε)

structure Scene (δ τ : Type) where
  world : World δ τ
  contexts : List Context

namespace Scene

variable {δ τ ε : Type} (D : Driver δ τ) (direct : ε → δ → δ)

def initial (d : δ) (depots : List Depot) : Scene δ τ :=
  ⟨⟨.initial, d, depots, [], []⟩, [.background]⟩

def withTimeline (s : Scene δ τ) (tl : Timeline) : Scene δ τ :=
  { s with world := { s.world with timeline := tl } }

def onContext (s : Scene δ τ) (c : Nat) (f : Context → Scene δ τ) : Scene δ τ :=
  match s.contexts[c]? with
  | some c => f c
  | none => s

def onSession (s : Scene δ τ) (i : Nat) (f : Session τ → World δ τ) : Scene δ τ :=
  match s.world.session? i with
  | some t => { s with world := f t }
  | none => s

def begin (s : Scene δ τ) (k : Nat) (c : Context) : Scene δ τ :=
  match s.world.depots[k]? with
  | none => s
  | some depot =>
    let r := s.world.begin D k depot c
    match r.1 with
    | .ok (_, c) => ⟨r.2, s.contexts ++ [c]⟩
    | .error _ => ⟨r.2, s.contexts⟩

def step (s : Scene δ τ) : Operation ε → Scene δ τ
  | .derive c x => s.onContext c fun c =>
    let r := c.derive s.world.timeline x
    { s.withTimeline r.2 with contexts := s.contexts ++ [r.1] }
  | .cancel c => s.onContext c fun c => s.withTimeline (s.world.timeline.cancel c.token)
  | .cancelAfter c ms =>
    s.onContext c fun c => s.withTimeline (s.world.timeline.cancelAfter c.token ms)
  | .wait ms => { s with world := s.world.wait ms }
  | .begin k c => s.onContext c fun c => s.begin D k c
  | .commit i => s.onSession i fun t => (s.world.commit D i t).2
  | .rollback i => s.onSession i fun t => (s.world.rollback D i t).2
  | .setError i e => s.onSession i fun t => s.world.setError i t e
  | .ask i q => s.onSession i fun t => (s.world.ask D t q).2
  | .drop i runtime => s.onSession i fun t => s.world.drop D i t runtime
  | .close k => { s with world := s.world.close D k }
  | .direct x => { s with world := { s.world with databases := direct x s.world.databases } }

section steps

variable {s : Scene δ τ} {i k c : Nat} {t : Session τ}

theorem step_begin {x : Context} {depot : Depot} (hx : s.contexts[c]? = some x)
    (hdepot : s.world.depots[k]? = some depot) :
    (step D direct s (.begin k c)).world = (s.world.begin D k depot x).2 := by
  simp only [step, onContext, hx, begin, hdepot]
  split <;> rfl

theorem step_commit (ht : s.world.session? i = some t) :
    (step D direct s (.commit i)).world = (s.world.commit D i t).2 := by
  simp only [step, onSession, ht]

theorem step_rollback (ht : s.world.session? i = some t) :
    (step D direct s (.rollback i)).world = (s.world.rollback D i t).2 := by
  simp only [step, onSession, ht]

theorem step_ask (ht : s.world.session? i = some t) (q : Request) :
    (step D direct s (.ask i q)).world = (s.world.ask D t q).2 := by
  simp only [step, onSession, ht]

end steps

def run (s : Scene δ τ) (ops : List (Operation ε)) : Scene δ τ := ops.foldl (step D direct) s

theorem run_append (s : Scene δ τ) (ops more : List (Operation ε)) :
    run D direct s (ops ++ more) = run D direct (run D direct s ops) more :=
  List.foldl_append

theorem run_snoc (s : Scene δ τ) (ops : List (Operation ε)) (o : Operation ε) :
    run D direct s (ops ++ [o]) = step D direct (run D direct s ops) o := by
  rw [run_append]
  rfl

theorem run_induction {P : List (Operation ε) → Scene δ τ → Prop} (s : Scene δ τ) (h : P [] s)
    (hstep : ∀ ops o, P ops (run D direct s ops) →
      P (ops ++ [o]) (step D direct (run D direct s ops) o))
    (ops : List (Operation ε)) : P ops (run D direct s ops) := by
  induction ops using List.reverseRecOn with
  | nil => exact h
  | append_singleton ops o ih =>
    rw [run_snoc]
    exact hstep ops o ih

inductive Change (w w' : World δ τ) : Operation ε → Prop where
  | quiet (o : Operation ε) (hs : w'.sessions = w.sessions) (hd : w'.databases = w.databases) :
    Change w w' o
  | closed (k : Nat) (hs : w'.sessions = w.sessions)
      (hd : w'.databases = D.close w.databases k) : Change w w' (.close k)
  | directed (x : ε) (hs : w'.sessions = w.sessions) (hd : w'.databases = direct x w.databases) :
    Change w w' (.direct x)
  | denied (k c : Nat) (e : Failure) (hb : (D.begin w.databases k).1 = .error e)
      (hs : w'.sessions = w.sessions) (hd : w'.databases = (D.begin w.databases k).2.2) :
    Change w w' (.begin k c)
  | begun (k c : Nat) (x : τ) (database : Database) (depot : Depot) (context : Context)
      (hb : (D.begin w.databases k).1 = .ok x)
      (hs : w'.sessions = w.sessions ++ [some (World.begun database depot context x)])
      (hd : w'.databases = (D.begin w.databases k).2.2) : Change w w' (.begin k c)
  | joined (k c i : Nat) (t : Session τ) (ht : w.session? i = some t) (ha : t.status = .active)
      (hs : w'.sessions = w.sessions.set i (some { t with depth := t.depth + 1 }))
      (hd : w'.databases = w.databases) : Change w w' (.begin k c)
  | marked (i : Nat) (e : Option Failure) (t : Session τ) (ht : w.session? i = some t)
      (hs : w'.sessions = w.sessions.set i (some { t with error := e }))
      (hd : w'.databases = w.databases) : Change w w' (.setError i e)
  | asked (i : Nat) (q : Request) (t : Session τ) (x : τ) (st : Statement)
      (ht : w.session? i = some t) (hx : t.transaction = some x)
      (hst : q.statement t.dialect = .ok st) (hs : w'.sessions = w.sessions)
      (hd : w'.databases = (D.run w.databases x q.call st).2) : Change w w' (.ask i q)
  | left (i : Nat) (t : Session τ) (ht : w.session? i = some t) (ha : t.status = .active)
      (he : t.error = none) (h1 : 1 < t.depth)
      (hs : w'.sessions = w.sessions.set i (some { t with depth := t.depth - 1 }))
      (hd : w'.databases = w.databases) : Change w w' (.commit i)
  | committed (i : Nat) (t : Session τ) (x : τ) (ht : w.session? i = some t)
      (ha : t.status = .active) (he : t.error = none) (h1 : ¬ 1 < t.depth)
      (hx : t.transaction = some x) (hc : (D.commit w.databases x).1 = .ok ())
      (hs : w'.sessions = w.sessions.set i (some (t.finished .committed)))
      (hd : w'.databases = (D.release (D.commit w.databases x).2 x true).2) :
    Change w w' (.commit i)
  | commitFailed (i : Nat) (t : Session τ) (x : τ) (e : Failure) (ht : w.session? i = some t)
      (ha : t.status = .active) (he : t.error = none) (h1 : ¬ 1 < t.depth)
      (hx : t.transaction = some x) (hc : (D.commit w.databases x).1 = .error e)
      (hs : w'.sessions = w.sessions.set i (some (t.finished .rolledBack)))
      (hd : w'.databases = (D.release (D.rollback (D.commit w.databases x).2 x).2 x true).2) :
    Change w w' (.commit i)
  | failed (i : Nat) (t : Session τ) (ht : w.session? i = some t) (ha : t.status = .active)
      (h1 : 1 < t.depth)
      (hs : w'.sessions = w.sessions.set i
        (some { t with depth := t.depth - 1, error := some (t.error.getD .rolledBack) }))
      (hd : w'.databases = w.databases) : Change w w' (.rollback i)
  | rolledBack (i : Nat) (t : Session τ) (x : τ) (ht : w.session? i = some t)
      (ha : t.status = .active) (h1 : ¬ 1 < t.depth) (hx : t.transaction = some x)
      (hs : w'.sessions = w.sessions.set i (some (t.finished .rolledBack)))
      (hd : w'.databases = (D.release (D.rollback w.databases x).2 x true).2) :
    Change w w' (.rollback i)
  | dropped (i : Nat) (runtime : Bool) (t : Session τ) (ht : w.session? i = some t)
      (hx : t.transaction = none) (hs : w'.sessions = w.sessions.set i none)
      (hd : w'.databases = w.databases) : Change w w' (.drop i runtime)
  | droppedOpen (i : Nat) (t : Session τ) (x : τ) (ht : w.session? i = some t)
      (hx : t.transaction = some x) (hs : w'.sessions = w.sessions.set i none)
      (hd : w'.databases = (D.release (D.rollback w.databases x).2 x true).2) :
    Change w w' (.drop i true)
  | abandoned (i : Nat) (t : Session τ) (x : τ) (ht : w.session? i = some t)
      (hx : t.transaction = some x) (hs : w'.sessions = w.sessions.set i none)
      (hd : w'.databases = (D.release w.databases x false).2) : Change w w' (.drop i false)

theorem change_commit (w : World δ τ) (i : Nat) (t : Session τ) (ht : w.session? i = some t) :
    Change D direct w (w.commit D i t).2 (.commit i) := by
  cases World.commit_case D w i t with
  | ended ha h =>
    rw [h]
    exact .quiet _ rfl rfl
  | poisoned e ha he hr hs hd => exact .quiet _ hs hd
  | nested ha he h1 hr hs hd => exact .left i t ht ha he h1 hs hd
  | refused e ha he h1 hc h =>
    rw [h]
    exact .quiet _ rfl rfl
  | absent hx h =>
    rw [h]
    exact .quiet _ rfl rfl
  | committed x ha he h1 hc hx hb hr hs hd => exact .committed i t x ht ha he h1 hx hb hs hd
  | failed x e ha he h1 hc hx hb hr hs hd => exact .commitFailed i t x e ht ha he h1 hx hb hs hd

theorem change_rollback (w : World δ τ) (i : Nat) (t : Session τ) (ht : w.session? i = some t) :
    Change D direct w (w.rollback D i t).2 (.rollback i) := by
  cases World.rollback_case D w i t with
  | ended ha h =>
    rw [h]
    exact .quiet _ rfl rfl
  | nested ha h1 hr hs hd => exact .failed i t ht ha h1 hs hd
  | absent hx h =>
    rw [h]
    exact .quiet _ rfl rfl
  | outermost x ha h1 hx hr hs hd => exact .rolledBack i t x ht ha h1 hx hs hd

theorem change_ask (w : World δ τ) (i : Nat) (t : Session τ) (q : Request)
    (ht : w.session? i = some t) : Change D direct w (w.ask D t q).2 (.ask i q) := by
  cases World.ask_case D w t q with
  | unstated e hst h =>
    rw [h]
    exact .quiet _ rfl rfl
  | ended st hst hx hr hs hd hl => exact .quiet _ hs hd
  | refused st x e hst hx hg hr hs hd hl => exact .quiet _ hs hd
  | allowed st x hst hx hg hr hs hd hl => exact .asked i q t x st ht hx hst hs hd

theorem change_drop (w : World δ τ) (i : Nat) (t : Session τ) (runtime : Bool)
    (ht : w.session? i = some t) :
    Change D direct w (w.drop D i t runtime) (.drop i runtime) := by
  cases hx : t.transaction with
  | none =>
    rw [World.drop_ended D w i t runtime hx]
    exact .dropped i runtime t ht hx rfl rfl
  | some x =>
    cases runtime with
    | true =>
      obtain ⟨hs, hd⟩ := World.drop_open D w i t hx
      exact .droppedOpen i t x ht hx hs hd
    | false =>
      obtain ⟨hs, hd⟩ := World.drop_abandoned D w i t hx
      exact .abandoned i t x ht hx hs hd

theorem change_join (w : World δ τ) (k c i : Nat) :
    Change D direct w (w.join i).2 (.begin k c) := by
  by_cases h : ∃ t, w.session? i = some t ∧ t.status = .active
  · obtain ⟨t, ht, ha⟩ := h
    obtain ⟨-, hs, hd, -⟩ := World.join_active w i t ht ha
    exact .joined k c i t ht ha hs hd
  · rw [World.join_ended w i fun t ht ha => h ⟨t, ht, ha⟩]
    exact .quiet _ rfl rfl

theorem change_start (w : World δ τ) (k c : Nat) (depot : Depot) (context : Context) :
    Change D direct w (w.start D k depot context).2 (.begin k c) := by
  cases World.start_case D w k depot context with
  | refused e hg h =>
    rw [h]
    exact .quiet _ rfl rfl
  | denied e hg hb hr hs hd => exact .denied k c e hb hs hd
  | begun x hg hb hr hs hd => exact .begun k c x _ depot context hb hs hd

theorem begin_world (s : Scene δ τ) (k : Nat) (c : Context) :
    (s.begin D k c).world = s.world ∨
      ∃ depot, (s.begin D k c).world = (s.world.begin D k depot c).2 := by
  unfold begin
  cases s.world.depots[k]? with
  | none => exact .inl rfl
  | some depot =>
    refine .inr ⟨depot, ?_⟩
    dsimp only
    split <;> rfl

theorem change_begin (s : Scene δ τ) (k c : Nat) (context : Context) :
    Change D direct s.world (s.begin D k context).world (.begin k c) := by
  obtain h | ⟨depot, h⟩ := begin_world D s k context
  · rw [h]
    exact .quiet _ rfl rfl
  · rw [h, World.begin]
    cases context.session with
    | none => exact change_start D direct s.world k c depot context
    | some i => exact change_join D direct s.world k c i

theorem change_step (s : Scene δ τ) (o : Operation ε) :
    Change D direct s.world (step D direct s o).world o := by
  have onContext (c : Nat) (f : Context → Scene δ τ)
      (hf : ∀ x, Change D direct s.world (f x).world o) :
      Change D direct s.world (s.onContext c f).world o := by
    unfold Scene.onContext
    split
    · exact hf _
    · exact .quiet _ rfl rfl
  have onSession (i : Nat) (f : Session τ → World δ τ)
      (hf : ∀ t, s.world.session? i = some t → Change D direct s.world (f t) o) :
      Change D direct s.world (s.onSession i f).world o := by
    unfold Scene.onSession
    split
    · exact hf _ ‹_›
    · exact .quiet _ rfl rfl
  cases o with
  | derive c x => exact onContext _ _ fun _ => .quiet _ rfl rfl
  | cancel c => exact onContext _ _ fun _ => .quiet _ rfl rfl
  | cancelAfter c ms => exact onContext _ _ fun _ => .quiet _ rfl rfl
  | wait ms => exact .quiet _ rfl rfl
  | begin k c => exact onContext _ _ fun x => change_begin D direct s k c x
  | commit i => exact onSession _ _ fun t ht => change_commit D direct s.world i t ht
  | rollback i => exact onSession _ _ fun t ht => change_rollback D direct s.world i t ht
  | setError i e =>
    refine onSession _ _ fun t ht => .marked i e t ht ?_ ?_ <;> cases e <;> rfl
  | ask i q => exact onSession _ _ fun t ht => change_ask D direct s.world i t q ht
  | drop i runtime => exact onSession _ _ fun t ht => change_drop D direct s.world i t runtime ht
  | close k => exact .closed k rfl rfl
  | direct x => exact .directed x rfl rfl

section

variable {D direct}

theorem length_le_of_change {w w' : World δ τ} {o : Operation ε} (h : Change D direct w w' o) :
    w.sessions.length ≤ w'.sessions.length := by
  cases h <;> simp [*]

theorem Change.captured {w w' : World δ τ} {o : Operation ε} (h : Change D direct w w' o) {i : Nat}
    (hi : i < w.sessions.length) {t' : Session τ} (ht' : w'.session? i = some t') :
    ∃ t, w.session? i = some t ∧ t'.token = t.token ∧ t'.deadline = t.deadline := by
  have same (hs : w'.sessions = w.sessions) :
      ∃ t, w.session? i = some t ∧ t'.token = t.token ∧ t'.deadline = t.deadline := by
    rw [World.session?_of_eq hs] at ht'
    exact ⟨t', ht', rfl, rfl⟩
  have changed (j : Nat) (t u : Session τ) (ht : w.session? j = some t)
      (hs : w'.sessions = w.sessions.set j (some u)) (htoken : u.token = t.token)
      (hdeadline : u.deadline = t.deadline) :
      ∃ t, w.session? i = some t ∧ t'.token = t.token ∧ t'.deadline = t.deadline := by
    rw [World.session?_of_set hs (World.lt_of_session? ht)] at ht'
    split at ht'
    · subst j
      cases ht'
      exact ⟨t, ht, htoken, hdeadline⟩
    · exact ⟨t', ht', rfl, rfl⟩
  have forgotten (j : Nat) (t : Session τ) (ht : w.session? j = some t)
      (hs : w'.sessions = w.sessions.set j none) :
      ∃ t, w.session? i = some t ∧ t'.token = t.token ∧ t'.deadline = t.deadline := by
    rw [World.session?_of_set hs (World.lt_of_session? ht)] at ht'
    split at ht'
    · cases ht'
    · exact ⟨t', ht', rfl, rfl⟩
  cases h with
  | quiet _ hs | closed _ hs | directed _ hs | denied _ _ _ _ hs => exact same hs
  | asked j q t x st ht hx hst hs => exact same hs
  | begun k c x database depot context hb hs =>
    rw [World.session?_of_append hs, if_neg (Nat.ne_of_lt hi)] at ht'
    exact ⟨t', ht', rfl, rfl⟩
  | joined k c j t ht ha hs => exact changed j t _ ht hs rfl rfl
  | marked j e t ht hs => exact changed j t _ ht hs rfl rfl
  | left j t ht ha he h1 hs => exact changed j t _ ht hs rfl rfl
  | committed j t x ht ha he h1 hx hc hs => exact changed j t _ ht hs rfl rfl
  | commitFailed j t x e ht ha he h1 hx hc hs => exact changed j t _ ht hs rfl rfl
  | failed j t ht ha h1 hs => exact changed j t _ ht hs rfl rfl
  | rolledBack j t x ht ha h1 hx hs => exact changed j t _ ht hs rfl rfl
  | dropped j runtime t ht hx hs => exact forgotten j t ht hs
  | droppedOpen j t x ht hx hs => exact forgotten j t ht hs
  | abandoned j t x ht hx hs => exact forgotten j t ht hs

theorem Change.length_eq {w w' : World δ τ} {o : Operation ε} (h : Change D direct w w' o)
    (ho : ∀ k c, o ≠ .begin k c) : w'.sessions.length = w.sessions.length := by
  cases h with
  | begun k c => exact absurd rfl (ho k c)
  | _ => simp [*]

variable (D direct) in
theorem captured_run (s : Scene δ τ) {i : Nat} (hi : i < s.world.sessions.length)
    (ops : List (Operation ε)) {t' : Session τ}
    (ht' : (run D direct s ops).world.session? i = some t') :
    ∃ t, s.world.session? i = some t ∧ t'.token = t.token ∧ t'.deadline = t.deadline := by
  induction ops generalizing s with
  | nil => exact ⟨t', ht', rfl, rfl⟩
  | cons o ops ih =>
    have hchange := change_step D direct s o
    obtain ⟨t₁, ht₁, htoken₁, hdeadline₁⟩ :=
      ih (step D direct s o) (Nat.lt_of_lt_of_le hi (length_le_of_change hchange)) ht'
    obtain ⟨t, ht, htoken, hdeadline⟩ := hchange.captured hi ht₁
    exact ⟨t, ht, htoken₁.trans htoken, hdeadline₁.trans hdeadline⟩

end

theorem length_le_run (s : Scene δ τ) (ops : List (Operation ε)) :
    s.world.sessions.length ≤ (run D direct s ops).world.sessions.length := by
  refine run_induction (P := fun _ r => s.world.sessions.length ≤ r.world.sessions.length)
    D direct s (Nat.le_refl _) ?_ ops
  intro ops o h
  exact Nat.le_trans h (length_le_of_change (change_step D direct _ o))

end Scene

end UnitOfWork
