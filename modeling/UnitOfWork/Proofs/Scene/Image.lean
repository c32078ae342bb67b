import UnitOfWork.Proofs.Driver.Traced
import UnitOfWork.Proofs.Scene

/-!
Runs with a driver that does all that another one does, and more. Main statements: such a run, seen
as one with the other driver, is one; in particular a log makes no difference.
-/
namespace UnitOfWork

variable {δ δ' τ τ' ε : Type}

structure Driver.Image (D : Driver δ τ) (E : Driver δ' τ') (f : δ → δ') (g : τ → τ') : Prop where
  database (d : δ) (k : Nat) : E.database (f d) k = D.database d k
  beginDelay (d : δ) (k : Nat) : E.beginDelay (f d) k = D.beginDelay d k
  begin (d : δ) (k : Nat) : E.begin (f d) k =
    ((D.begin d k).1.map g, (D.begin d k).2.1, f (D.begin d k).2.2)
  delay (d : δ) (x : τ) : E.delay (f d) (g x) = D.delay d x
  run (d : δ) (x : τ) (c : Call) (st : Statement) :
    E.run (f d) (g x) c st = ((D.run d x c st).1, f (D.run d x c st).2)
  commit (d : δ) (x : τ) : E.commit (f d) (g x) = ((D.commit d x).1, f (D.commit d x).2)
  rollback (d : δ) (x : τ) : E.rollback (f d) (g x) = ((D.rollback d x).1, f (D.rollback d x).2)
  release (d : δ) (x : τ) (runtime : Bool) :
    E.release (f d) (g x) runtime = ((D.release d x runtime).1, f (D.release d x runtime).2)
  close (d : δ) (k : Nat) : E.close (f d) k = f (D.close d k)

def Session.image (g : τ → τ') (t : Session τ) : Session τ' :=
  { t with transaction := t.transaction.map g }

namespace World

variable (f : δ → δ') (g : τ → τ')

def image (w : World δ τ) : World δ' τ' :=
  ⟨w.timeline, f w.databases, w.depots, w.sessions.map (Option.map (Session.image g)), w.log⟩

theorem image_depots (w : World δ τ) : (w.image f g).depots = w.depots := rfl

theorem image_session? (w : World δ τ) (i : Nat) :
    (w.image f g).session? i = (w.session? i).map (Session.image g) := by
  simp only [session?, image, List.getElem?_map]
  cases w.sessions[i]? <;> rfl

variable {D : Driver δ τ} {E : Driver δ' τ'} {f g}

theorem image_wait (w : World δ τ) (ms : Nat) :
    (w.image f g).wait ms = (w.wait ms).image f g := rfl

theorem image_commitTransaction (h : D.Image E f g) (w : World δ τ) (i : Nat) (t : Session τ)
    (x : τ) :
    (w.image f g).commitTransaction E i (t.image g) (g x) =
      ((w.commitTransaction D i t x).1, (w.commitTransaction D i t x).2.image f g) := by
  simp only [commitTransaction, wait_databases]
  rw [show (w.image f g).databases = f w.databases from rfl, h.commit, h.delay, image_wait]
  cases D.commit w.databases x with
  | mk r d =>
    cases r with
    | ok =>
      simp [release, note, notes, setSession, image, h.release, Session.image,
        Session.finished, List.map_set]
    | error e =>
      dsimp only
      rw [h.rollback]
      cases hr : (D.rollback d x).1 <;>
      simp [release, note, notes, setSession, image, h.release, Session.image,
        Session.finished, List.map_set]

theorem image_commit (h : D.Image E f g) (w : World δ τ) (i : Nat) (t : Session τ) :
    (w.image f g).commit E i (t.image g) =
      ((w.commit D i t).1, (w.commit D i t).2.image f g) := by
  have hc := image_commitTransaction h w i t
  obtain ⟨database, dialect, logSql, token, deadline, depth, error, status, transaction⟩ := t
  simp only [commit, Session.image]
  by_cases ha : status = .active
  · simp only [ha, if_true]
    cases error with
    | some e => rfl
    | none =>
      by_cases h1 : 1 < depth
      · simp [h1, note, setSession, image, Session.image, List.map_set]
      · simp only [h1, if_false, show (w.image f g).timeline = w.timeline from rfl]
        cases w.timeline.check token deadline with
        | error e => rfl
        | ok =>
          cases transaction with
          | none => rfl
          | some x => simpa [ha, Session.image] using hc x
  · simp [ha]

theorem image_rollback (h : D.Image E f g) (w : World δ τ) (i : Nat) (t : Session τ) :
    (w.image f g).rollback E i (t.image g) =
      ((w.rollback D i t).1, (w.rollback D i t).2.image f g) := by
  obtain ⟨database, dialect, logSql, token, deadline, depth, error, status, transaction⟩ := t
  simp only [rollback, Session.image]
  by_cases ha : status = .active
  · by_cases h1 : 1 < depth
    · simp [ha, h1, note, setSession, image, Session.image, List.map_set]
    · cases transaction with
      | none => simp [ha, h1]
      | some x =>
        simp [ha, h1, h.rollback, release, note, notes, setSession, image, h.release,
          Session.image, Session.finished, List.map_set]
  · simp [ha]

theorem image_setError (w : World δ τ) (i : Nat) (t : Session τ) (e : Option Failure) :
    (w.image f g).setError i (t.image g) e = (w.setError i t e).image f g := by
  cases e <;> simp [setError, note, setSession, image, Session.image, List.map_set]

theorem image_ask (h : D.Image E f g) (w : World δ τ) (t : Session τ) (q : Request) :
    (w.image f g).ask E (t.image g) q = ((w.ask D t q).1, (w.ask D t q).2.image f g) := by
  obtain ⟨database, dialect, logSql, token, deadline, depth, error, status, transaction⟩ := t
  simp only [ask, Session.image]
  cases q.statement dialect with
  | error e => rfl
  | ok st =>
    cases transaction with
    | none => rfl
    | some x =>
      simp only [Option.map_some, runStatement, guarded, note, image, h.delay]
      cases (w.timeline.guarded token deadline (D.delay w.databases x)).1 with
      | error e => rfl
      | ok =>
        dsimp only
        rw [h.run]
        cases D.run w.databases x q.call st with
        | mk r d => cases r <;> rfl

theorem image_drop (h : D.Image E f g) (w : World δ τ) (i : Nat) (t : Session τ)
    (runtime : Bool) :
    (w.image f g).drop E i (t.image g) runtime = (w.drop D i t runtime).image f g := by
  obtain ⟨database, dialect, logSql, token, deadline, depth, error, status, transaction⟩ := t
  cases transaction with
  | none => simp [drop, Session.image, image, List.map_set]
  | some x =>
    cases runtime with
    | true =>
      simp only [drop, Session.image, Option.map_some, image, h.rollback, if_true]
      cases (D.rollback w.databases x).1 <;>
        simp [release, note, notes, h.release, List.map_set]
    | false => simp [drop, Session.image, image, release, note, notes, h.release, List.map_set]

theorem image_join (w : World δ τ) (i : Nat) :
    (w.image f g).join i = ((w.join i).1, (w.join i).2.image f g) := by
  simp only [join, image_session?]
  cases w.session? i with
  | none => rfl
  | some t =>
    by_cases ha : t.status = .active
    · simp [ha, note, setSession, image, Session.image, List.map_set]
    · simp [ha, Session.image]

theorem image_start (h : D.Image E f g) (w : World δ τ) (k : Nat) (depot : Depot) (c : Context) :
    (w.image f g).start E k depot c =
      ((w.start D k depot c).1, (w.start D k depot c).2.image f g) := by
  simp only [start, guarded, image, h.beginDelay]
  cases (w.timeline.guarded c.token c.deadline (D.beginDelay w.databases k)).1 with
  | error e => rfl
  | ok =>
    simp only [h.begin]
    cases D.begin w.databases k with
    | mk r d =>
      cases r with
      | error e => rfl
      | ok x => simp [notes, note, Except.map, Session.image, h.database]

theorem image_begin (h : D.Image E f g) (w : World δ τ) (k : Nat) (depot : Depot) (c : Context) :
    (w.image f g).begin E k depot c =
      ((w.begin D k depot c).1, (w.begin D k depot c).2.image f g) := by
  simp only [begin]
  cases c.session with
  | none => simp [image_start h]
  | some i => simp [image_join]

theorem image_close (h : D.Image E f g) (w : World δ τ) (k : Nat) :
    (w.image f g).close E k = (w.close D k).image f g := by
  simp only [close, note, image, h.close, h.database]

end World

namespace Scene

def image (f : δ → δ') (g : τ → τ') (s : Scene δ τ) : Scene δ' τ' :=
  ⟨s.world.image f g, s.contexts⟩

variable {D : Driver δ τ} {E : Driver δ' τ'} {f : δ → δ'} {g : τ → τ'} {direct : ε → δ → δ}
  {direct' : ε → δ' → δ'}

theorem image_onContext (s : Scene δ τ) (c : Nat) (k : Context → Scene δ' τ')
    (k' : Context → Scene δ τ) (hk : ∀ x, k x = (k' x).image f g) :
    (s.image f g).onContext c k = (s.onContext c k').image f g := by
  simp only [onContext, image]
  cases s.contexts[c]? with
  | none => rfl
  | some x => exact hk x

theorem image_onSession (s : Scene δ τ) (i : Nat) (k : Session τ' → World δ' τ')
    (k' : Session τ → World δ τ) (hk : ∀ t, k (t.image g) = (k' t).image f g) :
    (s.image f g).onSession i k = (s.onSession i k').image f g := by
  simp only [onSession, image, World.image_session?]
  cases s.world.session? i with
  | none => rfl
  | some t => simp [hk]

theorem image_begin (h : D.Image E f g) (s : Scene δ τ) (k : Nat) (c : Context) :
    (s.image f g).begin E k c = (s.begin D k c).image f g := by
  simp only [begin, image, World.image_depots]
  cases s.world.depots[k]? with
  | none => rfl
  | some depot =>
    simp only [World.image_begin h]
    cases (s.world.begin D k depot c).1 <;> rfl

theorem image_step (h : D.Image E f g) (hd : ∀ x d, direct' x (f d) = f (direct x d))
    (s : Scene δ τ) (o : Operation ε) :
    (s.image f g).step E direct' o = (s.step D direct o).image f g := by
  cases o with
  | derive c x => exact image_onContext s c _ _ fun _ => rfl
  | cancel c => exact image_onContext s c _ _ fun _ => rfl
  | cancelAfter c ms => exact image_onContext s c _ _ fun _ => rfl
  | wait ms => rfl
  | begin k c => exact image_onContext s c _ _ fun x => image_begin h s k x
  | commit i =>
    exact image_onSession s i _ _ fun t => congrArg Prod.snd (World.image_commit h s.world i t)
  | rollback i =>
    exact image_onSession s i _ _ fun t => congrArg Prod.snd (World.image_rollback h s.world i t)
  | setError i e => exact image_onSession s i _ _ fun t => World.image_setError s.world i t e
  | ask i q =>
    exact image_onSession s i _ _ fun t => congrArg Prod.snd (World.image_ask h s.world t q)
  | drop i runtime => exact image_onSession s i _ _ fun t => World.image_drop h s.world i t runtime
  | close k => simp only [step, image, World.image_close h]
  | direct x => simp only [step, image, World.image, hd]

theorem image_run (h : D.Image E f g) (hd : ∀ x d, direct' x (f d) = f (direct x d))
    (s : Scene δ τ) (ops : List (Operation ε)) :
    (s.image f g).run E direct' ops = (s.run D direct ops).image f g := by
  induction ops generalizing s with
  | nil => rfl
  | cons o ops ih =>
    change run E direct' (step E direct' (s.image f g) o) ops = _
    rw [image_step h hd, ih]
    rfl

end Scene

theorem Traced.image_inner (D : Driver δ τ) : D.traced.Image D Traced.inner Prod.snd where
  database _ _ := rfl
  beginDelay _ _ := rfl
  begin d k := by
    simp only [Driver.traced]
    cases D.begin d.inner k with
    | mk r p => cases r <;> rfl
  delay _ _ := rfl
  run _ _ _ _ := rfl
  commit _ _ := rfl
  rollback _ _ := rfl
  release _ _ _ := rfl
  close _ _ := rfl

theorem Scene.run_traced (D : Driver δ τ) (direct : ε → δ → δ) (d : δ) (depots : List Depot)
    (ops : List (Operation ε)) :
    run D direct (initial d depots) ops =
      (run D.traced (Traced.lift direct) (initial (.initial d) depots) ops).image Traced.inner
        Prod.snd := by
  rw [← image_run (Traced.image_inner D) (fun _ _ => rfl)]
  rfl

end UnitOfWork
