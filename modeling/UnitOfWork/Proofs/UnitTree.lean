import UnitOfWork.Proofs.Scene.Image

namespace UnitOfWork

inductive Finish where
  | commit
  | rollback
deriving DecidableEq

inductive Body where
  | done
  | ask (request : Request) (rest : Body)
  | unit (child : Body) (finish : Finish) (rest : Body)

abbrev Span : Type := Option Nat × Option Nat

namespace World

variable {δ τ : Type} (D : Driver δ τ)

def depth? (w : World δ τ) (i : Nat) : Option Nat := (w.session? i).map Session.depth

def askIn (w : World δ τ) (i : Nat) (q : Request) : World δ τ :=
  match w.session? i with
  | some t => (w.ask D t q).2
  | none => w

def rollbackIn (w : World δ τ) (i : Nat) : World δ τ :=
  match w.session? i with
  | some t => (w.rollback D i t).2
  | none => w

def finish (w : World δ τ) (i : Nat) : Finish → World δ τ
  | .rollback => w.rollbackIn D i
  | .commit =>
    match w.session? i with
    | none => w
    | some t =>
      let r := w.commit D i t
      match r.1 with
      | .ok () => r.2
      | .error _ => r.2.rollbackIn D i

variable {w : World δ τ} {i : Nat} {t : Session τ}

theorem rollbackIn_of_session? (h : w.session? i = some t) :
    w.rollbackIn D i = (w.rollback D i t).2 := by
  rw [rollbackIn, h]

theorem finish_ok (h : w.session? i = some t) (hr : (w.commit D i t).1 = .ok ()) :
    w.finish D i .commit = (w.commit D i t).2 := by
  simp [finish, h, hr]

theorem finish_error (h : w.session? i = some t) {e : Failure}
    (hr : (w.commit D i t).1 = .error e) :
    w.finish D i .commit = (w.commit D i t).2.rollbackIn D i := by
  simp [finish, h, hr]

def within (w : World δ τ) (k : Nat) (depot : Depot) (c : Context) (f : Finish)
    (body : Nat → Context → World δ τ → World δ τ × List Span) : World δ τ × List Span :=
  let r := w.begin D k depot c
  match r.1 with
  | .error _ => (r.2, [])
  | .ok (i, c) => ((body i c r.2).1.finish D i f, (body i c r.2).2)

end World

namespace Body

variable {δ τ : Type} (D : Driver δ τ) (k : Nat) (depot : Depot)

def run : Body → Nat → Context → World δ τ → World δ τ × List Span
  | .done, _, _, w => (w, [])
  | .ask q rest, i, c, w => rest.run i c (w.askIn D i q)
  | .unit child f rest, i, c, w =>
    let r := w.within D k depot c f child.run
    let s := rest.run i c r.1
    (s.1, r.2 ++ [(w.depth? i, r.1.depth? i)] ++ s.2)

def calls (dialect : Dialect) : Body → List Use
  | .done => []
  | .ask q rest =>
    match q.statement dialect with
    | .ok st => .run q.call st :: rest.calls dialect
    | .error _ => rest.calls dialect
  | .unit child _ rest => child.calls dialect ++ rest.calls dialect

def spoils : Body → Bool
  | .done => false
  | .ask _ rest => rest.spoils
  | .unit child f rest => child.spoils || f = .rollback || rest.spoils

def units : Body → Nat
  | .done => 0
  | .ask _ rest => rest.units
  | .unit child _ rest => child.units + 1 + rest.units

end Body

namespace World

variable {δ δ' τ τ' : Type} {D : Driver δ τ} {E : Driver δ' τ'} {f : δ → δ'} {g : τ → τ'}

theorem image_depth? (w : World δ τ) (i : Nat) : (w.image f g).depth? i = w.depth? i := by
  rw [depth?, image_session?, Option.map_map]
  rfl

theorem image_askIn (h : D.Image E f g) (w : World δ τ) (i : Nat) (q : Request) :
    (w.image f g).askIn E i q = (w.askIn D i q).image f g := by
  simp only [askIn, image_session?]
  cases w.session? i with
  | none => rfl
  | some t => exact congrArg Prod.snd (image_ask h w t q)

theorem image_rollbackIn (h : D.Image E f g) (w : World δ τ) (i : Nat) :
    (w.image f g).rollbackIn E i = (w.rollbackIn D i).image f g := by
  simp only [rollbackIn, image_session?]
  cases w.session? i with
  | none => rfl
  | some t => exact congrArg Prod.snd (image_rollback h w i t)

theorem image_finish (h : D.Image E f g) (w : World δ τ) (i : Nat) (fin : Finish) :
    (w.image f g).finish E i fin = (w.finish D i fin).image f g := by
  cases fin with
  | rollback => exact image_rollbackIn h w i
  | commit =>
    simp only [finish, image_session?]
    cases w.session? i with
    | none => rfl
    | some t =>
      simp only [Option.map_some, image_commit h]
      cases (w.commit D i t).1 with
      | ok => rfl
      | error e => exact image_rollbackIn h _ i

theorem image_within (h : D.Image E f g) (w : World δ τ) (k : Nat) (depot : Depot) (c : Context)
    (fin : Finish) {body : Nat → Context → World δ τ → World δ τ × List Span}
    {body' : Nat → Context → World δ' τ' → World δ' τ' × List Span}
    (hbody : ∀ i c w, body' i c (w.image f g) = ((body i c w).1.image f g, (body i c w).2)) :
    (w.image f g).within E k depot c fin body' =
      ((w.within D k depot c fin body).1.image f g, (w.within D k depot c fin body).2) := by
  simp only [within, image_begin h]
  cases (w.begin D k depot c).1 with
  | error e => rfl
  | ok r => simp only [hbody, image_finish h]

end World

theorem Body.image_run {δ δ' τ τ' : Type} {D : Driver δ τ} {E : Driver δ' τ'} {f : δ → δ'}
    {g : τ → τ'} (h : D.Image E f g) (k : Nat) (depot : Depot) (b : Body) (i : Nat) (c : Context)
    (w : World δ τ) : b.run E k depot i c (w.image f g) =
      ((b.run D k depot i c w).1.image f g, (b.run D k depot i c w).2) := by
  induction b generalizing i c w with
  | done => rfl
  | ask q rest ih => rw [run, run, World.image_askIn h, ih]
  | unit child fin rest ihChild ihRest =>
    simp only [run, World.image_within h w k depot c fin ihChild, ihRest, World.image_depth?]

end UnitOfWork
