import UnitOfWork.Driver

/-!
Drivers that keep a log of the calls made to them. Transactions are numbered in the order in which
they are begun.
-/
namespace UnitOfWork

inductive Use where
  | run (call : Call) (statement : Statement)
  | commit (ok : Bool)
  | rollback (ok : Bool)
deriving DecidableEq

inductive Entry where
  | begin (database : Nat) (ok : Bool)
  | use (transaction : Nat) (use : Use)
deriving DecidableEq

structure Traced (δ : Type) where
  inner : δ
  begun : Nat
  log : List Entry

namespace Traced

variable {δ τ : Type}

def initial (d : δ) : Traced δ := ⟨d, 0, []⟩

def noted (d : Traced δ) (n : Nat) (u : Use) (inner : δ) : Traced δ :=
  ⟨inner, d.begun, d.log ++ [.use n u]⟩

def uses (n : Nat) (log : List Entry) : List Use :=
  log.filterMap fun
    | .use m u => if m = n then some u else none
    | .begin _ _ => none

theorem uses_append (n : Nat) (log more : List Entry) :
    uses n (log ++ more) = uses n log ++ uses n more := List.filterMap_append

theorem uses_begin (n k : Nat) (ok : Bool) : uses n [.begin k ok] = [] := rfl

theorem uses_same (n : Nat) (u : Use) : uses n [.use n u] = [u] := by simp [uses]

end Traced

def Driver.traced {δ τ : Type} (D : Driver δ τ) : Driver (Traced δ) (Nat × τ) where
  database d k := D.database d.inner k
  dialect d k := D.dialect d.inner k
  beginDelay d k := D.beginDelay d.inner k
  begin d k :=
    let r := D.begin d.inner k
    match r.1 with
    | .ok x => (.ok (d.begun, x), r.2.1, ⟨r.2.2, d.begun + 1, d.log ++ [.begin k true]⟩)
    | .error e => (.error e, r.2.1, ⟨r.2.2, d.begun, d.log ++ [.begin k false]⟩)
  delay d x := D.delay d.inner x.2
  run d x c st :=
    let r := D.run d.inner x.2 c st
    (r.1, d.noted x.1 (.run c st) r.2)
  commit d x :=
    let r := D.commit d.inner x.2
    (r.1, d.noted x.1 (.commit r.1.isOk) r.2)
  rollback d x :=
    let r := D.rollback d.inner x.2
    (r.1, d.noted x.1 (.rollback r.1.isOk) r.2)
  release d x runtime :=
    let r := D.release d.inner x.2 runtime
    (r.1, { d with inner := r.2 })
  close d k := { d with inner := D.close d.inner k }

namespace Traced

variable {δ τ : Type} (D : Driver δ τ)

def lift {ε : Type} (direct : ε → δ → δ) (x : ε) (d : Traced δ) : Traced δ :=
  { d with inner := direct x d.inner }

theorem begin_ok (d : Traced δ) (k : Nat) {x : Nat × τ} (h : (D.traced.begin d k).1 = .ok x) :
    x.1 = d.begun ∧ (D.traced.begin d k).2.2.begun = d.begun + 1 ∧
      (D.traced.begin d k).2.2.log = d.log ++ [.begin k true] := by
  simp only [Driver.traced] at h ⊢
  cases hb : (D.begin d.inner k).1 with
  | ok y =>
    simp only [hb] at h
    cases h
    simp
  | error e =>
    simp only [hb] at h
    cases h

theorem begin_error (d : Traced δ) (k : Nat) {e : Failure}
    (h : (D.traced.begin d k).1 = .error e) :
    (D.traced.begin d k).2.2.begun = d.begun ∧
      (D.traced.begin d k).2.2.log = d.log ++ [.begin k false] := by
  simp only [Driver.traced] at h ⊢
  cases hb : (D.begin d.inner k).1 with
  | ok y =>
    simp only [hb] at h
    cases h
  | error f => simp

@[simp] theorem run_log (d : Traced δ) (x : Nat × τ) (c : Call) (st : Statement) :
    (D.traced.run d x c st).2.log = d.log ++ [.use x.1 (.run c st)] := rfl

@[simp] theorem commit_log (d : Traced δ) (x : Nat × τ) :
    (D.traced.commit d x).2.log = d.log ++ [.use x.1 (.commit (D.traced.commit d x).1.isOk)] := rfl

@[simp] theorem rollback_log (d : Traced δ) (x : Nat × τ) :
    (D.traced.rollback d x).2.log =
      d.log ++ [.use x.1 (.rollback (D.traced.rollback d x).1.isOk)] := rfl

@[simp] theorem release_log (d : Traced δ) (x : Nat × τ) (runtime : Bool) :
    (D.traced.release d x runtime).2.log = d.log := rfl

end Traced

end UnitOfWork
