import UnitOfWork.Timeline

/-!
Contexts: what a unit of work is begun with. A context carries a session, once one has been begun
with it, a token by which it is cancelled, and perhaps a deadline.
-/
namespace UnitOfWork

structure Context where
  session : Option Nat
  token : Nat
  deadline : Option Nat
deriving DecidableEq

inductive Derivation where
  | cancellation
  | timeout (ms : Nat)
  | deadline (instant : Nat)
  | copy

namespace Context

def background : Context := ⟨none, Timeline.root, none⟩

def earlier (deadline : Option Nat) (instant : Nat) : Nat :=
  match deadline with
  | some d => min d instant
  | none => instant

def below (c : Context) (tl : Timeline) (deadline : Option Nat) : Context × Timeline :=
  (⟨c.session, (tl.child c.token).1, deadline⟩, (tl.child c.token).2)

def derive (c : Context) (tl : Timeline) : Derivation → Context × Timeline
  | .cancellation => c.below tl c.deadline
  | .timeout ms => c.below tl (some (earlier c.deadline (tl.now + ms)))
  | .deadline instant => c.below tl (some (earlier c.deadline instant))
  | .copy => (c, tl)

def carrying (c : Context) (session : Nat) : Context := { c with session := some session }

end Context

end UnitOfWork
