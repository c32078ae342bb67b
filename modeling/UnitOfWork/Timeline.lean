import UnitOfWork.Failure

/-!
Time and cancellation. Tokens are cancelled with their ancestors, at once or when an alarm goes off;
time passes only while something waits.
-/
namespace UnitOfWork

structure Alarm where
  due : Nat
  token : Nat

structure Timeline where
  now : Nat
  lineages : List (List Nat)
  cancelled : List Nat
  alarms : List Alarm

namespace Timeline

def root : Nat := 0

def initial : Timeline := ⟨0, [[root]], [], []⟩

def lineage (tl : Timeline) (token : Nat) : List Nat := tl.lineages[token]?.getD [token]

def isCancelled (tl : Timeline) (token : Nat) : Bool :=
  (tl.lineage token).any fun t => tl.cancelled.contains t

def cancel (tl : Timeline) (token : Nat) : Timeline :=
  { tl with cancelled := token :: tl.cancelled }

def child (tl : Timeline) (token : Nat) : Nat × Timeline :=
  (tl.lineages.length,
    { tl with lineages := tl.lineages ++ [tl.lineages.length :: tl.lineage token] })

def advance (tl : Timeline) (instant : Nat) : Timeline :=
  let fired := tl.alarms.filter fun a => a.due ≤ instant
  { tl with
    now := max tl.now instant
    cancelled := fired.map Alarm.token ++ tl.cancelled
    alarms := tl.alarms.filter fun a => instant < a.due }

def wait (tl : Timeline) (ms : Nat) : Timeline := tl.advance (tl.now + ms)

def cancelAfter (tl : Timeline) (token ms : Nat) : Timeline :=
  if ms = 0 then tl.cancel token
  else { tl with alarms := tl.alarms ++ [⟨tl.now + ms, token⟩] }

def nextCancel? (tl : Timeline) (token : Nat) : Option Nat :=
  ((tl.alarms.filter fun a => (tl.lineage token).contains a.token).map Alarm.due).min?

def check (tl : Timeline) (token : Nat) (deadline : Option Nat) : Except Failure Unit :=
  if tl.isCancelled token then .error .cancelled
  else if deadline.any (· ≤ tl.now) then .error .deadlineExceeded
  else .ok ()

/-- How a wait ends, and when: when it is over, at the deadline if that comes no later, or at a
cancellation that comes before both. -/
def ending (tl : Timeline) (token : Nat) (deadline : Option Nat) (ms : Nat) :
    Except Failure Unit × Nat :=
  let finish := tl.now + ms
  let latest := match deadline with
    | some d => if d ≤ finish then (.error .deadlineExceeded, d) else (.ok (), finish)
    | none => (.ok (), finish)
  match tl.nextCancel? token with
  | some c => if c < latest.2 then (.error .cancelled, c) else latest
  | none => latest

def guarded (tl : Timeline) (token : Nat) (deadline : Option Nat) (ms : Nat) :
    Except Failure Unit × Timeline :=
  match tl.check token deadline with
  | .error e => (.error e, tl)
  | .ok () =>
    let stop := tl.ending token deadline ms
    (stop.1, tl.advance stop.2)

end Timeline

end UnitOfWork
