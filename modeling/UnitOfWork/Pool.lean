/-!
Pools of connections, which are known by number. A connection waits in line until it is taken, and
returns to the end of the line.
-/
namespace UnitOfWork

structure Pool where
  limit : Nat
  size : Nat
  idle : List Nat
  unfinished : List Nat
  closed : Bool

namespace Pool

def patience : Nat := 30000

def initial (limit : Nat) : Pool := ⟨limit, 1, [0], [], false⟩

def isExhausted (p : Pool) : Bool := p.idle.isEmpty && p.limit ≤ p.size

def delay (p : Pool) : Nat := if !p.closed && p.isExhausted then patience else 0

inductive Taken where
  | closed
  | exhausted
  | waiting (connection : Nat) (p : Pool)
  | fresh (connection : Nat) (p : Pool)

def take (p : Pool) : Taken :=
  if p.closed then .closed
  else
    match p.idle with
    | i :: rest => .waiting i { p with idle := rest }
    | [] => if p.limit ≤ p.size then .exhausted else .fresh p.size { p with size := p.size + 1 }

def giveBack (p : Pool) (i : Nat) : Pool :=
  if p.closed then p else { p with idle := p.idle ++ [i] }

def opened (p : Pool) (i : Nat) : Pool := { p with unfinished := i :: p.unfinished }

def settled (p : Pool) (i : Nat) : Pool := { p with unfinished := p.unfinished.erase i }

def isUnfinished (p : Pool) (i : Nat) : Bool := p.unfinished.contains i

def close (p : Pool) : Pool := { p with idle := [], closed := true }

def display (p : Pool) (number : Nat → String) : String :=
  if p.closed then "None" else "Some(" ++ number p.size ++ ")"

end Pool

end UnitOfWork
