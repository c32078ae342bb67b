import Std.Data.TreeMap
import UnitOfWork.Value.Basic

namespace UnitOfWork

structure Row where
  entries : List (String × Value)
  index : Std.TreeMap String Nat

namespace Row

def empty : Row := ⟨[], {}⟩

def insert (r : Row) (key : String) (v : Value) : Option Value × Row :=
  match r.index[key]? with
  | some i =>
    (r.entries[i]?.map Prod.snd, ⟨r.entries.modify i fun e => (e.1, v), r.index⟩)
  | none => (none, ⟨r.entries ++ [(key, v)], r.index.insert key r.entries.length⟩)

def put (r : Row) (key : String) (v : Value) : Row := (r.insert key v).2

def remove (r : Row) (key : String) : Option Value × Row :=
  match r.index[key]? with
  | some i =>
    (r.entries[i]?.map Prod.snd,
      ⟨r.entries.eraseIdx i, (r.index.erase key).map fun _ j => if i < j then j - 1 else j⟩)
  | none => (none, r)

def ofList (entries : List (String × Value)) : Row :=
  entries.foldl (fun r e => r.put e.1 e.2) empty

def toList (r : Row) : List (String × Value) := r.entries

def get? (r : Row) (key : String) : Option Value :=
  match r.index[key]? with
  | some i => r.entries[i]?.map Prod.snd
  | none => none

def contains (r : Row) (key : String) : Bool := r.index.contains key

def holdsNull (r : Row) (key : String) : Bool :=
  match r.get? key with
  | some v => v.isNull
  | none => false

def size (r : Row) : Nat := r.entries.length

def isEmpty (r : Row) : Bool := r.entries.isEmpty

def keys (r : Row) : List String := r.entries.map Prod.fst

def values (r : Row) : List Value := r.entries.map Prod.snd

def equal (r s : Row) : Bool :=
  r.keys == s.keys && Value.equalAll r.values s.values && r.index.toList == s.index.toList

end Row

end UnitOfWork
