import UnitOfWork.Postgres.Endpoint
import UnitOfWork.Text.Pieces

namespace UnitOfWork.Postgres.Endpoint

open Text

def readEscaped (stop : Char → Bool) : List Char → List Char × List Char
  | [] => ([], [])
  | ['\\'] => ([], [])
  | '\\' :: c :: s => (c :: (readEscaped stop s).1, (readEscaped stop s).2)
  | c :: s =>
    if stop c then ([], c :: s) else (c :: (readEscaped stop s).1, (readEscaped stop s).2)

theorem length_readEscaped_le (stop : Char → Bool) (s : List Char) :
    (readEscaped stop s).2.length ≤ s.length := by
  fun_induction readEscaped stop s <;> grind

def readValue : List Char → Option (List Char × List Char)
  | '\'' :: s =>
    match readEscaped (· == '\'') s with
    | (value, _ :: rest) => some (value, rest)
    | (_, []) => none
  | s =>
    match readEscaped isBlank s with
    | ([], _) => none
    | (value, rest) => some (value, rest)

theorem length_readValue_le {s value rest : List Char} (h : readValue s = some (value, rest)) :
    rest.length ≤ s.length := by
  unfold readValue at h
  split at h
  · rename_i s
    have := length_readEscaped_le (· == '\'') s
    grind
  · have := length_readEscaped_le isBlank s
    grind

def readWords (e : Endpoint) (s : List Char) : Option Endpoint :=
  let p := cut (fun c => isBlank c || c == '=') (dropBlanks s)
  if p.1 = [] then some e
  else
    match _hs : dropBlanks p.2 with
    | '=' :: s' =>
      match _hv : readValue (dropBlanks s') with
      | none => none
      | some (value, rest) =>
        (e.set (String.ofList p.1) (String.ofList value)).bind fun e => e.readWords rest
    | _ => none
termination_by s.length
decreasing_by
  have h1 := length_readValue_le _hv
  have h2 := length_dropBlanks_le s'
  have h3 := length_dropBlanks_le p.2
  have h4 : p.2.length ≤ (dropBlanks s).length := length_cut_le _ _
  have h5 := length_dropBlanks_le s
  simp only [_hs, List.length_cons] at h3
  omega

def ofWords? (s : List Char) : Option Endpoint := readWords initial s

end UnitOfWork.Postgres.Endpoint
