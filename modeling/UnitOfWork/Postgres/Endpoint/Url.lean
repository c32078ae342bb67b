import UnitOfWork.Postgres.Endpoint
import UnitOfWork.Text.Utf8

namespace UnitOfWork.Postgres.Endpoint

open Text

def schemes : List String := ["postgres://", "postgresql://"]

def afterScheme? (s : List Char) : Option (List Char) :=
  (schemes.find? fun scheme => scheme.toList.isPrefixOf s).map fun scheme => s.drop scheme.length

def readCredentials (e : Endpoint) (s : List Char) : Option (Endpoint × List Char) :=
  match cutAt? (· == '@') s with
  | none => some (e, s)
  | some (credentials, rest) => do
    let (user, password) := cut (· == ':') credentials
    let user ← percentText? user
    let e := { e with user := some user }
    match password with
    | [] => return (e, rest)
    | _ :: password => return ({ e with password := some (percentBytes password) }, rest)

def addHost (e : Endpoint) (s : List Char) : Option Endpoint :=
  match percentBytes s with
  | 0x2f :: path => some { e with hosts := e.hosts ++ [.unix (0x2f :: path)] }
  | bytes =>
    (decodeUtf8 bytes).toOption.map fun name => { e with hosts := e.hosts ++ [.tcp name] }

def splitHost? : List Char → Option (List Char × Option (List Char))
  | '[' :: s => do
    let (host, rest) ← cutAt? (· == ']') s
    match rest with
    | [] => return (host, none)
    | ':' :: port => return (host, some port)
    | _ => none
  | s =>
    match cut (· == ':') s with
    | (host, []) => some (host, none)
    | (host, _ :: port) => some (host, some port)

def addHostAndPort (e : Endpoint) (s : List Char) : Option Endpoint := do
  let (host, port) ← splitHost? s
  let e ← e.addHost host
  match port with
  | none => e.set "port" ""
  | some port => e.set "port" (← percentText? port)

def readHosts (e : Endpoint) (s : List Char) : Option (Endpoint × List Char) :=
  match cut (fun c => c == '/' || c == '?') s with
  | ([], rest) => some (e, rest)
  | (hosts, rest) => ((pieces ',' hosts).foldlM addHostAndPort e).map fun e => (e, rest)

def readDatabase (e : Endpoint) : List Char → Option (Endpoint × List Char)
  | '/' :: s =>
    match cut (· == '?') s with
    | ([], rest) => some (e, rest)
    | (name, rest) => (percentText? name).map fun name => ({ e with database := some name }, rest)
  | s => some (e, s)

def addParameter (e : Endpoint) (key value : List Char) : Option Endpoint := do
  let key ← percentText? key
  if key = "host" then e.addHost value else e.set key (← percentText? value)

def readParameters (e : Endpoint) (s : List Char) : Option Endpoint :=
  if s = [] then some e
  else
    match _h : cutAt? (· == '=') s with
    | none => none
    | some (key, s') =>
      let p := cut (· == '&') s'
      (e.addParameter key p.1).bind fun e => e.readParameters (p.2.drop 1)
termination_by s.length
decreasing_by
  have h1 := length_of_cutAt? _h
  have h2 : p.2.length ≤ s'.length := length_cut_le _ _
  have h3 : (p.2.drop 1).length ≤ p.2.length := by rw [List.length_drop]; omega
  exact Nat.lt_of_le_of_lt (Nat.le_trans h3 h2) h1

def readQuery (e : Endpoint) : List Char → Option Endpoint
  | '?' :: s => e.readParameters s
  | _ => some e

def ofUrl? (s : List Char) : Option Endpoint := do
  let (e, s) ← readCredentials initial s
  let (e, s) ← readHosts e s
  let (e, s) ← readDatabase e s
  readQuery e s

end UnitOfWork.Postgres.Endpoint
