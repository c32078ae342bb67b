import UnitOfWork.Postgres.Address
import UnitOfWork.Text.Pieces
import UnitOfWork.Text.Utf8

namespace UnitOfWork.Postgres

open Text

inductive Host where
  | tcp (name : String)
  | unix (path : List UInt8)
deriving DecidableEq

inductive Encryption where
  | disable
  | prefer
  | require
deriving DecidableEq

inductive Access where
  | any
  | readWrite
  | readOnly
deriving DecidableEq

structure Endpoint where
  user : Option String
  password : Option (List UInt8)
  database : Option String
  options : Option String
  application : Option String
  hosts : List Host
  addresses : List Address
  ports : List Nat
  timeout : Option Nat
  keepalives : Bool
  encryption : Encryption
  access : Access

namespace Endpoint

def initial : Endpoint :=
  ⟨none, none, none, none, none, [], [], [], none, true, .prefer, .any⟩

def defaultPort : Nat := 5432

def hostOf (s : List Char) : Host :=
  if s.head? = some '/' then .unix (encodeUtf8 (String.ofList s)) else .tcp (String.ofList s)

def portOf? : List Char → Option Nat
  | [] => some defaultPort
  | s => (naturalOf? s).filter (· < UInt16.size)

def signedOf? (s : List Char) : Option Int :=
  (integerOf? s).filter fun i => decide (Int64.minValue.toInt ≤ i ∧ i ≤ Int64.maxValue.toInt)

def unsignedOf? (limit : Nat) (s : List Char) : Option Nat := (naturalOf? s).filter (· < limit)

def encryptionOf? : String → Option Encryption
  | "disable" => some .disable
  | "prefer" => some .prefer
  | "require" => some .require
  | _ => none

def accessOf? : String → Option Access
  | "any" => some .any
  | "read-write" => some .readWrite
  | "read-only" => some .readOnly
  | _ => none

def checked (e : Endpoint) (allowed : List String) (value : String) : Option Endpoint :=
  if allowed.contains value then some e else none

def set (e : Endpoint) (keyword value : String) : Option Endpoint :=
  let chars := value.toList
  match keyword with
  | "user" => some { e with user := some value }
  | "password" => some { e with password := some (encodeUtf8 value) }
  | "dbname" => some { e with database := some value }
  | "options" => some { e with options := some value }
  | "application_name" => some { e with application := some value }
  | "sslmode" => (encryptionOf? value).map fun x => { e with encryption := x }
  | "sslnegotiation" => e.checked ["postgres", "direct"] value
  | "host" => some { e with hosts := e.hosts ++ (pieces ',' chars).map hostOf }
  | "hostaddr" =>
    ((pieces ',' chars).mapM Address.ofText?).map fun l => { e with addresses := e.addresses ++ l }
  | "port" => ((pieces ',' chars).mapM portOf?).map fun l => { e with ports := e.ports ++ l }
  | "connect_timeout" =>
    (signedOf? chars).map fun i => if 0 < i then { e with timeout := some i.toNat } else e
  | "tcp_user_timeout" | "keepalives_idle" | "keepalives_interval" =>
    (signedOf? chars).map fun _ => e
  | "keepalives" => (unsignedOf? UInt64.size chars).map fun n => { e with keepalives := n != 0 }
  | "keepalives_retries" => (unsignedOf? UInt32.size chars).map fun _ => e
  | "target_session_attrs" => (accessOf? value).map fun x => { e with access := x }
  | "channel_binding" => e.checked ["disable", "prefer", "require"] value
  | "load_balance_hosts" => e.checked ["disable", "random"] value
  | _ => none

end Endpoint

end UnitOfWork.Postgres
