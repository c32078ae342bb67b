import UnitOfWork.Driver.Combine
import UnitOfWork.Postgres.Client
import UnitOfWork.Recording
import UnitOfWork.Sqlite.Client

namespace UnitOfWork

abbrev Backend := Recording ⊕ Sqlite.Client ⊕ Postgres.Client Postgres.Script

namespace Backend

abbrev Transaction := Nat × (Unit ⊕ Nat ⊕ Nat)

def driver : Driver (List Backend) Transaction :=
  .numbered (.either Recording.driver
    (.either Sqlite.Client.driver (Postgres.Client.driver Postgres.Script.server)))

def recording? : Backend → Option Recording
  | .inl r => some r
  | _ => none

def script? : Backend → Option Postgres.Script
  | .inr (.inr c) => some c.server
  | _ => none

def direct (f : Recording → Recording) : Backend → Backend
  | .inl r => .inl (f r)
  | b => b

def directServer (f : Postgres.Script → Postgres.Script) : Backend → Backend
  | .inr (.inr c) => .inr (.inr { c with server := f c.server })
  | b => b

def display : Backend → String
  | .inl _ => "RecordingBackend"
  | .inr (.inl c) =>
    "SqliteBackend \x7b connections: " ++ c.pool.display Text.decimalText ++ " \x7d"
  | .inr (.inr c) =>
    "PostgresBackend \x7b connections: " ++ c.pool.display Text.decimalText ++ " \x7d"

end Backend

end UnitOfWork
