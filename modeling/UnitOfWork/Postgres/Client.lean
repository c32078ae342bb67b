import UnitOfWork.Database
import UnitOfWork.Driver
import UnitOfWork.Failure
import UnitOfWork.Pool
import UnitOfWork.Postgres.Binary
import UnitOfWork.Postgres.Endpoint.Url
import UnitOfWork.Postgres.Endpoint.Words
import UnitOfWork.Postgres.Server
import UnitOfWork.Row.Reading

namespace UnitOfWork.Postgres

def Endpoint.ofText? (s : List Char) : Option Endpoint :=
  match afterScheme? s with
  | some rest => ofUrl? rest
  | none => ofWords? s

structure Options where
  endpoint : Endpoint
  poolSize : Nat
  depot : UnitOfWork.Options

namespace Options

def ofEndpoint (e : Endpoint) : Options := ⟨e, 10, .initial⟩

def ofText (s : String) : Except Failure Options :=
  match Endpoint.ofText? s.toList with
  | none => .error (.configuration "invalid postgres url: invalid connection string")
  | some e =>
    if e.database.isNone then .error (.configuration "dbname is required")
    else .ok (ofEndpoint e)

def effectivePoolSize (o : Options) : Nat := max o.poolSize 1

end Options

structure Client (σ : Type) where
  endpoint : Endpoint
  server : σ
  pool : Pool

namespace Client

variable {σ : Type} (S : Server σ)

def displayOption : Option String → String
  | none => "None"
  | some s => "Some(" ++ Text.quoted s ++ ")"

def displayHost : Host → String
  | .tcp name => "Tcp(" ++ Text.quoted name ++ ")"
  | .unix path => "Unix(" ++ Text.quoted (Text.decodeLossy path) ++ ")"

def connecting (e : Endpoint) : LogLine :=
  ⟨.debug, "postgres connect start hosts=[" ++ ", ".intercalate (e.hosts.map displayHost) ++
    "] db=" ++ displayOption e.database ++ " user=" ++ displayOption e.user⟩

def opened (reachable : Bool) (o : Options) (server : σ) :
    Except Failure (List LogLine × Client σ) :=
  if reachable then
    .ok ([connecting o.endpoint], ⟨o.endpoint, server, .initial o.effectivePoolSize⟩)
  else .error (.pool .timedOut)

def simple (c : Client σ) (i : Nat) (sql : String) : Except Fault String × Client σ :=
  let r := S.simple c.server i sql
  (r.1, { c with server := r.2 })

def beginOn (c : Client σ) (i : Nat) : Except Failure Nat × Client σ :=
  match c.simple S i "BEGIN" with
  | (.ok _, c) => (.ok i, { c with pool := c.pool.opened i })
  | (.error f, c) => (.error (.postgres f), { c with pool := c.pool.giveBack i })

def begin (c : Client σ) : Except Failure Nat × List LogLine × Client σ :=
  match c.pool.take with
  | .closed => (.error (.connection "postgres pool closed"), [], c)
  | .exhausted => (.error (.pool .timedOut), [], c)
  | .waiting i p =>
    let r := { c with pool := p }.beginOn S i
    (r.1, [], r.2)
  | .fresh i p =>
    let r := { c with pool := p }.beginOn S i
    (r.1, [connecting c.endpoint], r.2)

def encodeAll (i : Nat) : List ColumnType → List Value → Except Fault (List Cell)
  | type :: types, v :: vs =>
    match encodeChecked type v with
    | .error _ => .error (.encoding i)
    | .ok cell =>
      match encodeAll (i + 1) types vs with
      | .error f => .error f
      | .ok cells => .ok (cell :: cells)
  | _, _ => .ok []

def perform (c : Client σ) (i : Nat) (st : Statement) :
    Except Fault (List ColumnType × Executed) × Client σ :=
  match S.prepare c.server i st.sql with
  | (.error f, s) => (.error f, { c with server := s })
  | (.ok d, s) =>
    let c := { c with server := s }
    if st.args.length ≠ d.parameters.length then
      (.error (.parameterCount d.parameters.length st.args.length), c)
    else
      match encodeAll 0 d.parameters st.args with
      | .error f => (.error f, c)
      | .ok cells =>
        let r := S.execute c.server i cells
        (r.1.map fun e => (d.columns, e), { c with server := r.2 })

def sourceOf (columns : List ColumnType) (cells : List Cell) : Source where
  width := columns.length
  capture i :=
    match columns[i]? >>= fun type => decode type (cells[i]?.join) with
    | some v => .ok v
    | none => .error (.postgres (.decoding i))

def fetch (c : Client σ) (i : Nat) (st : Statement) (names : List String) (limit : Option Nat) :
    Except Failure (List Row) × Client σ :=
  match c.perform S i st with
  | (.error f, c) => (.error (.postgres f), c)
  | (.ok (columns, e), c) =>
    (readWithin names limit 0 (e.rows.map fun cells => .ok (sourceOf columns cells)), c)

def affectedBy (tag : String) : Nat :=
  match Text.naturalOf? ((Text.pieces ' ' tag.toList).getLastD []) with
  | some n => if n < UInt64.size then n else 0
  | none => 0

def run (c : Client σ) (i : Nat) (call : Call) (st : Statement) :
    Except Failure call.Result × Client σ :=
  match call with
  | .first names =>
    let r := c.fetch S i st names (some 1)
    (r.1.map List.getLast?, r.2)
  | .every names => c.fetch S i st names none
  | .affected =>
    let r := c.perform S i st
    ((r.1.map fun e => (affectedBy e.2.tag : Nat)).mapError .postgres, r.2)

/-- Ends a transaction by a command; its tag plays no part. -/
def finish (c : Client σ) (i : Nat) (sql action : String) : Except Failure Unit × Client σ :=
  match c.simple S i sql with
  | (.ok _, c) => (.ok (), { c with pool := c.pool.settled i })
  | (.error f, c) =>
    (.error (.execution ("postgres " ++ action ++ " error: " ++ f.message)), c)

def commit (c : Client σ) (i : Nat) : Except Failure Unit × Client σ :=
  c.finish S i "COMMIT" "commit"

def rollback (c : Client σ) (i : Nat) : Except Failure Unit × Client σ :=
  let r := c.finish S i "ROLLBACK" "rollback"
  (r.1, { r.2 with pool := r.2.pool.settled i })

def release (c : Client σ) (i : Nat) (runtime : Bool) : List LogLine × Client σ :=
  if c.pool.isUnfinished i && runtime then
    let r := c.simple S i "ROLLBACK"
    let lines := match r.1 with
      | .ok _ => []
      | .error f => [⟨.warn, "postgres rollback on drop failed: " ++ f.message⟩]
    (lines, { r.2 with pool := (r.2.pool.settled i).giveBack i })
  else ([], { c with pool := (c.pool.settled i).giveBack i })

def driver : Driver (Client σ) Nat where
  database _ _ := .postgres
  dialect _ _ := .postgres
  beginDelay c _ := c.pool.delay
  begin c _ := c.begin S
  delay _ _ := 0
  run c i call st := c.run S i call st
  commit c i := c.commit S i
  rollback c i := c.rollback S i
  release c i runtime := c.release S i runtime
  close c _ := { c with pool := c.pool.close }

end Client

end UnitOfWork.Postgres
