import UnitOfWork.Database
import UnitOfWork.Driver
import UnitOfWork.Pool
import UnitOfWork.Sqlite.Engine

namespace UnitOfWork.Sqlite

structure Options where
  path : String
  poolSize : Nat
  busyTimeout : Nat
  writeAhead : Bool
  depot : UnitOfWork.Options

def memoryPath : String := ":memory:"

namespace Options

def ofPath (path : String) : Options := ⟨path, 4, 5000, true, .initial⟩

def effectivePoolSize (o : Options) : Nat :=
  if o.path = memoryPath then 1 else max o.poolSize 1

end Options

structure Client where
  path : String
  engine : Engine
  pool : Pool

namespace Client

def connect (c : Client) : List LogLine × Client :=
  ([⟨.debug, "sqlite connection opened path=" ++ c.path⟩],
    { c with
      engine := if c.path = memoryPath then c.engine.connectApart else c.engine.connect 0 })

def opened (path : String) (limit : Nat) (writeAhead : Bool) : List LogLine × Client :=
  connect ⟨path, .initial writeAhead, .initial limit⟩

def ofOptions (o : Options) : List LogLine × Client :=
  opened o.path o.effectivePoolSize o.writeAhead

def beginOn (c : Client) (i : Nat) : Except Failure Nat × Client :=
  match c.engine.begin i with
  | (.ok (), e) => (.ok i, { c with engine := e, pool := c.pool.opened i })
  | (.error f, e) => (.error (.sqlite f), { c with engine := e, pool := c.pool.giveBack i })

def begin (c : Client) : Except Failure Nat × List LogLine × Client :=
  match c.pool.take with
  | .closed => (.error (.connection "sqlite pool closed"), [], c)
  | .exhausted =>
    (.error (.connection ("sqlite checkout error: " ++ Postgres.PoolFault.timedOut.message)), [], c)
  | .waiting i p =>
    let r := { c with pool := p }.beginOn i
    (r.1, [], r.2)
  | .fresh i p =>
    let opened := connect { c with pool := p }
    let r := opened.2.beginOn i
    (r.1, opened.1, r.2)

def run (c : Client) (i : Nat) (call : Call) (st : Statement) :
    Except Failure call.Result × Client :=
  let args := st.args.map Cell.ofParameter
  match call with
  | .first names =>
    let r := c.engine.fetch i st.sql args names (some 1)
    (r.1.map List.head?, { c with engine := r.2 })
  | .every names =>
    let r := c.engine.fetch i st.sql args names none
    (r.1, { c with engine := r.2 })
  | .affected =>
    match c.engine.execute i st.sql args with
    | (.ok n, e) => (.ok (n : Nat), { c with engine := e })
    | (.error f, e) => (.error (.sqlite f), { c with engine := e })

def commit (c : Client) (i : Nat) : Except Failure Unit × Client :=
  match c.engine.commit i with
  | (.ok (), e) => (.ok (), { c with engine := e, pool := c.pool.settled i })
  | (.error f, e) => (.error (.sqlite f), { c with engine := e })

def rollback (c : Client) (i : Nat) : Except Failure Unit × Client :=
  let r := c.engine.rollback i
  (r.1.mapError .sqlite, { c with engine := r.2, pool := c.pool.settled i })

def giveBack (c : Client) (i : Nat) : Client :=
  { c with
    engine := if c.pool.closed then c.engine.setTransaction i .idle else c.engine
    pool := c.pool.giveBack i }

def release (c : Client) (i : Nat) (runtime : Bool) : List LogLine × Client :=
  if c.pool.isUnfinished i && runtime then
    let r := c.rollback i
    let lines := match r.1 with
      | .ok () => []
      | .error e => [⟨.warn, "sqlite rollback on drop failed: " ++ e.message⟩]
    (lines, r.2.giveBack i)
  else ([], giveBack { c with pool := c.pool.settled i } i)

def close (c : Client) : Client :=
  { c with
    engine := c.pool.idle.foldl (fun e i => e.setTransaction i .idle) c.engine
    pool := c.pool.close }

def driver : Driver Client Nat where
  database _ _ := .sqlite
  dialect _ _ := .default
  beginDelay c _ := c.pool.delay
  begin c _ := c.begin
  delay _ _ := 0
  run c i call st := c.run i call st
  commit c i := c.commit i
  rollback c i := c.rollback i
  release c i runtime := c.release i runtime
  close c _ := c.close

end Client

end UnitOfWork.Sqlite
