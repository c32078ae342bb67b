import UnitOfWork.Stage.Instruction

/-!
Stages: depots with sessions and contexts under names. A session that no name and no context holds
any longer is dropped.
-/
namespace UnitOfWork

inductive Opening where
  | recording (own : Option Dialect) (options : Options)
  | silentRecording (options : Options)
  | sqlite (options : Sqlite.Options)
  | rawSqlite (path : String) (limit : Nat) (writeAhead : Bool) (options : Options)
  | postgres (options : Postgres.Options) (reachable : Bool)

namespace Opening

def run : Opening → Except Failure (List LogLine × Backend)
  | recording own _ => .ok ([], .inl (.initial (own.getD .default)))
  | silentRecording _ => .ok ([], .inl (.initial .default))
  | sqlite o => .ok ((Sqlite.Client.ofOptions o).1, .inr (.inl (Sqlite.Client.ofOptions o).2))
  | rawSqlite path limit writeAhead _ =>
    let r := Sqlite.Client.opened path limit writeAhead
    .ok (r.1, .inr (.inl r.2))
  | postgres o reachable =>
    (Postgres.Client.opened reachable o Postgres.Script.initial).map fun r => (r.1, .inr (.inr r.2))

def options : Opening → Options
  | recording _ o => o
  | silentRecording o => o
  | sqlite o => o.depot
  | rawSqlite _ _ _ o => o
  | postgres o _ => o.depot

def takesDirections : Opening → Bool
  | recording _ _ => true
  | _ => false

def isRaw : Opening → Bool
  | rawSqlite _ _ _ _ => true
  | _ => false

def records : Opening → Bool
  | recording _ _ | silentRecording _ => true
  | _ => false

end Opening

structure Stage where
  world : World (List Backend) Backend.Transaction
  openings : List Opening
  sessions : List (String × Nat)
  contexts : List (String × Context)

namespace Stage

def openAll : List Opening → Except Failure (List LogLine × List Backend)
  | [] => .ok ([], [])
  | o :: os =>
    match o.run with
    | .error e => .error e
    | .ok (lines, b) =>
      match openAll os with
      | .error e => .error e
      | .ok (more, bs) => .ok (lines ++ more, b :: bs)

def rootName : String := "root"

def opened (openings : List Opening) : Except Failure Stage :=
  match openAll openings with
  | .error e => .error e
  | .ok (lines, backends) =>
    let depots := openings.mapIdx fun i o => World.depotOf Backend.driver backends i o.options
    .ok ⟨⟨.initial, backends, depots, [], lines⟩, openings, [], [(rootName, .background)]⟩

def isTimed (s : Stage) : Bool := s.openings.all Opening.records

def lookUp? {α : Type} (names : List (String × α)) (name : String) : Option α :=
  (names.find? fun e => e.1 = name).map Prod.snd

def put {α : Type} (names : List (String × α)) (name : String) (a : α) : List (String × α) :=
  (names.filter fun e => e.1 ≠ name) ++ [(name, a)]

def namesOf (s : Stage) (session : Nat) : List String :=
  ((s.sessions.filter fun e => e.2 = session).map Prod.fst).mergeSort

def session? (s : Stage) (name : String) : Option (Nat × Session Backend.Transaction) :=
  match lookUp? s.sessions name with
  | none => none
  | some i => (s.world.session? i).map fun t => (i, t)

def holds (s : Stage) (session : Nat) : Bool :=
  s.sessions.any (fun e => e.2 = session) ||
    s.contexts.any fun e => e.2.session = some session

def sweep (s : Stage) (runtime : Bool) : Stage :=
  (List.range s.world.sessions.length).foldl (fun s i =>
    match s.world.session? i with
    | some t =>
      if s.holds i then s else { s with world := s.world.drop Backend.driver i t runtime }
    | none => s) s

def nameContext (s : Stage) (name : String) (c : Context) : Stage :=
  sweep { s with contexts := put s.contexts name c } true

def nameSession (s : Stage) (name : String) (session : Nat) : Stage :=
  sweep { s with sessions := put s.sessions name session } true

def forget (s : Stage) (runtime : Bool) (name : String) : Stage :=
  let s := sweep { s with sessions := s.sessions.filter fun e => e.1 ≠ name } runtime
  sweep { s with contexts := s.contexts.filter fun e => e.1 ≠ name } runtime

def describe (s : Stage) (c : Context) : Described where
  carries := c.session.isSome
  cancelled := s.world.timeline.isCancelled c.token
  names := c.session.map s.namesOf
  deadline := c.deadline

def begin (s : Stage) (depot : Nat) (d : Depot) (c : Context) (name : String)
    (contextName : Option String) : Reply × Stage :=
  match s.world.begin Backend.driver depot d c with
  | (.error e, w) => (.begun (.error e), { s with world := w })
  | (.ok (i, c), w) =>
    let s := { s with world := w }
    match w.session? i with
    | none => (.unknown, s)
    | some t =>
      let reply : Begun :=
        ⟨t.depth, s.namesOf i, c.session.isSome, t.database, t.dialect.name⟩
      let named := s.nameSession name i
      (.begun (.ok reply),
        match contextName with
        | none => named
        | some n => named.nameContext n c)

def rawReply : (c : Call) → c.Result → RawReply
  | .first _, (r : Option Row) => .row r
  | .every _, (rs : List Row) => .rows rs
  | .affected, (n : Nat) => .affected n

def rawCall (w : World (List Backend) Backend.Transaction) (t : Backend.Transaction) :
    RawCall → Except Failure RawReply × World (List Backend) Backend.Transaction
  | .run c st =>
    let w := w.wait (Backend.driver.delay w.databases t)
    let r := Backend.driver.run w.databases t c st
    (r.1.map (rawReply c), { w with databases := r.2 })
  | .commit =>
    let w := w.wait (Backend.driver.delay w.databases t)
    let r := Backend.driver.commit w.databases t
    (r.1.map fun _ => .ended, { w with databases := r.2 })
  | .rollback =>
    let r := Backend.driver.rollback w.databases t
    (r.1.map fun _ => .ended, { w with databases := r.2 })

def rawCalls (w : World (List Backend) Backend.Transaction) (t : Backend.Transaction) :
    List RawCall → List (Except Failure RawReply) × World (List Backend) Backend.Transaction
  | [] => ([], w)
  | c :: cs =>
    let r := rawCall w t c
    let rest := rawCalls r.2 t cs
    (r.1 :: rest.1, rest.2)

def raw (w : World (List Backend) Backend.Transaction) (depot : Nat) (calls : List RawCall) :
    Reply × World (List Backend) Backend.Transaction :=
  let w := w.wait (Backend.driver.beginDelay w.databases depot)
  let r := Backend.driver.begin w.databases depot
  let w := { w with databases := r.2.2 }.notes r.2.1
  match r.1 with
  | .error e => (.raw (.error e), w)
  | .ok t =>
    let replies := rawCalls w t calls
    (.raw (.ok replies.1), replies.2.release Backend.driver t true)

def Direction.apply : Direction → Recording → Recording
  | .pushRows rows, r => { r with rows := r.rows ++ [rows] }
  | .failNext m, r => { r with failNext := some m }
  | .failCommit m, r => { r with failCommit := some m }
  | .failBegin m, r => { r with failBegin := some m }
  | .failRollback m, r => { r with failRollback := some m }
  | .delay ms, r => { r with delay := ms }

def ServerDirection.apply : ServerDirection → Postgres.Script → Postgres.Script
  | .reply r, s => { s with replies := s.replies ++ [r] }
  | .failSimple sql code detail, s =>
    { s with failing := s.failing ++ [(sql, .server code detail)] }

def inWorld (s : Stage) (w : World (List Backend) Backend.Transaction) : Stage :=
  { s with world := w }

def withBackends (s : Stage) (f : List Backend → List Backend) : Stage :=
  s.inWorld { s.world with databases := f s.world.databases }

def stepContext (s : Stage) (c : Context) : Instruction → Reply × Stage
  | .derive _ name d =>
    let r := c.derive s.world.timeline d
    (.nothing, (s.inWorld { s.world with timeline := r.2 }).nameContext name r.1)
  | .cancel _ =>
    (.nothing, s.inWorld { s.world with timeline := s.world.timeline.cancel c.token })
  | .cancelAfter _ ms =>
    (.nothing, s.inWorld { s.world with timeline := s.world.timeline.cancelAfter c.token ms })
  | .describe _ => (.context (s.describe c), s)
  | .takeSession _ name =>
    match c.session, name with
    | none, _ => (.carried none, s)
    | some i, none => (.carried (some (s.namesOf i)), s)
    | some i, some n => (.carried (some (s.namesOf i)), s.nameSession n i)
  | .begin depot _ name contextName =>
    match s.world.depots[depot]? with
    | none => (.unknown, s)
    | some d => s.begin depot d c name contextName
  | _ => (.unknown, s)

def stepSession (s : Stage) (i : Nat) (t : Session Backend.Transaction) :
    Instruction → Reply × Stage
  | .commit _ =>
    let r := s.world.commit Backend.driver i t
    (.ended r.1, s.inWorld r.2)
  | .rollback _ =>
    let r := s.world.rollback Backend.driver i t
    (.ended r.1, s.inWorld r.2)
  | .setError _ e => (.nothing, s.inWorld (s.world.setError i t e))
  | .error _ => (.error t.error, s)
  | .display _ => (.text t.display, s)
  | .ask _ q =>
    let r := s.world.ask Backend.driver t q
    (.answer r.1, s.inWorld r.2)
  | _ => (.unknown, s)

def stepDepot (s : Stage) (i : Nat) (d : Depot) (o : Opening) (b : Backend) :
    Instruction → Reply × Stage
  | .close _ => (.nothing, s.inWorld (s.world.close Backend.driver i))
  | .depot _ => (.depot (Backend.driver.database s.world.databases i) d.dialect.name, s)
  | .displayDepot _ =>
    (.text ("Depot \x7b backend: " ++ b.display ++ ", dialect: " ++ d.dialect.title ++
      ", log_sql: " ++ (if d.logSql then "true" else "false") ++ " \x7d"), s)
  | .raw _ calls =>
    if o.isRaw then
      let r := raw s.world i calls
      (r.1, s.inWorld r.2)
    else (.unknown, s)
  | .direct _ x =>
    if o.takesDirections then
      (.nothing, s.withBackends fun bs => bs.modify i (Backend.direct (Direction.apply x)))
    else (.unknown, s)
  | .executed _ =>
    match o.takesDirections, b.recording? with
    | true, some r => (.executed r.executed, s)
    | _, _ => (.unknown, s)
  | .directServer _ x =>
    match b.script? with
    | some _ =>
      (.nothing,
        s.withBackends fun bs => bs.modify i (Backend.directServer (ServerDirection.apply x)))
    | none => (.unknown, s)
  | _ => (.unknown, s)

inductive Subject where
  | context (name : String)
  | session (name : String)
  | depot (number : Nat)
  | none

def subject : Instruction → Subject
  | .derive c _ _ | .cancel c | .cancelAfter c _ | .describe c | .takeSession c _
  | .begin _ c _ _ => .context c
  | .commit s | .rollback s | .setError s _ | .error s | .display s | .ask s _ => .session s
  | .close d | .depot d | .displayDepot d | .raw d _ | .direct d _ | .executed d
  | .directServer d _ => .depot d
  | .sleep _ | .drop _ _ => .none

def step (s : Stage) (x : Instruction) : Reply × Stage :=
  match subject x with
  | .context name =>
    match lookUp? s.contexts name with
    | some c => s.stepContext c x
    | none => (.unknown, s)
  | .session name =>
    match s.session? name with
    | some (i, t) => s.stepSession i t x
    | none => (.unknown, s)
  | .depot i =>
    match s.world.depots[i]?, s.openings[i]?, s.world.databases[i]? with
    | some d, some o, some b => s.stepDepot i d o b x
    | _, _, _ => (.unknown, s)
  | .none =>
    match x with
    | .sleep ms => (.nothing, s.inWorld (s.world.wait ms))
    | .drop names runtime => (.nothing, names.foldl (forget · runtime ·) s)
    | _ => (.unknown, s)

def flushed (s : Stage) : Stage :=
  (s.inWorld { s.world with log := [] }).withBackends fun bs =>
    bs.map (Backend.directServer fun p => { p with log := [] })

end Stage

end UnitOfWork
