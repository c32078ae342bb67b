import UnitOfWork.Context
import UnitOfWork.Database
import UnitOfWork.Request
import UnitOfWork.Session

/-!
Sessions on depots, in a world where time passes. All operations take the world as it is and return
it as they leave it.
-/
namespace UnitOfWork

structure Depot where
  dialect : Dialect
  logSql : Bool

structure World (δ τ : Type) where
  timeline : Timeline
  databases : δ
  depots : List Depot
  sessions : List (Option (Session τ))
  log : List LogLine

namespace World

variable {δ τ : Type}

def note (w : World δ τ) (level : Level) (text : String) : World δ τ :=
  { w with log := w.log ++ [⟨level, text⟩] }

def notes (w : World δ τ) (lines : List LogLine) : World δ τ := { w with log := w.log ++ lines }

def session? (w : World δ τ) (i : Nat) : Option (Session τ) := w.sessions[i]?.join

def setSession (w : World δ τ) (i : Nat) (s : Session τ) : World δ τ :=
  { w with sessions := w.sessions.set i (some s) }

def wait (w : World δ τ) (ms : Nat) : World δ τ := { w with timeline := w.timeline.wait ms }

def guarded (w : World δ τ) (token : Nat) (deadline : Option Nat) (ms : Nat) :
    Except Failure Unit × World δ τ :=
  let r := w.timeline.guarded token deadline ms
  (r.1, { w with timeline := r.2 })

variable (D : Driver δ τ)

def release (w : World δ τ) (t : τ) (runtime : Bool) : World δ τ :=
  let r := D.release w.databases t runtime
  { w with databases := r.2 }.notes r.1

def depotOf (d : δ) (i : Nat) (o : Options) : Depot := ⟨o.dialect.getD (D.dialect d i), o.logSql⟩

def join (w : World δ τ) (i : Nat) : Except Failure Nat × World δ τ :=
  match w.session? i with
  | none => (.error .transactionClosed, w)
  | some s =>
    if s.status = .active then
      (.ok i, (w.setSession i { s with depth := s.depth + 1 }).note .debug
        ("joined session at depth " ++ Text.decimalText (s.depth + 1)))
    else (.error .transactionClosed, w)

def start (w : World δ τ) (i : Nat) (depot : Depot) (c : Context) :
    Except Failure Nat × World δ τ :=
  match w.guarded c.token c.deadline (D.beginDelay w.databases i) with
  | (.error e, w) => (.error e, w)
  | (.ok (), w) =>
    match D.begin w.databases i with
    | (.error e, lines, d) => (.error e, { w with databases := d }.notes lines)
    | (.ok t, lines, d) =>
      let database := D.database d i
      let s : Session τ :=
        ⟨database, depot.dialect, depot.logSql, c.token, c.deadline, 1, none, .active, some t⟩
      let w := { w with databases := d, sessions := w.sessions ++ [some s] }.notes lines
      (.ok (w.sessions.length - 1), w.note .debug
        ("session started db=" ++ database.title ++ " dialect=" ++ depot.dialect.name))

def begin (w : World δ τ) (i : Nat) (depot : Depot) (c : Context) :
    Except Failure (Nat × Context) × World δ τ :=
  match c.session with
  | some s => ((w.join s).1.map fun s => (s, c), (w.join s).2)
  | none =>
    let r := w.start D i depot c
    (r.1.map fun s => (s, c.carrying s), r.2)

def commitTransaction (w : World δ τ) (i : Nat) (s : Session τ) (t : τ) :
    Except Failure Unit × World δ τ :=
  let w := w.wait (D.delay w.databases t)
  match D.commit w.databases t with
  | (.ok (), d) =>
    let w := ({ w with databases := d }.setSession i (s.finished .committed)).note .debug
      "session committed"
    (.ok (), w.release D t true)
  | (.error e, d) =>
    let r := D.rollback d t
    let w := { w with databases := r.2 }
    let w := match r.1 with
      | .ok () => w
      | .error f => w.note .warn ("rollback after failed commit failed: " ++ f.message)
    let w := (w.setSession i (s.finished .rolledBack)).note .debug
      ("commit failed, session rolled back: " ++ e.message)
    (.error e, w.release D t true)

def commit (w : World δ τ) (i : Nat) (s : Session τ) : Except Failure Unit × World δ τ :=
  if s.status = .active then
    match s.error with
    | some e =>
      (.error (.poisoned e), w.note .debug ("commit refused on poisoned session: " ++ e.message))
    | none =>
      if 1 < s.depth then
        (.ok (), (w.setSession i { s with depth := s.depth - 1 }).note .debug
          ("nested commit, depth now " ++ Text.decimalText (s.depth - 1)))
      else
        match w.timeline.check s.token s.deadline, s.transaction with
        | .error e, _ => (.error e, w)
        | .ok (), none => (.error .transactionClosed, w)
        | .ok (), some t => w.commitTransaction D i s t
  else (.error .transactionClosed, w)

def rollback (w : World δ τ) (i : Nat) (s : Session τ) : Except Failure Unit × World δ τ :=
  if s.status = .active then
    if 1 < s.depth then
      let s := { s with depth := s.depth - 1, error := some (s.error.getD .rolledBack) }
      (.ok (), (w.setSession i s).note .debug
        ("nested rollback, session poisoned at depth " ++ Text.decimalText s.depth))
    else
      match s.transaction with
      | none => (.ok (), w)
      | some t =>
        let w := (w.setSession i (s.finished .rolledBack)).note .debug "session rolled back"
        let r := D.rollback w.databases t
        (r.1, { w with databases := r.2 }.release D t true)
  else (.ok (), w)

def setError (w : World δ τ) (i : Nat) (s : Session τ) (e : Option Failure) : World δ τ :=
  let w := w.setSession i { s with error := e }
  match e with
  | some e => w.note .debug ("session poisoned: " ++ e.message)
  | none => w

def runStatement (w : World δ τ) (s : Session τ) (t : τ) (c : Call) (st : Statement) :
    Except Failure c.Result × World δ τ :=
  match w.guarded s.token s.deadline (D.delay w.databases t) with
  | (.error e, w) => (.error (.statement st.sql e), w)
  | (.ok (), w) =>
    match D.run w.databases t c st with
    | (.error e, d) => (.error (.statement st.sql e), { w with databases := d })
    | (.ok f, d) => (.ok f, { w with databases := d })

def ask (w : World δ τ) (s : Session τ) (q : Request) : Except Failure Answer × World δ τ :=
  match q.statement s.dialect with
  | .error e => (.error e, w)
  | .ok st =>
    let w := w.note (if s.logSql then .debug else .trace)
      (q.label ++ ": '" ++ st.sql ++ "' args=" ++ Text.decimalText st.args.length)
    match s.transaction with
    | none => (.error .transactionClosed, w)
    | some t =>
      match w.runStatement D s t q.call st with
      | (.error e, w) => (.error e, w)
      | (.ok f, w) => (Request.answer st.sql q f, w)

def drop (w : World δ τ) (i : Nat) (s : Session τ) (runtime : Bool) : World δ τ :=
  let w := { w with sessions := w.sessions.set i none }
  match s.transaction with
  | none => w
  | some t =>
    if runtime then
      let r := D.rollback w.databases t
      let w := { w with databases := r.2 }
      let w := match r.1 with
        | .ok () => w
        | .error e => w.note .warn ("rollback of dropped session failed: " ++ e.message)
      w.release D t true
    else
      (w.note .warn "session dropped outside a runtime; leaving rollback to the driver").release D t
        false

def close (w : World δ τ) (i : Nat) : World δ τ :=
  let w := w.note .debug ("closing depot db=" ++ (D.database w.databases i).title)
  { w with databases := D.close w.databases i }

end World

end UnitOfWork
