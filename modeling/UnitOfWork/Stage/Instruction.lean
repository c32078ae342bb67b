import UnitOfWork.Backend
import UnitOfWork.World

namespace UnitOfWork

inductive RawCall where
  | run (call : Call) (statement : Statement)
  | commit
  | rollback

inductive RawReply where
  | row (r : Option Row)
  | rows (rs : List Row)
  | affected (n : Nat)
  | ended

inductive Direction where
  | pushRows (rows : List (List Value))
  | failNext (message : String)
  | failCommit (message : String)
  | failBegin (message : String)
  | failRollback (message : String)
  | delay (ms : Nat)

inductive ServerDirection where
  | reply (r : Postgres.Reply)
  | failSimple (sql code detail : String)

inductive Instruction where
  | derive (context name : String) (derivation : Derivation)
  | cancel (context : String)
  | cancelAfter (context : String) (ms : Nat)
  | describe (context : String)
  | takeSession (context : String) (name : Option String)
  | begin (depot : Nat) (context name : String) (contextName : Option String)
  | commit (session : String)
  | rollback (session : String)
  | setError (session : String) (error : Option Failure)
  | error (session : String)
  | display (session : String)
  | ask (session : String) (request : Request)
  | sleep (ms : Nat)
  | close (depot : Nat)
  | depot (depot : Nat)
  | displayDepot (depot : Nat)
  | drop (names : List String) (runtime : Bool)
  | raw (depot : Nat) (calls : List RawCall)
  | direct (depot : Nat) (direction : Direction)
  | executed (depot : Nat)
  | directServer (depot : Nat) (direction : ServerDirection)

structure Begun where
  depth : Nat
  joined : List String
  carries : Bool
  database : Database
  dialect : String

structure Described where
  carries : Bool
  cancelled : Bool
  names : Option (List String)
  deadline : Option Nat

inductive Reply where
  | unknown
  | nothing
  | context (d : Described)
  | carried (names : Option (List String))
  | begun (b : Except Failure Begun)
  | ended (r : Except Failure Unit)
  | error (e : Option Failure)
  | answer (a : Except Failure Answer)
  | text (s : String)
  | depot (d : Database) (dialect : String)
  | raw (rs : Except Failure (List (Except Failure RawReply)))
  | executed (statements : List Statement)

end UnitOfWork
