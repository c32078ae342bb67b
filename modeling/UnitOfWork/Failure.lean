import UnitOfWork.Fault
import UnitOfWork.Text.Quoted

namespace UnitOfWork

inductive Failure where
  | noResult
  | rolledBack
  | poisoned (cause : Failure)
  | statement (sql : String) (cause : Failure)
  | cancelled
  | deadlineExceeded
  | transactionClosed
  | sqlite (fault : Sqlite.Fault)
  | postgres (fault : Postgres.Fault)
  | pool (fault : Postgres.PoolFault)
  | configuration (detail : String)
  | connection (detail : String)
  | parameter (detail : String)
  | execution (detail : String)
  | mapping (detail : String)
  | other (detail : String)
deriving DecidableEq

namespace Failure

def message : Failure → String
  | noResult => "no result"
  | rolledBack => "rolled back"
  | poisoned cause => "transaction poisoned: " ++ cause.message
  | statement sql cause => "failed to execute '" ++ sql ++ "': " ++ cause.message
  | cancelled => "operation cancelled"
  | deadlineExceeded => "deadline exceeded"
  | transactionClosed => "transaction already completed"
  | sqlite fault => fault.message
  | postgres fault => fault.message
  | pool fault => fault.message
  | configuration detail => "Configuration error: " ++ detail
  | connection detail => "Connection error: " ++ detail
  | parameter detail => "Parameter error: " ++ detail
  | execution detail => "SQL execution error: " ++ detail
  | mapping detail => "Mapping error: " ++ detail
  | other detail => "Other database error: " ++ detail

def causes : Failure → List Failure
  | poisoned cause => cause :: cause.causes
  | statement _ cause => cause :: cause.causes
  | _ => []

def isNoResult : Failure → Bool
  | noResult => true
  | statement _ cause => cause.isNoResult
  | _ => false

def isRolledBack : Failure → Bool
  | rolledBack => true
  | poisoned cause => cause.isRolledBack
  | _ => false

def isPoisoned : Failure → Bool
  | poisoned _ => true
  | _ => false

def isCancelled : Failure → Bool
  | cancelled => true
  | deadlineExceeded => true
  | statement _ cause => cause.isCancelled
  | _ => false

def display : Failure → String
  | noResult => "NoResult"
  | rolledBack => "RolledBack"
  | poisoned cause => "Poisoned(" ++ cause.display ++ ")"
  | statement sql cause =>
    "Statement \x7b sql: " ++ Text.quoted sql ++ ", source: " ++ cause.display ++ " \x7d"
  | cancelled => "Cancelled"
  | deadlineExceeded => "DeadlineExceeded"
  | transactionClosed => "TransactionClosed"
  | sqlite .noRows => "SqliteError(QueryReturnedNoRows)"
  | sqlite fault => "SqliteError(" ++ Text.quoted fault.message ++ ")"
  | postgres fault => "PostgresError(" ++ Text.quoted fault.message ++ ")"
  | pool .timedOut => "PoolErrorPostgres(TimedOut)"
  | configuration detail => "ConfigError(" ++ Text.quoted detail ++ ")"
  | connection detail => "ConnectionError(" ++ Text.quoted detail ++ ")"
  | parameter detail => "ParameterError(" ++ Text.quoted detail ++ ")"
  | execution detail => "ExecutionError(" ++ Text.quoted detail ++ ")"
  | mapping detail => "Mapping(" ++ Text.quoted detail ++ ")"
  | other detail => "Other(" ++ Text.quoted detail ++ ")"

end Failure

end UnitOfWork
