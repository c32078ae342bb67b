import UnitOfWork.Text.Digits

namespace UnitOfWork.Sqlite

inductive Fault where
  | noRows
  | noSuchTable (table : String)
  | noSuchColumn (column sql : String) (offset : Nat)
  | noColumnNamed (table column : String)
  | tableExists (table sql : String) (offset : Nat)
  | unequalWidths
  | unique (table column : String)
  | notNull (table column : String)
  | datatypeMismatch
  | parameterCount (got needed : Nat)
  | returnedRows
  | nothingToCommit
  | nothingToRollBack
  | nestedTransaction
  | locked
  | syntaxNear (token sql : String) (offset : Nat)
  | incompleteInput
  | unrecognized (text sql : String) (offset : Nat)
  | noColumnToSet (column : String)
  | noTables
  | valueCount (values columns : Nat)
deriving DecidableEq

namespace Fault

def located (complaint sql : String) (offset : Nat) : String :=
  complaint ++ " in " ++ sql ++ " at offset " ++ Text.decimalText offset

def message : Fault → String
  | noRows => "Query returned no rows"
  | noSuchTable table => "no such table: " ++ table
  | noSuchColumn column sql offset => located ("no such column: " ++ column) sql offset
  | noColumnNamed table column => "table " ++ table ++ " has no column named " ++ column
  | tableExists table sql offset => located ("table " ++ table ++ " already exists") sql offset
  | unequalWidths =>
    "SELECTs to the left and right of UNION ALL do not have the same number of result columns"
  | unique table column => "UNIQUE constraint failed: " ++ table ++ "." ++ column
  | notNull table column => "NOT NULL constraint failed: " ++ table ++ "." ++ column
  | datatypeMismatch => "datatype mismatch"
  | parameterCount got needed =>
    "Wrong number of parameters passed to query. Got " ++ Text.decimalText got ++ ", needed " ++
      Text.decimalText needed
  | returnedRows => "Execute returned results - did you mean to call query?"
  | nothingToCommit => "cannot commit - no transaction is active"
  | nothingToRollBack => "cannot rollback - no transaction is active"
  | nestedTransaction => "cannot start a transaction within a transaction"
  | locked => "database is locked"
  | syntaxNear token sql offset => located ("near \"" ++ token ++ "\": syntax error") sql offset
  | incompleteInput => "incomplete input"
  | unrecognized text sql offset =>
    located ("unrecognized token: \"" ++ text ++ "\"") sql offset
  | noColumnToSet column => "no such column: " ++ column
  | noTables => "no tables specified"
  | valueCount values columns =>
    Text.decimalText values ++ " values for " ++ Text.decimalText columns ++ " columns"

end Fault

end UnitOfWork.Sqlite

namespace UnitOfWork.Postgres

inductive Fault where
  | server (code detail : String)
  | parameterCount (expected got : Nat)
  | encoding (parameter : Nat)
  | decoding (column : Nat)
deriving DecidableEq

def Fault.message : Fault → String
  | server _ _ => "db error"
  | parameterCount expected got =>
    "expected " ++ Text.decimalText expected ++ " parameters but got " ++ Text.decimalText got
  | encoding parameter => "error serializing parameter " ++ Text.decimalText parameter
  | decoding column => "error deserializing column " ++ Text.decimalText column

inductive PoolFault where
  | timedOut
deriving DecidableEq

def PoolFault.message : PoolFault → String
  | timedOut => "Timed out in bb8"

end UnitOfWork.Postgres
