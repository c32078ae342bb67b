import UnitOfWork.Calendar.Timestamp
import UnitOfWork.Decimal.Binary

namespace UnitOfWork

inductive Value where
  | null
  | text (s : String)
  | blob (bytes : List UInt8)
  | int (i : Int64)
  | float (x : Decimal.Float64)
  | bool (b : Bool)
  | timestamp (t : Timestamp)
deriving DecidableEq

inductive Kind where
  | null
  | text
  | blob
  | int
  | float
  | bool
  | timestamp
deriving DecidableEq

def Kind.name : Kind → String
  | .null => "null"
  | .text => "text"
  | .blob => "blob"
  | .int => "int"
  | .float => "float"
  | .bool => "bool"
  | .timestamp => "timestamp"

namespace Value

def kind : Value → Kind
  | null => .null
  | text _ => .text
  | blob _ => .blob
  | int _ => .int
  | float _ => .float
  | bool _ => .bool
  | timestamp _ => .timestamp

def isNull : Value → Bool
  | null => true
  | _ => false

def asInt? : Value → Option Int64
  | int i => some i
  | _ => none

def asText? : Value → Option String
  | text s => some s
  | _ => none

def asFloat? : Value → Option Decimal.Float64
  | float x => some x
  | _ => none

def asBlob? : Value → Option (List UInt8)
  | blob b => some b
  | _ => none

def equal : Value → Value → Bool
  | float x, float y => x.equal y
  | v, w => v == w

def equalAll : List Value → List Value → Bool
  | [], [] => true
  | v :: vs, w :: ws => v.equal w && equalAll vs ws
  | _, _ => false

end Value

end UnitOfWork
