import UnitOfWork.Calendar.Reader
import UnitOfWork.Row.Basic
import UnitOfWork.Text.Utf8
import UnitOfWork.Value.Integer

namespace UnitOfWork

namespace Value

def string? : Value → Option String
  | text s => some s
  | blob b => (Text.decodeUtf8 b).toOption
  | _ => none

def bytes? : Value → Option (List UInt8)
  | blob b => some b
  | null => some []
  | _ => none

def bool? : Value → Option Bool
  | bool b => some b
  | int i => some (i != 0)
  | _ => none

def time? : Value → Option Timestamp
  | timestamp t => some t
  | null => some .epoch
  | text s => Timestamp.ofText? s
  | _ => none

def integer? (t : IntegerType) (v : Value) : Option Int := v.asInt?.map t.narrow

def float32? (v : Value) : Option UInt32 := v.asFloat?.map Decimal.Float64.toBits32

end Value

namespace Row

def string? (r : Row) (key : String) : Option String := r.get? key >>= Value.string?

def bytes? (r : Row) (key : String) : Option (List UInt8) := r.get? key >>= Value.bytes?

def bool? (r : Row) (key : String) : Option Bool := r.get? key >>= Value.bool?

def time? (r : Row) (key : String) : Option Timestamp := r.get? key >>= Value.time?

def int64? (r : Row) (key : String) : Option Int64 := r.get? key >>= Value.asInt?

def integer? (t : IntegerType) (r : Row) (key : String) : Option Int :=
  r.get? key >>= Value.integer? t

def float64? (r : Row) (key : String) : Option Decimal.Float64 := r.get? key >>= Value.asFloat?

def float32? (r : Row) (key : String) : Option UInt32 := r.get? key >>= Value.float32?

end Row

end UnitOfWork
