import UnitOfWork.Postgres.ColumnType
import UnitOfWork.Text.Bytes
import UnitOfWork.Text.Utf8
import UnitOfWork.Value.Integer

namespace UnitOfWork.Postgres

open Text

inductive EncodingFault where
  | tooLarge
  | tooSmall
  | notAccepted (type : ColumnType)
deriving DecidableEq

def EncodingFault.message : EncodingFault → String
  | tooLarge => "number too large to fit in target type"
  | tooSmall => "number too small to fit in target type"
  | notAccepted type =>
    "cannot convert between the Rust type `sql_depot::types::Value` and the Postgres type `" ++
      type.title ++ "`"

def epochDay : Int := Calendar.dayNumber 2000 1 1

def nanosSinceEpoch (t : Timestamp) : Int :=
  ((t.dayNumber - epochDay) * 86400 + t.secondOfDay) * 1000000000 + t.nano

def microsSinceEpoch (t : Timestamp) : Int := (nanosSinceEpoch t).tdiv 1000

def ofMicrosSinceEpoch? (micros : Int) : Option Timestamp :=
  let seconds := micros / 1000000
  Timestamp.ofDaySecond? (epochDay + seconds / 86400) (seconds % 86400).toNat
    ((micros % 1000000).toNat * 1000)

def encodeInteger (width : Nat) (i : Int) : Except EncodingFault (List UInt8) :=
  if (Nat.pow 2 (8 * width - 1) : Nat) ≤ i then .error .tooLarge
  else if i < -(Nat.pow 2 (8 * width - 1) : Nat) then .error .tooSmall
  else .ok (bigEndianSigned width i)

/-- The bytes of a value for a parameter of a type. The type decides the width of a number and
nothing else. -/
def encode (type : ColumnType) : Value → Except EncodingFault (Option (List UInt8))
  | .null => .ok none
  | .int i =>
    match type with
    | .int2 => (encodeInteger 2 i.toInt).map some
    | .int4 => (encodeInteger 4 i.toInt).map some
    | _ => .ok (some (bigEndianSigned 8 i.toInt))
  | .float x =>
    match type with
    | .float4 => .ok (some (bigEndian 4 x.toBits32.toNat))
    | _ => .ok (some (bigEndian 8 x.bits.toNat))
  | .text s => .ok (some (encodeUtf8 s))
  | .bool b => .ok (some [if b then 1 else 0])
  | .timestamp t => .ok (some (bigEndianSigned 8 (microsSinceEpoch t)))
  | .blob b => .ok (some b)

def encodeChecked (type : ColumnType) (v : Value) : Except EncodingFault (Option (List UInt8)) :=
  if type.accepted then encode type v else .error (.notAccepted type)

def decodeInteger (width : Nat) (bytes : List UInt8) : Option Value :=
  if bytes.length = width then some (.int (Int64.ofInt (ofBigEndianSigned bytes))) else none

def decodeBytes (type : ColumnType) (bytes : List UInt8) : Option Value :=
  match type with
  | .int2 => decodeInteger 2 bytes
  | .int4 => decodeInteger 4 bytes
  | .int8 => decodeInteger 8 bytes
  | .float4 =>
    if bytes.length = 4 then some (.ofBits32 (ofBigEndian bytes).toUInt32) else none
  | .float8 => if bytes.length = 8 then some (.float (.ofNat (ofBigEndian bytes))) else none
  | .bool =>
    match bytes with
    | [b] => some (.bool (b != 0))
    | _ => none
  | .timestamp | .timestamptz =>
    if bytes.length = 8 then
      (ofMicrosSinceEpoch? (ofBigEndianSigned bytes)).map .timestamp
    else none
  | .bytea => some (.blob bytes)
  | .text | .varchar | .bpchar | .name | .unknown => (decodeUtf8 bytes).toOption.map .text
  | .json | .jsonb | .uuid | .date | .time | .numeric | .oid | .char | .int4Array => none

def decode (type : ColumnType) : Option (List UInt8) → Option Value
  | none => if type.readable then some .null else none
  | some bytes => decodeBytes type bytes

end UnitOfWork.Postgres
