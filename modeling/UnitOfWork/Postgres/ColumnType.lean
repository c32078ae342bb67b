namespace UnitOfWork.Postgres

inductive ColumnType where
  | int2
  | int4
  | int8
  | float4
  | float8
  | text
  | varchar
  | bpchar
  | name
  | bool
  | timestamp
  | timestamptz
  | bytea
  | json
  | jsonb
  | uuid
  | date
  | time
  | numeric
  | unknown
  | oid
  | char
  | int4Array
deriving DecidableEq

namespace ColumnType

def title : ColumnType → String
  | int2 => "int2"
  | int4 => "int4"
  | int8 => "int8"
  | float4 => "float4"
  | float8 => "float8"
  | text => "text"
  | varchar => "varchar"
  | bpchar => "bpchar"
  | name => "name"
  | bool => "bool"
  | timestamp => "timestamp"
  | timestamptz => "timestamptz"
  | bytea => "bytea"
  | json => "json"
  | jsonb => "jsonb"
  | uuid => "uuid"
  | date => "date"
  | time => "time"
  | numeric => "numeric"
  | unknown => "unknown"
  | oid => "oid"
  | char => "char"
  | int4Array => "_int4"

def all : List ColumnType :=
  [int2, int4, int8, float4, float8, text, varchar, bpchar, name, bool, timestamp, timestamptz,
    bytea, json, jsonb, uuid, date, time, numeric, unknown, oid, char, int4Array]

def accepted : ColumnType → Bool
  | json | jsonb | uuid | date | time | numeric | unknown | oid | char | int4Array => false
  | _ => true

def readable (type : ColumnType) : Bool := type.accepted || type == unknown

def width? : ColumnType → Option Nat
  | bool => some 1
  | int2 => some 2
  | int4 | float4 => some 4
  | int8 | float8 | timestamp | timestamptz => some 8
  | _ => none

end ColumnType

end UnitOfWork.Postgres
