import UnitOfWork.Calendar.Timestamp
import UnitOfWork.Decimal.Shortest
import UnitOfWork.Text.Quoted
import UnitOfWork.Value.Basic

namespace UnitOfWork

def Decimal.Layout.shown : Decimal.Layout := ⟨-4, 15, "", .up, false, 1⟩

def Decimal.Float64.display (x : Decimal.Float64) : String :=
  match x.meaning with
  | .nan => "NaN"
  | .infinite negative => if negative then "-inf" else "inf"
  | .finite negative significand power =>
    let layout := Decimal.Layout.shown
    layout.finite negative (Decimal.binary64.shortest layout.tie significand power)

namespace Value

def displayBytes (bytes : List UInt8) : String :=
  "[" ++ ", ".intercalate (bytes.map fun b => Text.decimalText b.toNat) ++ "]"

def display : Value → String
  | null => "Null"
  | text s => "Text(" ++ Text.quoted s ++ ")"
  | blob b => "Blob(" ++ displayBytes b ++ ")"
  | int i => "Int(" ++ Text.signedText i.toInt ++ ")"
  | float x => "Float(" ++ x.display ++ ")"
  | bool b => "Bool(" ++ (if b then "true" else "false") ++ ")"
  | timestamp t => "Timestamp(" ++ t.lettered ++ ")"

def displayList (vs : List Value) : String :=
  "[" ++ ", ".intercalate (vs.map display) ++ "]"

end Value

end UnitOfWork
