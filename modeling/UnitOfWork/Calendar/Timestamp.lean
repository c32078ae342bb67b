import UnitOfWork.Calendar.Date
import UnitOfWork.Text.Digits

/-!
Points in time without a zone, to the nanosecond. A second can be followed by a leap second, which
is told by a thousand million nanoseconds or more.
-/
namespace UnitOfWork

def Calendar.IsTime (hour minute second nano : Nat) : Prop :=
  hour < 24 ∧ minute < 60 ∧ second < 60 ∧ nano < 2000000000

instance (hour minute second nano : Nat) :
    Decidable (Calendar.IsTime hour minute second nano) :=
  inferInstanceAs (Decidable (_ ∧ _))

structure Timestamp where
  year : Int
  month : Nat
  day : Nat
  hour : Nat
  minute : Nat
  second : Nat
  nano : Nat
  isDate : Calendar.IsDate year month day
  isTime : Calendar.IsTime hour minute second nano
deriving DecidableEq

namespace Timestamp

open Calendar

def ofFields? (year : Int) (month day hour minute second nano : Nat) : Option Timestamp :=
  if hd : IsDate year month day then
    if ht : IsTime hour minute second nano then
      some ⟨year, month, day, hour, minute, second, nano, hd, ht⟩
    else none
  else none

theorem ofFields?_fields (t : Timestamp) :
    ofFields? t.year t.month t.day t.hour t.minute t.second t.nano = some t := by
  simp [ofFields?, t.isDate, t.isTime]

def ofClock? (year : Int) (month day hour minute second nano : Nat) : Option Timestamp :=
  if nano < 1000000000 then
    if second = 60 then ofFields? year month day hour minute 59 (nano + 1000000000)
    else ofFields? year month day hour minute second nano
  else none

def epoch : Timestamp := ⟨1970, 1, 1, 0, 0, 0, 0, by decide, by decide⟩

/-- The second that a clock shows: 60 in a leap second at the end of a minute, and elsewhere the
number of the next second. -/
def clockSecond (t : Timestamp) : Nat := t.second + t.nano / 1000000000

def clockNano (t : Timestamp) : Nat := t.nano % 1000000000

def dayNumber (t : Timestamp) : Int := Calendar.dayNumber t.year t.month t.day

def secondOfDay (t : Timestamp) : Nat := t.hour * 3600 + t.minute * 60 + t.second

def ofDaySecond? (day : Int) (second nano : Nat) : Option Timestamp :=
  let (year, month, dayOfMonth) := dateOfDay day
  ofFields? year month dayOfMonth (second / 3600) (second / 60 % 60) (second % 60) nano

def minusMinutes? (t : Timestamp) (minutes : Int) : Option Timestamp :=
  let total := t.dayNumber * 1440 + (t.hour * 60 + t.minute : Nat) - minutes
  ofDaySecond? (total / 1440) ((total % 1440).toNat * 60 + t.second) t.nano

def key (t : Timestamp) : List Int :=
  [t.year, t.month, t.day, t.hour, t.minute, t.second, t.nano]

def before (s t : Timestamp) : Bool := decide (s.key < t.key)

open Text

def yearText (year : Int) : List Char :=
  if year < 0 then '-' :: padded 4 year.natAbs
  else if year ≤ 9999 then padded 4 year.natAbs
  else '+' :: padded 4 year.natAbs

def fractionText (nano : Nat) : List Char :=
  if nano = 0 then []
  else if nano % 1000000 = 0 then '.' :: padded 3 (nano / 1000000)
  else if nano % 1000 = 0 then '.' :: padded 6 (nano / 1000)
  else '.' :: padded 9 nano

def print (separator : Char) (t : Timestamp) : List Char :=
  yearText t.year ++ '-' :: padded 2 t.month ++ '-' :: padded 2 t.day ++
    separator :: padded 2 t.hour ++ ':' :: padded 2 t.minute ++ ':' :: padded 2 t.clockSecond ++
    fractionText t.clockNano

def spaced (t : Timestamp) : String := String.ofList (t.print ' ')

def lettered (t : Timestamp) : String := String.ofList (t.print 'T')

end Timestamp

end UnitOfWork
