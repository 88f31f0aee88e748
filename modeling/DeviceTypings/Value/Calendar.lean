namespace DeviceTypings

/-!
# Dates and instants

Days of the Gregorian calendar, and times of such days. Two instants with
offsets from UTC are the same if they are the same in UTC.
-/

structure Date where
  year : Nat
  month : Nat
  day : Nat
deriving DecidableEq

/-- A time of a day, with the offset from UTC in minutes if one is given. -/
structure Instant where
  date : Date
  hour : Nat
  minute : Nat
  second : Nat
  microsecond : Nat
  offset : Option Int
deriving DecidableEq

namespace Date

def isLeap (year : Nat) : Bool := year % 4 == 0 && (year % 100 != 0 || year % 400 == 0)

def daysIn (year month : Nat) : Nat :=
  if month = 2 then if isLeap year then 29 else 28
  else if month = 4 ∨ month = 6 ∨ month = 9 ∨ month = 11 then 30 else 31

/-- The days of the months before one. -/
def daysBefore (year : Nat) : Nat → Nat
  | 0 => 0
  | 1 => 0
  | month + 2 => daysBefore year (month + 1) + daysIn year (month + 1)

/-- The number of a day, where the first day of the first year is one. -/
def ordinal (d : Date) : Nat :=
  let y := d.year - 1
  365 * y + y / 4 - y / 100 + y / 400 + daysBefore d.year d.month + d.day

end Date

namespace Instant

/-- The minutes from the start of the calendar, without the offset. -/
def minutes (t : Instant) : Int := ((24 * t.date.ordinal + t.hour) * 60 + t.minute : Nat)

/-- Whether two instants are the same. One with an offset and one without are
never. -/
def same (t u : Instant) : Bool :=
  match t.offset, u.offset with
  | some x, some y =>
      t.minutes - x == u.minutes - y && t.second == u.second && t.microsecond == u.microsecond
  | none, none => t == u
  | _, _ => false

end Instant

end DeviceTypings
