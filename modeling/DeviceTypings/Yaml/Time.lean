import DeviceTypings.Json.Token
import DeviceTypings.Value.Misread
import DeviceTypings.Yaml.Tag

namespace DeviceTypings.Yaml

/-!
# Dates and times

What a text of the form of a timestamp stands for: a day, or an instant with a
fraction of a second in whole microseconds.
-/

def dateOf (year month day : Nat) : Except Misread Date :=
  if year = 0 then .error (.defect .year)
  else if month = 0 ∨ 12 < month then .error (.defect .month)
  else if day = 0 ∨ Date.daysIn year month < day then .error (.defect .day)
  else .ok ⟨year, month, day⟩

/-- The minutes that a zone lies after UTC, less than a day either way. -/
def offsetOf (sign : CodePoint) (hours minutes : Nat) : Except Misread Int :=
  let n := 60 * hours + minutes
  let offset : Int := if sign == '-' then -n else n
  if n < 1440 then .ok offset else .error (.defect (.offset offset))

/-- The first six digits of a fraction of a second. -/
def microseconds (digits : List CodePoint) : Nat :=
  let ds := digits.take 6
  Json.digitsValue (ds ++ List.replicate (6 - ds.length) (.char '0'))

/-- The value of a timestamp. Of several faults that of the zone comes first. -/
def timeOf (p : TimeParts) : Except Misread Value := do
  let number := Json.digitsValue
  let date := dateOf (number p.year) (number p.month) (number p.day)
  match p.time with
  | none => return .date (← date)
  | some (hour, minute, second, fraction) =>
      let offset ← match p.zone with
        | none => pure none
        | some none => pure (some 0)
        | some (some (sign, hours, minutes)) =>
            some <$> offsetOf sign (number hours) (number minutes)
      let date ← date
      if 23 < number hour then throw (.defect .hour)
      if 59 < number minute then throw (.defect .minute)
      if 59 < number second then throw (.defect .second)
      return .instant
        ⟨date, number hour, number minute, number second, microseconds fraction, offset⟩

def timestampOf (text : Text) : Except Misread Value :=
  match timeParts? (dropFinalBreak text.toList) with
  | none => .error (.defect .timestamp)
  | some p => timeOf p

end DeviceTypings.Yaml
