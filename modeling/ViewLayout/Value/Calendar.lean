/-!
# Days and moments

Days of the calendar and moments of a day, which may say how far their clock is ahead of universal
time. `Moment.minutes` counts the minutes of a moment from a fixed day on, so that moments of clocks
apart can be compared.
-/

namespace ViewLayout

/-- A number with zeros in front up to the given width. -/
def paddedDecimal (width n : Nat) : String :=
  let digits := Nat.toDigits 10 n
  String.ofList (List.replicate (width - digits.length) '0' ++ digits)

/-- A day of the calendar. -/
structure Date where
  year : Nat
  month : Nat
  day : Nat
deriving DecidableEq

namespace Date

/-- Whether a year has a leap day. -/
def isLeapYear (year : Nat) : Bool :=
  year % 4 == 0 && (year % 100 != 0 || year % 400 == 0)

/-- How many days a month has. -/
def daysInMonth (year month : Nat) : Nat :=
  if month = 2 then if isLeapYear year then 29 else 28
  else if month = 4 ∨ month = 6 ∨ month = 9 ∨ month = 11 then 30
  else 31

/-- How many days are before the first one of a year. -/
def daysBeforeYear (year : Nat) : Nat :=
  let past := year - 1
  past * 365 + past / 4 - past / 100 + past / 400

/-- The number of a day, counted from the first day of the year 1. -/
def number (date : Date) : Nat :=
  (List.range (date.month - 1)).foldl
      (fun days month => days + daysInMonth date.year (month + 1)) (daysBeforeYear date.year) +
    date.day

/-- A day as it is written. -/
def text (date : Date) : String :=
  paddedDecimal 4 date.year ++ "-" ++ paddedDecimal 2 date.month ++ "-" ++ paddedDecimal 2 date.day

end Date

/-- A moment of a day, with the minutes that its clock is ahead of universal time if it says so. -/
structure Moment where
  date : Date
  hour : Nat
  minute : Nat
  second : Nat
  microsecond : Nat
  offset : Option Int
deriving DecidableEq

namespace Moment

/-- The minutes up to a moment, by universal time if its offset is known. -/
def minutes (moment : Moment) : Int :=
  let count : Nat := (moment.date.number * 24 + moment.hour) * 60 + moment.minute
  count - moment.offset.getD 0

/-- Whether two moments are the same one. A moment without an offset is none with an offset. -/
def isSame (x y : Moment) : Bool :=
  x.offset.isSome == y.offset.isSome && x.minutes == y.minutes && x.second == y.second &&
    x.microsecond == y.microsecond

/-- A shift of minutes as it is written behind a time. -/
def offsetText (offset : Int) : String :=
  let size := offset.natAbs
  (if offset < 0 then "-" else "+") ++ paddedDecimal 2 (size / 60) ++ ":" ++
    paddedDecimal 2 (size % 60)

/-- A moment as it is written. -/
def text (moment : Moment) : String :=
  let fraction :=
    if moment.microsecond = 0 then "" else "." ++ paddedDecimal 6 moment.microsecond
  moment.date.text ++ " " ++ paddedDecimal 2 moment.hour ++ ":" ++ paddedDecimal 2 moment.minute ++
    ":" ++ paddedDecimal 2 moment.second ++ fraction ++
    ((moment.offset.map offsetText).getD "")

end Moment

end ViewLayout
