import ViewLayout.Text.Digit
import ViewLayout.Value.Basic
import ViewLayout.Yaml.Fault

/-!
# Timestamps in YAML

A timestamp is a day, or a day with a time that may have a fraction of a second and the offset of a
clock. `Timestamp.ofText?` divides a text into these parts and `toValue` checks that they are in
range; what a text without a tag needs to be a timestamp is `isPlain`.
-/

namespace ViewLayout.Yaml

/-- The time in a timestamp, in digits as it is written. -/
structure TimePart where
  hour : List Char
  minute : List Char
  second : List Char
  fraction : List Char
  /-- Whether an offset is written. -/
  isPlaced : Bool
  /-- The minutes of the offset. -/
  offset : Int

/-- A timestamp, in digits as it is written. -/
structure Timestamp where
  year : List Char
  month : List Char
  day : List Char
  time : Option TimePart

namespace Timestamp

/-- Whether a character is an ASCII digit. -/
def isDigit (c : Char) : Bool :=
  '0' ≤ c && c ≤ '9'

/-- The number that digits write. -/
def numberOf (digits : List Char) : Nat :=
  Text.ofDigits 10 (digits.map fun c => c.toNat - '0'.toNat)

/-- Whether a character is a blank or a tab. -/
def isSpace (c : Char) : Bool :=
  c == ' ' || c == '\t'

/-- One or two digits, and what follows them. -/
def takePair? : List Char → Option (List Char × List Char)
  | a :: b :: rest =>
    if !isDigit a then none
    else if isDigit b then some ([a, b], rest)
    else some ([a], b :: rest)
  | [a] => if isDigit a then some ([a], []) else none
  | [] => none

/-- Two digits after a mark, and what follows them. -/
def takeAfter? (mark : Char) : List Char → Option (List Char × List Char)
  | c :: a :: b :: rest =>
    if c == mark && isDigit a && isDigit b then some ([a, b], rest) else none
  | _ => none

/-- The shift of a time zone in minutes. -/
def offset? : List Char → Option Int
  | ['Z'] => some 0
  | sign :: rest => do
    if sign ≠ '+' ∧ sign ≠ '-' then none
    let (hours, after) ← takePair? rest
    let minutes ←
      match after with
      | [] => some []
      | _ =>
        match takeAfter? ':' after with
        | some (digits, []) => some digits
        | _ => none
    let size : Int := (numberOf hours * 60 + numberOf minutes : Nat)
    some (if sign = '-' then -size else size)
  | [] => none

/-- The parts of a time of day, with its shift if it has one. -/
def time? (text : List Char) : Option TimePart := do
  let (hour, afterHour) ← takePair? text
  let (minute, afterMinute) ← takeAfter? ':' afterHour
  let (second, afterSecond) ← takeAfter? ':' afterMinute
  let (fraction, rest) :=
    match afterSecond with
    | '.' :: digits => (digits.takeWhile isDigit, digits.dropWhile isDigit)
    | _ => ([], afterSecond)
  if rest.isEmpty then
    some { hour, minute, second, fraction, isPlaced := false, offset := 0 }
  else do
    let offset ← offset? (rest.dropWhile isSpace)
    some { hour, minute, second, fraction, isPlaced := true, offset }

/-- What follows the mark between a day and a time. -/
def afterDay? : List Char → Option (List Char)
  | 'T' :: rest => some rest
  | 't' :: rest => some rest
  | c :: rest => if isSpace c then some (rest.dropWhile isSpace) else none
  | [] => none

/-- The parts of a day, and what follows them. -/
def day? : List Char → Option (Timestamp × List Char)
  | a :: b :: c :: d :: '-' :: rest => do
    if [a, b, c, d].any (!isDigit ·) then none
    let (month, afterMonth) ← takePair? rest
    match afterMonth with
    | '-' :: next =>
      let (day, after) ← takePair? next
      some (⟨[a, b, c, d], month, day, none⟩, after)
    | _ => none
  | _ => none

/-- The parts of a timestamp. -/
def ofText? (text : List Char) : Option Timestamp := do
  let (stamp, after) ← day? text
  if after.isEmpty then some stamp
  else
    let time ← afterDay? after >>= time?
    some { stamp with time := some time }

/-- Whether a text that no tag explains is a timestamp: a day alone needs two digits for its
month and two for its day. -/
def isPlain (text : List Char) : Bool :=
  match ofText? text with
  | none => false
  | some stamp => stamp.time.isSome || (stamp.month.length == 2 && stamp.day.length == 2)

/-- A day that is in the calendar. -/
def checkDate (date : Date) : Except Fault Unit :=
  if date.year = 0 then .error (.unreadable (.yearOutOfRange date.year))
  else if date.month = 0 ∨ 12 < date.month then .error (.unreadable .monthOutOfRange)
  else if date.day = 0 ∨ Date.daysInMonth date.year date.month < date.day then
    .error (.unreadable .dayOutOfRange)
  else .ok ()

/-- A time of day. -/
def checkTime (moment : Moment) : Except Fault Unit :=
  if 23 < moment.hour then .error (.unreadable .hourOutOfRange)
  else if 59 < moment.minute then .error (.unreadable .minuteOutOfRange)
  else if 59 < moment.second then .error (.unreadable .secondOutOfRange)
  else .ok ()

/-- The millionths that the digits of a fraction write; those after the sixth are left out. -/
def millionths (fraction : List Char) : Nat :=
  let digits := fraction.take 6
  numberOf digits * Nat.pow 10 (6 - digits.length)

/-- The value of a timestamp, which has to be in the calendar and in the day. -/
def toValue (stamp : Timestamp) : Except Fault Value :=
  let date : Date := ⟨numberOf stamp.year, numberOf stamp.month, numberOf stamp.day⟩
  match stamp.time with
  | none => do
    checkDate date
    .ok (.date date)
  | some time => do
    let moment : Moment :=
      { date
        hour := numberOf time.hour
        minute := numberOf time.minute
        second := numberOf time.second
        microsecond := millionths time.fraction
        offset := if time.isPlaced then some time.offset else none }
    if 1440 ≤ time.offset.natAbs then .error (.unreadable (.offsetOutOfRange time.offset))
    checkDate date
    checkTime moment
    .ok (.moment moment)

end Timestamp

end ViewLayout.Yaml
