import Databook.Decimal.Power
import Databook.Calendar.DateText

/-!
# Points in time

An `Instant` is a time of a day in UTC, to the nanosecond. It is written `2024-06-30T23:59:59.500Z`,
with none, three, six or nine decimals of a second as it needs. A leap second is the 61st second of
a minute.

Reading takes any offset from UTC and turns it into UTC, and allows blanks between the parts.
-/

namespace Databook.Calendar

open Text

/-- A point in time in UTC. -/
structure Instant where
  date : Date
  /-- Seconds since midnight, below 86400. -/
  second : Nat
  /-- Nanoseconds of the second; a leap second goes on from 10 ^ 9. -/
  nano : Nat
deriving DecidableEq, Inhabited

namespace Instant

/-- Midnight of 1 January 1970. -/
def epoch : Instant := ⟨Date.epoch, 0, 0⟩

/-- The decimals of a second: as many groups of three as are not all zero. -/
def fractionText (nano : Nat) : List Char :=
  if nano = 0 then []
  else if nano % 1000000 = 0 then '.' :: padded 3 (nano / 1000000)
  else if nano % 1000 = 0 then '.' :: padded 6 (nano / 1000)
  else '.' :: padded 9 nano

/-- The time of day to the second. -/
def timeText (t : Instant) : List Char :=
  let leap := if t.nano < 1000000000 then 0 else 1
  padded 2 (t.second / 3600) ++ ':' :: padded 2 (t.second / 60 % 60) ++
    ':' :: padded 2 (t.second % 60 + leap)

/-- The text of an instant. -/
def toText (t : Instant) : String :=
  String.ofList <| t.date.toChars ++ 'T' :: t.timeText ++ fractionText (t.nano % 1000000000) ++ ['Z']

/-- The text of an instant to the second, as record stores note it: `2024-06-30 23:59:59`. -/
def toStamp (t : Instant) : String := String.ofList (t.date.toChars ++ ' ' :: t.timeText)

/-! ### Reading -/

/-- Read a number that must be below `bound`. -/
def readBelow? (bound : Nat) (cs : List Char) : Option (Nat × List Char) := do
  let (n, cs) ← readNumber? 2 cs
  guard (n < bound)
  return (n, cs)

/-- Read the decimals of a second, if any, as nanoseconds. Those beyond the ninth are dropped. -/
def readFraction? : List Char → Option (Nat × List Char)
  | '.' :: cs => do
    let (n, rest) ← readDigits? 9 cs
    return (n * 10 ^ (9 - (cs.length - rest.length)), rest.dropWhile Char.isDigit)
  | cs => some (0, cs)

/-- Read hours, minutes and seconds: the second of the day and the nanoseconds. -/
def readTime? (cs : List Char) : Option ((Nat × Nat) × List Char) := do
  let (hour, cs) ← readBelow? 24 cs
  let cs ← readChar? ':' (trimStart cs)
  let (minute, cs) ← readBelow? 60 cs
  let cs ← readChar? ':' (trimStart cs)
  let (second, cs) ← readBelow? 61 cs
  let (nano, cs) ← readFraction? cs
  let leap := if second = 60 then 1 else 0
  return ((hour * 3600 + minute * 60 + second - leap, nano + leap * 1000000000), cs)

/-- Exactly two digits. -/
def readPair? : List Char → Option (Nat × List Char)
  | a :: b :: cs =>
    if a.isDigit && b.isDigit then some ((a.toNat - 48) * 10 + (b.toNat - 48), cs) else none
  | _ => none

/-- Read an offset from UTC in seconds: `Z`, `UTC`, or a sign, hours and minutes. -/
def readOffset? (cs : List Char) : Option (Int × List Char) :=
  let signed (sign : Int) (cs : List Char) : Option (Int × List Char) := do
    let (hours, cs) ← readPair? cs
    let (minutes, cs) ← readPair? (cs.dropWhile fun c => c == ':' || isBlank c)
    guard (minutes < 60)
    return (sign * (hours * 3600 + minutes * 60), cs)
  if (cs.take 3).map Char.toLower == ['u', 't', 'c'] then some (0, cs.drop 3)
  else match cs with
    | 'Z' :: cs | 'z' :: cs => some (0, cs)
    | '+' :: cs => signed 1 cs
    | '-' :: cs | '\u2212' :: cs => signed (-1) cs
    | _ => none

/-- Read an instant that takes up the whole text. -/
def read? (s : String) : Option Instant := do
  let (date, cs) ← readYearMonthDay? isBlank s.toList
  let cs ← match cs with
    | c :: cs => if c == 'T' || c == 't' || c == ' ' then some cs else none
    | [] => none
  let ((second, nano), cs) ← readTime? cs
  let (offset, cs) ← readOffset? (trimStart cs)
  guard (cs.all isBlank && offset.natAbs < 86400)
  let utc : Int := second - offset
  let date ← date.addDays? (utc / 86400)
  return ⟨date, (utc % 86400).toNat, nano⟩

end Instant

end Databook.Calendar
