import Databook.Calendar.Date
import Databook.Text.Search

/-!
# Date texts

A date is written `YYYY-MM-DD`. The year has at least four digits, and a sign when it is negative or
has more than four: `-0001-12-31`, `+10000-01-01`.

Reading is more liberal than writing. Each number may follow blanks, a month or a day may have one
digit only, and a year without a sign takes up to four digits. `Date.read?` is the strict form of
this, for the formula language and for summaries; `Date.readSpaced?` also allows blanks in front of
the dashes and at the end, for settings.
-/

namespace Databook.Calendar

open Text

/-- `n` in decimal digits, with zeros in front up to a width. -/
def padded (width n : Nat) : List Char :=
  let digits := Nat.toDigits 10 n
  List.replicate (width - digits.length) '0' ++ digits

/-- The text of a year. -/
def yearText (year : Int) : List Char :=
  if year < 0 then '-' :: padded 4 year.natAbs
  else if year ≤ 9999 then padded 4 year.natAbs
  else '+' :: padded 4 year.natAbs

/-- The text of a date, as characters. -/
def Date.toChars (d : Date) : List Char :=
  yearText d.year ++ '-' :: padded 2 d.month ++ '-' :: padded 2 d.day

/-- The text of a date. -/
def Date.toText (d : Date) : String := String.ofList d.toChars

/-! ### Reading -/

/-- Read a decimal number of one to `width` digits. -/
def readDigits? (width : Nat) (cs : List Char) : Option (Nat × List Char) :=
  let digits := (cs.take width).takeWhile Char.isDigit
  if digits.isEmpty then none
  else some (digits.foldl (fun n c => 10 * n + (c.toNat - '0'.toNat)) 0, cs.drop digits.length)

/-- Read a number of up to `width` digits after blanks. -/
def readNumber? (width : Nat) (cs : List Char) : Option (Nat × List Char) :=
  readDigits? width (trimStart cs)

/-- Read a year after blanks: up to four digits, or any number of digits after a sign. -/
def readYear? (cs : List Char) : Option (Int × List Char) :=
  match trimStart cs with
  | '-' :: cs => (readDigits? cs.length cs).map fun (n, cs) => (-n, cs)
  | '+' :: cs => (readDigits? cs.length cs).map fun (n, cs) => (n, cs)
  | cs => (readDigits? 4 cs).map fun (n, cs) => (n, cs)

/-- Read one given character. -/
def readChar? (c : Char) : List Char → Option (List Char)
  | d :: cs => if c == d then some cs else none
  | [] => none

/-- Read a year, month and day with dashes between them; `gap` is dropped before the dashes. -/
def readYearMonthDay? (gap : Char → Bool) (cs : List Char) : Option (Date × List Char) := do
  let (year, cs) ← readYear? cs
  let cs ← readChar? '-' (cs.dropWhile gap)
  let (month, cs) ← readNumber? 2 cs
  let cs ← readChar? '-' (cs.dropWhile gap)
  let (day, cs) ← readNumber? 2 cs
  let date ← Date.of? year month day
  return (date, cs)

/-- Read a date that takes up the whole text. -/
def Date.read? (s : String) : Option Date :=
  match readYearMonthDay? (fun _ => false) s.toList with
  | some (date, []) => some date
  | _ => none

/-- Read a date with blanks anywhere between its parts. -/
def Date.readSpaced? (s : String) : Option Date :=
  match readYearMonthDay? isBlank s.toList with
  | some (date, cs) => if cs.all isBlank then some date else none
  | none => none

/-- Read a date from the first ten bytes of a text, or from all of it when there are fewer or when
they end within a character. -/
def Date.readHead? (s : String) : Option Date := Date.read? (takeBytes 10 s)

end Databook.Calendar
