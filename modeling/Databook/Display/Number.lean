import Databook.Document.Property
import Databook.Decimal.Fixed

/-!
# Numbers as properties show them

`NumberFormat.write` writes a number with the decimals, separators and symbols of a format.
`groupThousands` puts a comma before every third digit of the whole part, counted from the point.
-/

namespace Databook

/-- The digits of a whole number with a comma before each group of three but the first. -/
def groupDigits : List Char → List Char
  | [] => []
  | c :: cs =>
    c :: (if !cs.isEmpty && cs.length % 3 == 0 then ',' :: groupDigits cs else groupDigits cs)

/-- A number text with commas in its whole part. -/
def groupThousands (text : String) : String :=
  let (whole, fraction) := text.toList.span (· != '.')
  String.ofList (groupDigits whole ++ fraction)

/-- Is there a digit other than zero? -/
def hasNonZeroDigit (text : String) : Bool := text.toList.any fun c => c.isDigit && c != '0'

namespace NumberFormat

/-- The number of decimals of a format; currencies have two unless told otherwise. -/
def places? (f : NumberFormat) : Option Nat :=
  match f.decimals, f.style with
  | some n, _ => some n
  | none, .currency => some 2
  | none, _ => none

/-- The magnitude of a number in a format, without sign and symbols. -/
def body (f : NumberFormat) (x : Float) : String :=
  let digits := match f.places? with
    | some n => Decimal.fixed n x
    | none => Cell.numberText x.abs
  if f.thousandsSeparator then groupThousands digits else digits

/-- A number in a format. A number that is rounded to zero has no sign. -/
def write (f : NumberFormat) (x : Float) : String :=
  if !x.isFinite then Cell.numberText x
  else
    let body := f.body x
    let sign := if x < 0 && hasNonZeroDigit body then "-" else ""
    match f.style with
    | .plain => sign ++ body
    | .currency => sign ++ f.currencySymbol.getD "$" ++ body
    | .percent => sign ++ body ++ "%"

end NumberFormat

/-- A number as a property shows it. -/
def Property.numberText (p : Property) (x : Float) : String :=
  match p.numberFormat? with
  | some format => format.write x
  | none => Cell.numberText x

end Databook
