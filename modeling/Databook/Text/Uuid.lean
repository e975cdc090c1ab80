import Databook.Decimal.Power

/-!
# Random ids

An id made of random bits is written as 32 hexadecimal digits in five groups. The third group starts
with a 4 and the fourth with 8, 9, a or b, which mark an id as random.
-/

namespace Databook.Text

/-- The last `width` hexadecimal digits of a number. -/
def lastHexDigits (width n : Nat) : List Char :=
  (List.range width).reverse.map fun i => Nat.digitChar (n / 16 ^ i % 16)

/-- The id made of the lowest 122 bits of a number. -/
def randomId (n : Nat) : String :=
  let variant := 8 + n / 2 ^ 60 % 4
  String.ofList <| lastHexDigits 8 (n / 2 ^ 90) ++ '-' :: lastHexDigits 4 (n / 2 ^ 74) ++
    '-' :: '4' :: lastHexDigits 3 (n / 2 ^ 62) ++
    '-' :: lastHexDigits 1 variant ++ lastHexDigits 3 (n / 2 ^ 48) ++ '-' :: lastHexDigits 12 n

end Databook.Text
