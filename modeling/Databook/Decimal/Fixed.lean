import Databook.Decimal.Layout

/-!
# A fixed number of decimals

`fixed` writes the magnitude of a double with a given number of places after the point. The double
is rounded as the exact real number that it is, and an exact half goes to the even neighbour
(`roundDiv`).
-/

namespace Databook.Decimal

open Float.Model (UnpackedFloat)

/-- The natural number nearest to `num / den`, and the even one of two nearest. -/
def roundDiv (num den : Nat) : Nat :=
  let quotient := num / den
  let twice := 2 * (num % den)
  if den < twice || (twice == den && quotient % 2 == 1) then quotient + 1 else quotient

/-- Put a point in front of the last `places` digits of `n`, with at least one digit before it. -/
def placePoint (n places : Nat) : List Char :=
  let digits := Nat.toDigits 10 n
  let padded := List.replicate (places + 1 - digits.length) '0' ++ digits
  if places = 0 then padded
  else padded.take (padded.length - places) ++ '.' :: padded.drop (padded.length - places)

/-- The magnitude of a finite double with `places` decimals. -/
def fixed (places : Nat) (x : Float) : String :=
  match x.toModel.unpack with
  | .finite _ m e _ =>
    String.ofList (placePoint (roundDiv (m * 2 ^ e.toNat * 10 ^ places) (2 ^ (-e).toNat)) places)
  | _ => String.ofList (placePoint 0 places)

end Databook.Decimal
