import Databook.Decimal.Power

/-!
# Whole parts and remainders of doubles

`truncate?` is the whole part of a double as an integer and `remainder` what division to the whole
part leaves over. Both are exact: they work on the integers `mantissa * 2 ^ exponent` of the doubles
and round nothing.
-/

namespace Databook.Decimal

open Float.Model (UnpackedFloat)

/-- A double as a signed number of units of `2 ^ exponent`. -/
def signedMantissa (sign : UnpackedFloat.Sign) (mantissa : Nat) : Int :=
  match sign with
  | .negative => -mantissa
  | .positive => mantissa

/-- The whole part of a finite double, which is nearer to zero than the double; `none` for infinities
and for NaN. -/
def truncate? (x : Float) : Option Int :=
  match x.toModel.unpack with
  | .finite sign m e _ => some (signedMantissa sign (m * 2 ^ e.toNat / 2 ^ (-e).toNat))
  | .zero _ => some 0
  | _ => none

/-- Is the double a finite whole number? -/
def isInteger (x : Float) : Bool :=
  match x.toModel.unpack with
  | .finite _ m e _ => m * 2 ^ e.toNat % 2 ^ (-e).toNat == 0
  | .zero _ => true
  | _ => false

/-- The remainder of `x / y` after division to the whole part. It has the sign of `x`, and there is
none (NaN) when `x` is infinite or `y` is zero. -/
def remainder (x y : Float) : Float :=
  match x.toModel.unpack, y.toModel.unpack with
  | .finite sign m e _, .finite _ m' e' _ =>
    let unit := min e e'
    let rest := m * 2 ^ (e - unit).toNat % (m' * 2 ^ (e' - unit).toNat)
    if rest = 0 then Float.ofModel (.pack (.zero sign))
    else Float.ofModel (.pack (.round .binary64 sign rest unit))
  | .finite .., .infinity _ | .zero _, .infinity _ | .zero _, .finite .. => x
  | _, _ => 0 / 0

end Databook.Decimal
