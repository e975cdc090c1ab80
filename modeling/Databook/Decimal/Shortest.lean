import Databook.Decimal.Power

/-!
# The shortest decimal of a double

A double stands for an interval of reals, the ones that round to it. `Shortest.ofFinite` finds the
decimal with the fewest digits inside that interval, and of those the one nearest to the double.
All arithmetic is on natural numbers: a candidate `c * 10 ^ k` and the double `m * 2 ^ e` are
compared after both are written over one denominator.

The search rests on one remark: if a grid of decimals `c * 10 ^ k` has a point in the interval, then
one of the two grid points next to the double is in it, for the interval holds the double.
-/

namespace Databook.Decimal

open Float.Model (UnpackedFloat)

/-- The decimal `coefficient * 10 ^ exponent`. -/
structure Scaled where
  coefficient : Nat
  exponent : Int
deriving Repr, DecidableEq

namespace Shortest

/-- A double and the ends of its interval, as numerators over the common denominator `den`. -/
structure Span where
  value : Nat
  lower : Nat
  upper : Nat
  den : Nat
  /-- Do the ends themselves round to the double? -/
  closed : Bool

/-- The interval of `mantissa * 2 ^ exponent`. The gap below a power of two is half the gap above
it, unless the double is subnormal. -/
def span (mantissa : Nat) (exponent : Int) : Span :=
  let below := if mantissa == 2 ^ 52 && exponent > -1074 then 1 else 2
  let scale := 2 ^ (exponent - 2).toNat
  { value := 4 * mantissa * scale
    lower := (4 * mantissa - below) * scale
    upper := (4 * mantissa + 2) * scale
    den := 2 ^ (2 - exponent).toNat
    closed := mantissa % 2 == 0 }

/-- Is `c * 10 ^ k` in the interval? -/
def Span.holds (s : Span) (c : Nat) (k : Int) : Bool :=
  let x := c * 10 ^ k.toNat * s.den
  let ten := 10 ^ (-k).toNat
  if s.closed then s.lower * ten ≤ x && x ≤ s.upper * ten
  else s.lower * ten < x && x < s.upper * ten

/-- The grid point below or at the double. -/
def Span.floorAt (s : Span) (k : Int) : Nat :=
  s.value * 10 ^ (-k).toNat / (s.den * 10 ^ k.toNat)

/-- Is the double nearer to `c + 1` than to `c` on the grid? A tie goes to the even one. -/
def Span.nearerAbove (s : Span) (c : Nat) (k : Int) : Bool :=
  let twice := 2 * s.value * 10 ^ (-k).toNat
  let middle := (2 * c + 1) * s.den * 10 ^ k.toNat
  middle < twice || (middle == twice && c % 2 == 1)

/-- The point of the grid that is in the interval and next to the double. -/
def Span.pick? (s : Span) (k : Int) : Option Scaled :=
  let c := s.floorAt k
  match s.holds c k, s.holds (c + 1) k with
  | true,  true  => some ⟨if s.nearerAbove c k then c + 1 else c, k⟩
  | true,  false => some ⟨c, k⟩
  | false, true  => some ⟨c + 1, k⟩
  | false, false => none

/-- The exponent of the leading digit of the double. The double is at least `10 ^ -400`. -/
def Span.leading (s : Span) : Int :=
  ((Nat.toDigits 10 (s.value * 10 ^ 400 / s.den)).length : Int) - 401

/-- Move the factors of ten of a coefficient below 10 ^ `n` into the exponent. -/
def stripZeros : Nat → Scaled → Scaled
  | 0, d => d
  | n + 1, d =>
    if d.coefficient ≠ 0 ∧ d.coefficient % 10 = 0 then
      stripZeros n ⟨d.coefficient / 10, d.exponent + 1⟩
    else d

/-- The shortest decimal of the double `mantissa * 2 ^ exponent`: the coarsest grid that has a point
in the interval, tried from one digit to seventeen. -/
def ofFinite (mantissa : Nat) (exponent : Int) : Scaled :=
  let s := span mantissa exponent
  let top := s.leading
  let found := (List.range 17).findSome? fun (n : Nat) => s.pick? (top - n)
  stripZeros 18 (found.getD ⟨s.floorAt (top - 16), top - 16⟩)

end Shortest

end Databook.Decimal
