import Databook.Decimal.Power
import Databook.Json.Basic
import Databook.Decimal.Numeral

/-!
# JSON tokens

`tokens` splits a text into punctuation, strings, numbers and the three words. Splitting stops at
the first place where no token starts, which is marked by the token `bad`.

Two things that are wrong with a token do not stop the splitting, since they only matter where the
token is used: a string may hold half of a surrogate pair (`Token.string none`), and a number may be
too large for a double (`Numeral.value?`).
-/

namespace Databook.Json

/-- A number as it was written. -/
structure Numeral where
  negative : Bool
  whole : List Char
  /-- The digits after the point; none if there is no point. -/
  fraction : List Char
  exponent : Option Int
deriving BEq, DecidableEq

/-- A token of a JSON text. -/
inductive Token where
  | openArray
  | closeArray
  | openObject
  | closeObject
  | comma
  | colon
  | null
  | bool (b : Bool)
  | number (n : Numeral)
  | string (s : Option String)
  | bad
deriving BEq, DecidableEq

/-! ### Numbers -/

namespace Numeral

/-- Take digits into a coefficient while it stays below 2 ^ 64; the digits left over follow. -/
def absorb : Nat → List Char → Nat × List Char
  | n, [] => (n, [])
  | n, c :: cs =>
    let n' := 10 * n + (c.toNat - '0'.toNat)
    if n' < 2 ^ 64 then absorb n' cs else (n, c :: cs)

/-- Divide by 10 ^ 308 until the exponent is small enough for a power of ten to exist. After three
divisions nothing is left of a coefficient of 64 bits, and a double that is zero stays zero. -/
def shrink : Nat → Float → Int → Float × Int
  | 0, x, e => (x, e)
  | n + 1, x, e => if e < -308 && x != 0 then shrink n (x / 1e308) (e + 308) else (x, e)

/-- `coefficient * 10 ^ exponent` in doubles, with one rounding for the coefficient and one for the
product or quotient; `none` if the result is infinite. -/
def scale (coefficient : Nat) (exponent : Int) : Option Float :=
  let (x, e) := shrink 4 (Float.ofNat coefficient) exponent
  if x == 0 then some x
  else if e < 0 then some (x / Float.ofScientific 1 false e.natAbs)
  else if e ≤ 308 then
    let y := x * Float.ofScientific 1 false e.natAbs
    if y.isInf then none else some y
  else none

/-- The value of a number: an integer if it is written as one and fits 64 bits. -/
def value? (n : Numeral) : Option Number :=
  let (short, excess) := absorb 0 n.whole
  let (coefficient, dropped) := absorb short n.fraction
  let signed (x : Float) : Number := .double (if n.negative then -x else x)
  if n.fraction.isEmpty && n.exponent.isNone && excess.isEmpty then
    if !n.negative then some (.integer coefficient)
    else if 0 < coefficient && coefficient ≤ 2 ^ 63 then some (.integer (-coefficient))
    else some (signed (Float.ofNat coefficient))
  else
    let point : Int := excess.length - (n.fraction.length - dropped.length : Nat)
    (scale coefficient (point + n.exponent.getD 0)).map signed

/-- A point and at least one digit, or nothing. With the number of characters. -/
def fraction? : List Char → Option (List Char × Nat)
  | '.' :: cs =>
    let digits := cs.takeWhile Char.isDigit
    if digits.isEmpty then none else some (digits, digits.length + 1)
  | _ => some ([], 0)

/-- An exponent, or nothing. With the number of characters. -/
def exponent? : List Char → Option (Option Int × Nat)
  | c :: cs =>
    if c == 'e' || c == 'E' then
      let (negative, signed) := match cs with
        | '-' :: _ => (true, true)
        | '+' :: _ => (false, true)
        | _ => (false, false)
      let digits := (if signed then cs.drop 1 else cs).takeWhile Char.isDigit
      if digits.isEmpty then none
      else
        let value : Int := Decimal.digitsValue digits
        some (some (if negative then -value else value),
          digits.length + (if signed then 2 else 1))
    else some (none, 0)
  | [] => some (none, 0)

/-- The number at the start of a text, with the number of its characters. A number has no leading
zeros. -/
def at? (cs : List Char) : Option (Numeral × Nat) := do
  let (negative, start) := match cs with
    | '-' :: _ => (true, 1)
    | _ => (false, 0)
  let rest := cs.drop start
  let whole := rest.takeWhile Char.isDigit
  guard (!whole.isEmpty && (whole.length == 1 || whole.head? != some '0'))
  let rest := rest.drop whole.length
  let (fraction, fractionSize) ← fraction? rest
  let (exponent, exponentSize) ← exponent? (rest.drop fractionSize)
  return ({ negative, whole, fraction, exponent },
    start + whole.length + fractionSize + exponentSize)

end Numeral

/-! ### Strings -/

/-- The value of a hexadecimal digit. -/
def hexValue? (c : Char) : Option Nat :=
  if c.isDigit then some (c.toNat - '0'.toNat)
  else if 'a' ≤ c ∧ c ≤ 'f' then some (c.toNat - 'a'.toNat + 10)
  else if 'A' ≤ c ∧ c ≤ 'F' then some (c.toNat - 'A'.toNat + 10)
  else none

/-- The value of four hexadecimal digits. -/
def hexUnit? (a b c d : Char) : Option Nat := do
  return (((← hexValue? a) * 16 + (← hexValue? b)) * 16 + (← hexValue? c)) * 16 + (← hexValue? d)

/-- A part of a string: a character, or one half of a surrogate pair. -/
inductive StringPart where
  | char (c : Char)
  | half (n : Nat)

/-- The part that an escape of four digits stands for. -/
def partOf (n : Nat) : StringPart :=
  if 0xD800 ≤ n ∧ n < 0xE000 then .half n else .char (Char.ofNat n)

/-- The character of a simple escape. -/
def simpleEscape? : Char → Option Char
  | '"' => some '"'
  | '\\' => some '\\'
  | '/' => some '/'
  | 'b' => some '\x08'
  | 'f' => some '\x0c'
  | 'n' => some '\n'
  | 'r' => some '\r'
  | 't' => some '\t'
  | _ => none

/-- The parts up to the closing quote, with the number of characters including the quote. -/
def parts? : List Char → Option (List StringPart × Nat)
  | [] => none
  | '"' :: _ => some ([], 1)
  | '\\' :: 'u' :: a :: b :: c :: d :: cs => do
    let unit ← hexUnit? a b c d
    let (parts, size) ← parts? cs
    return (partOf unit :: parts, size + 6)
  | '\\' :: e :: cs => do
    let c ← simpleEscape? e
    let (parts, size) ← parts? cs
    return (.char c :: parts, size + 2)
  | c :: cs =>
    if c.toNat < 0x20 || c == '\\' then none
    else do
      let (parts, size) ← parts? cs
      return (.char c :: parts, size + 1)

/-- The characters of a list of parts, in which each first half of a pair is followed by a second
half and no second half stands alone. -/
def joinHalves? : List StringPart → Option (List Char)
  | [] => some []
  | .char c :: ps => (joinHalves? ps).map (c :: ·)
  | .half n :: .half m :: ps =>
    if n < 0xDC00 ∧ 0xDC00 ≤ m then
      (joinHalves? ps).map (Char.ofNat (0x10000 + (n - 0xD800) * 0x400 + (m - 0xDC00)) :: ·)
    else none
  | .half _ :: _ => none

/-! ### Splitting -/

/-- The space between tokens. -/
def isSpace (c : Char) : Bool := c == ' ' || c == '\n' || c == '\t' || c == '\r'

/-- The token at the start of a text that does not start with a space, with the number of its
characters. -/
def Token.at (cs : List Char) : Token × Nat :=
  match cs with
  | '[' :: _ => (.openArray, 1)
  | ']' :: _ => (.closeArray, 1)
  | '\x7b' :: _ => (.openObject, 1)
  | '\x7d' :: _ => (.closeObject, 1)
  | ',' :: _ => (.comma, 1)
  | ':' :: _ => (.colon, 1)
  | '"' :: rest =>
    match parts? rest with
    | some (parts, size) => (.string ((joinHalves? parts).map String.ofList), size + 1)
    | none => (.bad, 1)
  | 'n' :: 'u' :: 'l' :: 'l' :: _ => (.null, 4)
  | 't' :: 'r' :: 'u' :: 'e' :: _ => (.bool true, 4)
  | 'f' :: 'a' :: 'l' :: 's' :: 'e' :: _ => (.bool false, 5)
  | cs =>
    match Numeral.at? cs with
    | some (n, size) => (.number n, size)
    | none => (.bad, 1)

/-- The tokens of a text whose first `skip` characters belong to a token already taken. -/
def tokensAfter : Nat → List Char → List Token
  | _, [] => []
  | skip + 1, _ :: cs => tokensAfter skip cs
  | 0, c :: cs =>
    if isSpace c then tokensAfter 0 cs
    else match Token.at (c :: cs) with
      | (.bad, _) => [.bad]
      | (token, size) => token :: tokensAfter (size - 1) cs

/-- The tokens of a text. -/
def tokens (s : String) : List Token := tokensAfter 0 s.toList

end Databook.Json
