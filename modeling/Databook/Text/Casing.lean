import Databook.Text.CharClass
import Databook.Text.Casing.Table

/-!
# Lower and upper case

`toLower` and `toUpper` map a whole text, by the full case mappings of Unicode: one character may
become several (`ß` to `SS`, `İ` to `i` and a dot above), and a capital sigma at the end of a word
becomes the final sigma.
-/

namespace Databook.Text

namespace Casing

/-- Move a code point by the first run that covers it. -/
def shiftBy (runs : List Run) (c : Char) : Char :=
  match runs.find? (·.covers c.toNat) with
  | some run => Char.ofNat (c.toNat + run.shift).toNat
  | none => c

/-- The lower case of one character, regardless of its neighbours. -/
def lowerChar (c : Char) : List Char :=
  if c.toNat < 0x80 then [c.toLower]
  else if c == 'İ' then ['i', '\u0307']
  else [shiftBy lowerRuns c]

/-- The upper case of one character. -/
def upperChar (c : Char) : List Char :=
  if c.toNat < 0x80 then [c.toUpper]
  else match upperSequences.lookup c.toNat with
    | some codes => codes.map Char.ofNat
    | none => [shiftBy upperRuns c]

/-- Is the first character that is not case-ignorable a cased one? -/
def nextIsCased (cs : List Char) : Bool :=
  match cs.dropWhile isCaseIgnorable with
  | c :: _ => isCased c
  | [] => false

/-- Lower case of the text `cs` that follows `before`, the latter in reverse order. A capital sigma
is final when a cased character comes before it and none after it. -/
def lowerAfter (before : List Char) : List Char → List Char
  | [] => []
  | c :: cs =>
    (if c == 'Σ' then
      [if nextIsCased before && !nextIsCased cs then 'ς' else 'σ']
    else lowerChar c) ++ lowerAfter (c :: before) cs

end Casing

/-- The lower case of a text. -/
def toLower (s : String) : String := String.ofList (Casing.lowerAfter [] s.toList)

/-- The upper case of a text. -/
def toUpper (s : String) : String := String.ofList (s.toList.flatMap Casing.upperChar)

end Databook.Text
