import Databook.Yaml.CharClass

/-!
# Glyphs

A `Glyph` is a character of a text with its place. Most of YAML depends on where things stand, so all
reading is done on lists of glyphs. A line break of one or two characters is one glyph, and each of
them but the two separators of Unicode is a line feed.

The functions that read a part of a text return what they have read and the glyphs behind it.
-/

namespace Databook.Yaml

/-- A character at its place: line and column, and the number of characters before it. -/
structure Glyph where
  char : Char
  line : Nat
  column : Nat
  index : Nat

namespace Glyph

/-- The glyphs of a text that starts at a place. -/
def layOut (line column index : Nat) : List Char → List Glyph
  | [] => []
  | '\r' :: '\n' :: cs => ⟨'\n', line, column, index⟩ :: layOut (line + 1) 0 (index + 2) cs
  | c :: cs =>
    if c == '\u2028' || c == '\u2029' then
      ⟨c, line, column, index⟩ :: layOut (line + 1) 0 (index + 1) cs
    else if isBreak c then ⟨'\n', line, column, index⟩ :: layOut (line + 1) 0 (index + 1) cs
    else ⟨c, line, column, index⟩ :: layOut line (column + 1) (index + 1) cs

/-- The mark of the byte order, which may stand in front of a text. -/
def byteOrderMark : Char := '\ufeff'

/-- The glyphs of a text, if all its characters are allowed. -/
def ofString? (s : String) : Option (List Glyph) :=
  let cs := match s.toList with
    | c :: cs => if c == byteOrderMark then cs else c :: cs
    | [] => []
  if cs.all isAllowed then some (layOut 0 0 0 cs) else none

/-- Does the first glyph have this character? -/
def startsWith (c : Char) (gs : List Glyph) : Bool := gs.head?.any (·.char == c)

/-- Is the first glyph a gap, or is there none? -/
def startsWithGap (gs : List Glyph) : Bool := isGap (gs.head?.map char)

/-- Is there a mark at the start of a line that starts or ends a document? -/
def startsWithMark (gs : List Glyph) : Bool :=
  let cs := (gs.take 3).map char
  gs.head?.any (·.column == 0) && (cs == ['-', '-', '-'] || cs == ['.', '.', '.']) &&
    startsWithGap (gs.drop 3)

/-- The name at the start, which may be empty. -/
def takeName (gs : List Glyph) : String × List Glyph :=
  (String.ofList ((gs.takeWhile (isNameChar ·.char)).map char), gs.dropWhile (isNameChar ·.char))

/-- The glyphs without the blanks at their start. -/
def skipBlanks (gs : List Glyph) : List Glyph := gs.dropWhile (isBlank ·.char)

/-- The next line, if the rest of this one is blank but for a comment. -/
def nextLine? (gs : List Glyph) : Option (List Glyph) :=
  let gs := skipBlanks gs
  let gs := if startsWith '#' gs then gs.dropWhile (!isBreak ·.char) else gs
  match gs with
  | [] => some []
  | g :: gs => if isBreak g.char then some gs else none

end Glyph

/-- What has been read, and the rest, when characters are put in front of the former. -/
def prepend (front : List Char) (r : Option (List Char × α)) : Option (List Char × α) :=
  r.map fun (text, rest) => (front ++ text, rest)

/-! ### Folding -/

/-- Blanks and breaks inside a scalar of which it is not known yet what they stand for, the last one
first; `escaped` if a break that stands for nothing is in front of them. -/
structure Pending where
  chars : List Char
  escaped : Bool

namespace Pending

def none : Pending := ⟨[], false⟩

/-- What follows an escaped break. -/
def escapedBreak : Pending := ⟨[], true⟩

/-- A blank or break more. -/
def add (p : Pending) (c : Char) : Pending := { p with chars := c :: p.chars }

def isEmpty (p : Pending) : Bool := p.chars.isEmpty && !p.escaped

def hasBreak (p : Pending) : Bool := p.chars.any isBreak

/-- What the blanks and breaks stand for. Blanks next to a break count for nothing; a single line
feed stands for a blank, and the first of several breaks for nothing if it is a line feed. -/
def text (p : Pending) : List Char :=
  let breaks := p.chars.reverse.filter isBreak
  if p.escaped then breaks
  else match breaks with
    | [] => p.chars.reverse
    | ['\n'] => [' ']
    | '\n' :: more => more
    | breaks => breaks

end Pending

end Databook.Yaml
