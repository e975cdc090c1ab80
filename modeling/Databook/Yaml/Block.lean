import Databook.Yaml.Glyph

/-!
# YAML texts of several lines

A block is a scalar written as indented lines behind a bar or an angle bracket. `block?` reads what
follows that character: marks for the indentation and for the breaks at the end, and then the lines
that are indented enough. Behind an angle bracket the lines are folded.
-/

namespace Databook.Yaml

open Glyph

/-- What happens to the breaks at the end of a block: only the first is kept, none is, or all
are. -/
inductive Ending where
  | clip | strip | keep

/-- The marks in front of a block. -/
structure BlockMarks where
  /-- How much deeper the lines are indented than what the block belongs to, if that is given. -/
  width : Option Nat
  ending : Ending

/-- A mark for the breaks at the end, if there is one. -/
def takeEnding (gs : List Glyph) : Option Ending × List Glyph :=
  if startsWith '-' gs then (some .strip, gs.drop 1)
  else if startsWith '+' gs then (some .keep, gs.drop 1)
  else (none, gs)

/-- A mark for the indentation, if there is one; it may not be zero. -/
def takeWidth? : List Glyph → Option (Option Nat × List Glyph)
  | [] => some (none, [])
  | g :: gs =>
    if !g.char.isDigit then some (none, g :: gs)
    else if g.char == '0' then none
    else some (some (g.char.toNat - '0'.toNat), gs)

/-- The marks in front of a block, in any order. -/
def blockMarks? (gs : List Glyph) : Option (BlockMarks × List Glyph) := do
  let (ending, gs) := takeEnding gs
  let (width, gs) ← takeWidth? gs
  let (ending, gs) := match ending with
    | some ending => (ending, gs)
    | none =>
      let (ending, gs) := takeEnding gs
      (ending.getD .clip, gs)
  return (⟨width, ending⟩, gs)

/-- The largest number of blanks in front of the first line that is not empty or an empty one before
it, if it is more than `widest`. No tab may follow the blanks. -/
def widestIndent? (widest : Nat) : List Glyph → Option Nat
  | [] => some widest
  | g :: gs =>
    if g.char == ' ' then widestIndent? (max widest (g.column + 1)) gs
    else if isBreak g.char then widestIndent? widest gs
    else if g.char == '\t' then none
    else some widest

/-- The indentation of a block that belongs to something in column `parent`, which is -1 if there is
nothing that it belongs to. -/
def blockIndent? (parent : Int) (width : Option Nat) (gs : List Glyph) : Option Nat :=
  match width with
  | some width => some ((max parent 0).toNat + width)
  | none => (widestIndent? 0 gs).map fun widest => max widest (max (parent + 1).toNat 1)

/-- The lines with `indent` blanks in front, without these, and the empty lines between them.
`inLine` tells that the blanks have been read. -/
def blockLines? (indent : Nat) (inLine : Bool) : List Glyph → Option (List Char × List Glyph)
  | [] => some ([], [])
  | g :: gs =>
    if isBreak g.char then prepend [g.char] (blockLines? indent false gs)
    else if inLine || g.column == indent then prepend [g.char] (blockLines? indent true gs)
    else if g.char == ' ' then blockLines? indent false gs
    else if g.char == '\t' then none
    else some ([], g :: gs)

/-! ### Folding -/

/-- A line with the breaks behind it. -/
structure Passage where
  line : List Char
  breaks : List Char

/-- The passages of a text. Only the first can have an empty line, and only the last no breaks. -/
def passages : List Char → List Passage
  | [] => []
  | c :: cs =>
    match passages cs with
    | [] => [if isBreak c then ⟨[], [c]⟩ else ⟨[c], []⟩]
    | p :: ps =>
      if !isBreak c then ⟨c :: p.line, p.breaks⟩ :: ps
      else if p.line.isEmpty then ⟨[], c :: p.breaks⟩ :: ps
      else ⟨[], [c]⟩ :: p :: ps

namespace Passage

def startsWithBlank (p : Passage) : Bool := p.line.head?.any isBlank

/-- The breaks between a passage and the next one, folded. A line feed between two lines is a blank,
or nothing if empty lines follow, but lines that start with a blank are left alone. -/
def foldedBreaks (p next : Passage) : List Char :=
  if p.line.isEmpty || p.startsWithBlank || next.startsWithBlank then p.breaks
  else match p.breaks with
    | ['\n'] => [' ']
    | '\n' :: more => more
    | breaks => breaks

/-- The breaks that are left at the end. -/
def lastBreaks (p : Passage) : Ending → List Char
  | .strip => []
  | .clip => if p.line.isEmpty then [] else p.breaks.take 1
  | .keep => p.breaks

end Passage

/-- The text of passages. -/
def joinPassages (folded : Bool) (ending : Ending) : List Passage → List Char
  | [] => []
  | [p] => p.line ++ p.lastBreaks ending
  | p :: next :: ps =>
    p.line ++ (if folded then p.foldedBreaks next else p.breaks) ++
      joinPassages folded ending (next :: ps)

/-- The text of a block that belongs to something in column `parent`. -/
def block? (folded : Bool) (parent : Int) (gs : List Glyph) : Option (List Char × List Glyph) := do
  let (marks, gs) ← blockMarks? gs
  let gs ← nextLine? gs
  let indent ← blockIndent? parent marks.width gs
  let (text, gs) ← blockLines? indent false gs
  return (joinPassages folded marks.ending (passages text), gs)

end Databook.Yaml
