import Databook.Yaml.Glyph

/-!
# Plain YAML texts

`plain?` reads a scalar without quotes. It may have several lines, which are folded: outside flow
style it goes on as long as the lines are indented, and everywhere it ends at a colon in front of a
gap and at a comment.
-/

namespace Databook.Yaml

open Glyph

/-- Can a scalar without quotes start here? -/
def startsPlain (inFlow : Bool) : List Glyph → Bool
  | [] => false
  | g :: gs =>
    if g.char == '-' then !gs.head?.any (isBlank ·.char)
    else if isLooseIndicator g.char then !inFlow && !startsWithGap gs
    else !(isBlank g.char || isBreak g.char || isIndicator g.char)

/-- Does the scalar end in front of a glyph that is no gap? `p` are the gaps in front of it, and
`indent` is the least column that further lines start at. -/
def endsPlain (inFlow : Bool) (indent : Int) (p : Pending) : List Glyph → Bool
  | [] => true
  | g :: gs =>
    (g.char == ':' && startsWithGap gs) || (inFlow && isFlowMark g.char) ||
      (!p.isEmpty &&
        (g.char == '#' || startsWithMark (g :: gs) || (!inFlow && g.column < indent)))

/-- Is there a colon in front of a mark of flow style? -/
def startsColonMark : List Glyph → Bool
  | g :: next :: _ => g.char == ':' && (isFlowMark next.char || next.char == '?')
  | _ => false

/-- The scalar at the start, and whether there is a break between it and the rest. Tabs may not
indent a line of it, and a colon may not touch the marks of flow style. -/
def plain? (inFlow : Bool) (indent : Int) (p : Pending) :
    List Glyph → Option (List Char × Bool × List Glyph)
  | [] => some ([], p.hasBreak, [])
  | g :: gs =>
    if isBlank g.char then
      if p.hasBreak && g.char == '\t' && g.column < indent then none
      else plain? inFlow indent (p.add g.char) gs
    else if isBreak g.char then plain? inFlow indent (p.add g.char) gs
    else if endsPlain inFlow indent p (g :: gs) then some ([], p.hasBreak, g :: gs)
    else if inFlow && startsColonMark (g :: gs) then none
    else prepend (p.text ++ [g.char]) (plain? inFlow indent .none gs)

end Databook.Yaml
