import Databook.Yaml.Scalar
import Databook.Yaml.Quoted
import Databook.Yaml.Plain
import Databook.Yaml.Block
import Databook.Yaml.Tag

/-!
# YAML tokens

`Token.ofGlyphs?` cuts a text into tokens. In block style it is the indentation that opens and closes
collections, so the tokens say where that happens, and the rest can be read without looking at
columns.

A key needs no mark in front of it. It is recognised by the colon behind it, on the same line and at
most 1024 characters away; until then its start is a `Candidate`. Only one place of each open
collection in flow style can be a candidate, and one outside them.
-/

namespace Databook.Yaml

open Glyph

/-- A part of a YAML text. -/
inductive Token where
  | directive (d : Directive)
  | documentStart
  | documentEnd
  /-- A sequence or mapping in block style opens, or one of them closes. -/
  | blockSequence
  | blockMapping
  | blockEnd
  | flowSequence
  | flowSequenceEnd
  | flowMapping
  | flowMappingEnd
  | comma
  /-- The dash in front of an item. -/
  | item
  /-- A key follows. -/
  | key
  /-- A value follows. -/
  | value
  | alias (name : String)
  | anchor (name : String)
  | tag (name : TagName)
  | scalar (text : String) (style : Style)
deriving DecidableEq

/-- A place where a key may start. -/
structure Candidate where
  /-- The number of tokens in front of it. -/
  position : Nat
  start : Glyph
  /-- Has it to be a key, because of where it stands? -/
  isRequired : Bool

/-- The candidate can no longer be a key at a place this far behind it. -/
def Candidate.isPast (c : Candidate) (g : Glyph) : Bool :=
  c.start.line < g.line || c.start.index + 1024 < g.index

/-- What is known in the middle of a text. -/
structure Scan where
  tokens : Array Token
  /-- The columns of the open collections in block style, the innermost first. -/
  columns : List Nat
  /-- May a key start here, or an item of a sequence? -/
  keyAllowed : Bool
  candidate : Option Candidate
  /-- The candidates outside the open collections in flow style, the innermost first. -/
  outer : List (Option Candidate)

namespace Scan

/-- At the start of a text. -/
def start : Scan :=
  { tokens := #[], columns := [], keyAllowed := true, candidate := none, outer := [] }

def inFlow (s : Scan) : Bool := !s.outer.isEmpty

/-- The column of the innermost open collection in block style, or -1. -/
def column (s : Scan) : Int := (s.columns.head?.map Int.ofNat).getD (-1)

/-- A token more. -/
def push (s : Scan) (t : Token) : Scan := { s with tokens := s.tokens.push t }

/-- Whether a key may follow. -/
def allow (s : Scan) (keyAllowed : Bool) : Scan := { s with keyAllowed }

/-! ### Collections in block style -/

/-- Open a collection in block style in front of a token, if the column is deeper than the innermost
one. -/
def openBlock (s : Scan) (t : Token) (column position : Nat) : Scan :=
  if s.inFlow || column ≤ s.column then s
  else { s with columns := column :: s.columns, tokens := s.tokens.insertIdxIfInBounds position t }

/-- Close the collections in block style that are deeper than a column. -/
def closeBlocks (s : Scan) (column : Int) : Scan :=
  if s.inFlow then s
  else
    let isDeeper (c : Nat) : Bool := column < c
    { s with
      columns := s.columns.dropWhile isDeeper
      tokens := s.tokens ++ (s.columns.takeWhile isDeeper).map fun _ => Token.blockEnd }

/-! ### Keys without a mark -/

/-- Give up the candidate, unless it has to be a key. -/
def dropCandidate? (s : Scan) : Option Scan :=
  if s.candidate.any (·.isRequired) then none else some { s with candidate := none }

/-- Give up the candidates that are too far away. -/
def dropPast? (s : Scan) (g : Glyph) : Option Scan :=
  let past (c : Option Candidate) : Bool := c.any (·.isPast g)
  if (s.candidate :: s.outer).any fun c => past c && c.any (·.isRequired) then none
  else
    some { s with
      candidate := if past s.candidate then none else s.candidate
      outer := s.outer.map fun c => if past c then none else c }

/-- Remember the place as a candidate, if a key may start there. -/
def addCandidate? (s : Scan) (g : Glyph) : Option Scan :=
  if s.keyAllowed then
    (s.dropCandidate?).map fun s =>
      { s with candidate := some ⟨s.tokens.size, g, !s.inFlow && s.column == g.column⟩ }
  else some s

/-! ### Tokens -/

/-- The start of a document or its end, or a directive: whatever is open is closed. -/
def documentToken? (s : Scan) (t : Token) : Option Scan :=
  ((s.closeBlocks (-1)).dropCandidate?).map fun s => (s.allow false).push t

/-- The start of a collection in flow style. -/
def openFlow? (s : Scan) (t : Token) (g : Glyph) : Option Scan :=
  (s.addCandidate? g).map fun s =>
    let s := { s with outer := s.candidate :: s.outer, candidate := none }
    (s.allow true).push t

/-- The end of a collection in flow style. -/
def closeFlow? (s : Scan) (t : Token) : Option Scan :=
  (s.dropCandidate?).map fun s =>
    let s := match s.outer with
      | [] => s
      | candidate :: outer => { s with candidate, outer }
    (s.allow false).push t

/-- The dash in front of an item. -/
def item? (s : Scan) (g : Glyph) : Option Scan := do
  guard (s.inFlow || s.keyAllowed)
  let s ← (s.openBlock .blockSequence g.column s.tokens.size).dropCandidate?
  return (s.allow true).push .item

/-- The question mark in front of a key. -/
def key? (s : Scan) (g : Glyph) : Option Scan := do
  guard (s.inFlow || s.keyAllowed)
  let s ← (s.openBlock .blockMapping g.column s.tokens.size).dropCandidate?
  return (s.allow !s.inFlow).push .key

/-- The colon in front of a value. If there is a candidate it is a key. -/
def value? (s : Scan) (g : Glyph) : Option Scan :=
  match s.candidate with
  | some c =>
    let s := { s with tokens := s.tokens.insertIdxIfInBounds c.position .key, candidate := none }
    some (((s.openBlock .blockMapping c.start.column c.position).allow false).push .value)
  | none =>
    if s.inFlow || s.keyAllowed then
      some (((s.openBlock .blockMapping g.column s.tokens.size).allow !s.inFlow).push .value)
    else none

/-- A token that a key may start with. -/
def nodeToken? (s : Scan) (g : Glyph) (t : Token) : Option Scan :=
  (s.addCandidate? g).map fun s => (s.allow false).push t

end Scan

/-! ### Reading -/

/-- The name of an anchor or alias. -/
def anchorName? (gs : List Glyph) : Option (String × List Glyph) :=
  let (name, gs) := takeName gs
  let mayFollow (g : Glyph) : Bool := ['?', ':', ',', ']', '\x7d', '%', '@', '\x60'].contains g.char
  if name.isEmpty || !(startsWithGap gs || gs.head?.any mayFollow) then none else some (name, gs)

/-- Go to the next token. A line break outside flow style allows a key. -/
def skipGaps (s : Scan) (inComment : Bool) : List Glyph → Scan × List Glyph
  | [] => (s, [])
  | g :: gs =>
    if isBreak g.char then skipGaps (s.allow (s.keyAllowed || !s.inFlow)) false gs
    else if inComment then skipGaps s true gs
    else if g.char == '#' then skipGaps s true gs
    else if g.char == ' ' || (g.char == '\t' && (s.inFlow || !s.keyAllowed)) ||
        (g.char == byteOrderMark && g.column == 0) then skipGaps s false gs
    else (s, g :: gs)

/-- A part of a text read, for a token that is made of it. -/
def Scan.withText? (s : Scan) (g : Glyph) (style : Style) (r : Option (List Char × List Glyph)) :
    Option (Scan × List Glyph) := do
  let (text, gs) ← r
  return (← s.nodeToken? g (.scalar (String.ofList text) style), gs)

/-- The token that starts with a glyph, and the glyphs behind it. -/
def Scan.next? (s : Scan) (g : Glyph) (gs : List Glyph) : Option (Scan × List Glyph) := do
  let beforeGap := startsWithGap gs
  if g.column == 0 && g.char == '%' then
    let (directive, gs) ← directive? gs
    return (← s.documentToken? (.directive directive), gs)
  if startsWithMark (g :: gs) then
    return (← s.documentToken? (if g.char == '-' then .documentStart else .documentEnd), gs.drop 2)
  match g.char with
  | '[' => return (← s.openFlow? .flowSequence g, gs)
  | '\x7b' => return (← s.openFlow? .flowMapping g, gs)
  | ']' => return (← s.closeFlow? .flowSequenceEnd, gs)
  | '\x7d' => return (← s.closeFlow? .flowMappingEnd, gs)
  | ',' => return (((← s.dropCandidate?).allow true).push .comma, gs)
  | '*' =>
    let (name, gs) ← anchorName? gs
    return (← s.nodeToken? g (.alias name), gs)
  | '&' =>
    let (name, gs) ← anchorName? gs
    return (← s.nodeToken? g (.anchor name), gs)
  | '!' =>
    let (name, gs) ← tagName? gs
    guard (startsWithGap gs || (s.inFlow && startsWith ',' gs))
    return (← s.nodeToken? g (.tag name), gs)
  | '\x27' => s.withText? g .single (singleQuoted? .none gs)
  | '"' => s.withText? g .double (doubleQuoted? .none gs)
  | c =>
    if c == '-' && beforeGap then return (← s.item? g, gs)
    else if c == '?' && (s.inFlow || beforeGap) then return (← s.key? g, gs)
    else if c == ':' && (s.inFlow || beforeGap) then return (← s.value? g, gs)
    else if (c == '|' || c == '>') && !s.inFlow then
      let (text, gs) ← block? (c == '>') s.column gs
      let style := if c == '>' then Style.folded else Style.literal
      return (((← s.dropCandidate?).allow true).push (.scalar (String.ofList text) style), gs)
    else
      guard (startsPlain s.inFlow (g :: gs))
      let (text, crossesLine, gs) ← plain? s.inFlow (s.column + 1) .none (g :: gs)
      let s ← s.nodeToken? g (.scalar (String.ofList text) .plain)
      return (s.allow crossesLine, gs)

/-- The tokens of a text. Each needs a glyph, so `fuel` need not be more than the glyphs. -/
def Scan.finish? : Nat → Scan → List Glyph → Option (List Token)
  | fuel, s, gs =>
    match fuel, skipGaps s false gs with
    | _, (s, []) => ((s.closeBlocks (-1)).dropCandidate?).map (·.tokens.toList)
    | 0, _ => none
    | fuel + 1, (s, g :: gs) => do
      let s ← s.dropPast? g
      let (s, gs) ← (s.closeBlocks g.column).next? g gs
      Scan.finish? fuel s gs

/-- The tokens of a text. -/
def Token.ofGlyphs? (gs : List Glyph) : Option (List Token) := Scan.start.finish? gs.length gs

end Databook.Yaml
