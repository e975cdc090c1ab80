import Databook.Yaml.Token

/-!
# YAML nodes

A `Node` is what a YAML document says: a scalar, a sequence or a mapping. `Node.read?` reads the one
document of a text.

A node may be marked by an anchor, and an alias then stands for it in another place. `Node.follow?`
finds the node that an alias stands for.

The functions that read tokens carry fuel, which the number of tokens bounds.
-/

namespace Databook.Yaml

/-- What a YAML document says. -/
inductive Node where
  | scalar (text : String) (style : Style) (tag : Option String)
  | sequence (items : List Node)
  | mapping (entries : List (Node × Node))
  /-- The node that is marked with the number. -/
  | alias (number : Nat)
  | marked (number : Nat) (node : Node)
deriving Inhabited

namespace Node

/-- The node of a value that is left out. -/
def missing : Node := .scalar "" .plain none

/-! ### Aliases -/

mutual

/-- The last node that is marked with a number. -/
def find? (number : Nat) : Node → Option Node
  | .marked n node => (node.find? number).orElse fun _ => if n == number then some node else none
  | .sequence items => findInItems? number items
  | .mapping entries => findInPairs? number entries
  | .scalar .. | .alias _ => none

def findInItems? (number : Nat) : List Node → Option Node
  | [] => none
  | item :: items => (findInItems? number items).orElse fun _ => item.find? number

def findInPairs? (number : Nat) : List (Node × Node) → Option Node
  | [] => none
  | (key, value) :: entries =>
    (findInPairs? number entries).orElse fun _ => (value.find? number).orElse fun _ => key.find? number

end

/-- The node without its mark. -/
def content : Node → Node
  | .marked _ node => node
  | node => node

/-- The content of a node of a document; for an alias, the content of what it stands for. -/
def follow? (document : Node) (node : Node) : Option Node :=
  match node.content with
  | .alias number => (document.find? number).map content
  | node => some node

end Node

/-! ### Reading tokens -/

/-- What is known in front of the next token. -/
structure Cursor where
  tokens : List Token
  handles : TagHandles
  /-- The names of anchors, each once, with the number that it marks nodes with. -/
  anchors : List (String × Nat)

namespace Cursor

/-- Is the next token one of these? -/
def isNext (ts : List Token) (s : Cursor) : Bool := s.tokens.head?.any ts.contains

def skip (s : Cursor) : Cursor := { s with tokens := s.tokens.drop 1 }

/-- Go on behind a token. -/
def expect? (t : Token) (s : Cursor) : Option Cursor :=
  if s.isNext [t] then some s.skip else none

/-- The number that a name marks the next node with: how many names there are. A name that is used
again gets a new number. -/
def mark (name : String) (s : Cursor) : Nat × Cursor :=
  let number := s.anchors.length
  (number, { s with anchors := (name, number) :: s.anchors.filter (·.1 != name) })

end Cursor

/-- What may stand in front of a node. -/
structure Properties where
  anchor : Option String
  tag : Option String

/-- An anchor, if there is one. -/
def takeAnchor (s : Cursor) : Option String × Cursor :=
  match s.tokens with
  | .anchor name :: tokens => (some name, { s with tokens })
  | _ => (none, s)

/-- A tag, if there is one. -/
def takeTag (s : Cursor) : Option TagName × Cursor :=
  match s.tokens with
  | .tag name :: tokens => (some name, { s with tokens })
  | _ => (none, s)

/-- The properties of a node, in any order. -/
def properties? (s : Cursor) : Option (Properties × Cursor) := do
  let (anchor, s) := takeAnchor s
  let (name, s) := takeTag s
  let (anchor, s) := if anchor.isSome then (anchor, s) else takeAnchor s
  let tag ← match name with
    | none => pure none
    | some name => (name.resolve? s.handles).map some
  return (⟨anchor, tag⟩, s)

/-- Where a node stands. -/
inductive Place where
  /-- In a collection in flow style. -/
  | flow
  /-- In block style. -/
  | block
  /-- In a mapping in block style, where items need not be indented. -/
  | entry
deriving DecidableEq

mutual

/-- The node at the next token. -/
def node? : Nat → Place → Cursor → Option (Node × Cursor)
  | 0, _, _ => none
  | fuel + 1, place, s =>
    match s.tokens with
    | .alias name :: tokens => do
      let number ← s.anchors.lookup name
      return (.alias number, { s with tokens })
    | _ => do
      let (properties, s) ← properties? s
      match properties.anchor with
      | none => content? fuel place properties s
      | some name =>
        let (number, s) := s.mark name
        let (node, s) ← content? fuel place properties s
        return (.marked number node, s)

/-- The node behind its properties. With properties it may be left out. -/
def content? : Nat → Place → Properties → Cursor → Option (Node × Cursor)
  | 0, _, _, _ => none
  | fuel + 1, place, properties, s =>
    let empty := if properties.anchor.isSome || properties.tag.isSome then
      some (Node.scalar "" .plain properties.tag, s) else none
    match s.tokens with
    | .scalar text style :: tokens =>
      some (.scalar text style (properties.tag.filter (· != plainTag)), { s with tokens })
    | .flowSequence :: _ =>
      (flowItems? fuel true s.skip).map fun (items, s) => (.sequence items, s)
    | .flowMapping :: _ =>
      (flowEntries? fuel true s.skip).map fun (entries, s) => (.mapping entries, s)
    | .blockSequence :: _ =>
      if place = .flow then empty
      else (blockItems? fuel s.skip).map fun (items, s) => (.sequence items, s)
    | .blockMapping :: _ =>
      if place = .flow then empty
      else (blockEntries? fuel s.skip).map fun (entries, s) => (.mapping entries, s)
    | .item :: _ =>
      if place = .entry then (entryItems? fuel s).map fun (items, s) => (.sequence items, s)
      else empty
    | _ => empty

/-- The node at the next token, unless it is one of `ends`: then the node has been left out. -/
def nodeUnless? : Nat → List Token → Place → Cursor → Option (Node × Cursor)
  | 0, _, _, _ => none
  | fuel + 1, ends, place, s => if s.isNext ends then some (.missing, s) else node? fuel place s

/-- The value of a key that has been read, which may be left out. -/
def valueUnless? : Nat → List Token → Place → Cursor → Option (Node × Cursor)
  | 0, _, _, _ => none
  | fuel + 1, ends, place, s =>
    if s.isNext [.value] then nodeUnless? fuel ends place s.skip else some (.missing, s)

/-- The items of a sequence in block style. -/
def blockItems? : Nat → Cursor → Option (List Node × Cursor)
  | 0, _ => none
  | fuel + 1, s =>
    if s.isNext [.item] then do
      let (item, s) ← nodeUnless? fuel [.item, .blockEnd] .block s.skip
      let (items, s) ← blockItems? fuel s
      return (item :: items, s)
    else (s.expect? .blockEnd).map fun s => ([], s)

/-- The items of a sequence that is the value of a key in the same column. -/
def entryItems? : Nat → Cursor → Option (List Node × Cursor)
  | 0, _ => none
  | fuel + 1, s =>
    if s.isNext [.item] then do
      let (item, s) ← nodeUnless? fuel [.item, .key, .value, .blockEnd] .block s.skip
      let (items, s) ← entryItems? fuel s
      return (item :: items, s)
    else some ([], s)

/-- The entries of a mapping in block style. -/
def blockEntries? : Nat → Cursor → Option (List (Node × Node) × Cursor)
  | 0, _ => none
  | fuel + 1, s =>
    if s.isNext [.key] then do
      let ends : List Token := [.key, .value, .blockEnd]
      let (key, s) ← nodeUnless? fuel ends .entry s.skip
      let (value, s) ← valueUnless? fuel ends .entry s
      let (entries, s) ← blockEntries? fuel s
      return ((key, value) :: entries, s)
    else (s.expect? .blockEnd).map fun s => ([], s)

/-- The items of a sequence in flow style, of which one may be a key with a value. If its key is left
out, so is the next token. -/
def flowItems? : Nat → Bool → Cursor → Option (List Node × Cursor)
  | 0, _, _ => none
  | fuel + 1, isFirst, s => do
    if s.isNext [.flowSequenceEnd] then return ([], s.skip)
    let s ← if isFirst then some s else s.expect? .comma
    if s.isNext [.flowSequenceEnd] then return ([], s.skip)
    let (item, s) ←
      if s.isNext [.key] then do
        let s := s.skip
        let (key, s) ←
          if s.isNext [.value, .comma, .flowSequenceEnd] then some (Node.missing, s.skip)
          else node? fuel .flow s
        let (value, s) ← valueUnless? fuel [.comma, .flowSequenceEnd] .flow s
        pure (Node.mapping [(key, value)], s)
      else node? fuel .flow s
    let (items, s) ← flowItems? fuel false s
    return (item :: items, s)

/-- The entries of a mapping in flow style. A key without a mark has no value. -/
def flowEntries? : Nat → Bool → Cursor → Option (List (Node × Node) × Cursor)
  | 0, _, _ => none
  | fuel + 1, isFirst, s => do
    if s.isNext [.flowMappingEnd] then return ([], s.skip)
    let s ← if isFirst then some s else s.expect? .comma
    if s.isNext [.flowMappingEnd] then return ([], s.skip)
    let (entry, s) ←
      if s.isNext [.key] then do
        let (key, s) ← nodeUnless? fuel [.value, .comma, .flowMappingEnd] .flow s.skip
        let (value, s) ← valueUnless? fuel [.comma, .flowMappingEnd] .flow s
        pure ((key, value), s)
      else (node? fuel .flow s).map fun (key, s) => ((key, Node.missing), s)
    let (entries, s) ← flowEntries? fuel false s
    return (entry :: entries, s)

end

/-! ### Documents -/

/-- The directives at the start. -/
def takeDirectives : List Token → List Directive × List Token
  | .directive d :: ts =>
    let (ds, ts) := takeDirectives ts
    (d :: ds, ts)
  | ts => ([], ts)

/-- The document that tokens are made of, and what follows it. Directives and a mark may stand in
front of it, and behind the mark it may be left out. -/
def documentOf? (ts : List Token) : Option (Node × List Token) :=
  let (directives, rest) := takeDirectives ts
  let fuel := 4 * ts.length + 4
  let ofTokens? (handles : TagHandles) (ts : List Token) : Option (Node × List Token) :=
    (node? fuel .block ⟨ts, handles, []⟩).map fun (node, s) => (node, s.tokens)
  match rest with
  | .documentStart :: ts => do
    let handles ← handlesOf? false [] directives
    match ts with
    | [] | .directive _ :: _ | .documentStart :: _ | .documentEnd :: _ => return (.missing, ts)
    | ts => ofTokens? (handles ++ .standard) ts
  | ts =>
    if !directives.isEmpty then none
    else if ts.isEmpty then some (.missing, [])
    else ofTokens? .standard ts

/-- The document of a text that has one and no more; an empty text counts as one. -/
def Node.read? (s : String) : Option Node := do
  let glyphs ← Glyph.ofString? s
  let tokens ← Token.ofGlyphs? glyphs
  let (node, rest) ← documentOf? tokens
  guard (rest.dropWhile (· == .documentEnd)).isEmpty
  return node

end Databook.Yaml
