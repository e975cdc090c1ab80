import Databook.Json.Token
import Databook.Yaml.Glyph

/-!
# YAML tags and directives

A tag tells what kind of value a node is. It is written as a handle and a suffix; `TagHandles` says
what the handles stand for, and directives in front of a document add to it.

Tags are read as octets: each octet that a tag has as an escape is one character of its text.
-/

namespace Databook.Yaml

open Glyph

/-! ### Octets -/

/-- How many octets follow the first one of a character. -/
def trailingOctets? (octet : Nat) : Option Nat :=
  if octet < 0x80 then some 0
  else if octet / 0x20 == 6 then some 1
  else if octet / 0x10 == 14 then some 2
  else if octet / 0x08 == 30 then some 3
  else none

/-- How many octets are missing when one has come and `missing` were. -/
def missingAfter? (missing octet : Nat) : Option Nat :=
  if missing == 0 then trailingOctets? octet
  else if octet / 0x40 == 2 then some (missing - 1)
  else none

/-- The characters of a tag at the start, where `missing` octets of a character are still to come. -/
def tagChars? (bracketed : Bool) (missing : Nat) : List Glyph → Option (List Char × List Glyph)
  | [] => if missing == 0 then some ([], []) else none
  | g :: gs =>
    if g.char == '%' then
      match gs with
      | a :: b :: gs => do
        let octet := 16 * (← Json.hexValue? a.char) + (← Json.hexValue? b.char)
        let missing ← missingAfter? missing octet
        prepend [Char.ofNat octet] (tagChars? bracketed missing gs)
      | _ => none
    else if missing != 0 then none
    else if isTagChar bracketed g.char then prepend [g.char] (tagChars? bracketed 0 gs)
    else some ([], g :: gs)

/-- Characters as a text, which a zero ends. -/
def textUpToZero (cs : List Char) : String := String.ofList (cs.takeWhile (· != '\x00'))

/-- A part of a tag that is not empty. -/
def tagText? (bracketed : Bool) (gs : List Glyph) : Option (String × List Glyph) := do
  let (cs, gs) ← tagChars? bracketed 0 gs
  guard !cs.isEmpty
  return (textUpToZero cs, gs)

/-! ### Tags -/

/-- A tag as it is written. Without a handle the suffix is all of it. -/
structure TagName where
  handle : String
  suffix : String
deriving DecidableEq

/-- The tag of a node that is what it looks like. -/
def plainTag : String := "!"

/-- The tag behind an exclamation mark. -/
def tagName? (gs : List Glyph) : Option (TagName × List Glyph) :=
  if startsWith '<' gs then do
    let (text, gs) ← tagText? true (gs.drop 1)
    guard (startsWith '>' gs)
    return (⟨"", text⟩, gs.drop 1)
  else
    let (name, gs) := takeName gs
    if startsWith '!' gs then do
      let (suffix, gs) ← tagText? false (gs.drop 1)
      return (⟨"!" ++ name ++ "!", suffix⟩, gs)
    else do
      let (cs, gs) ← tagChars? false 0 gs
      let suffix := name ++ textUpToZero cs
      return (if suffix.isEmpty then ⟨"", plainTag⟩ else ⟨"!", suffix⟩, gs)

/-- What the handles of tags stand for. -/
abbrev TagHandles := List (String × String)

/-- The handles that need no directive. -/
def TagHandles.standard : TagHandles := [("!", "!"), ("!!", "tag:yaml.org,2002:")]

/-- The whole tag, if its handle is known. -/
def TagName.resolve? (handles : TagHandles) (t : TagName) : Option String :=
  if t.handle.isEmpty then some t.suffix else (handles.lookup t.handle).map (· ++ t.suffix)

/-! ### Directives -/

/-- A line in front of a document: the version of YAML, or what a handle of tags stands for. -/
inductive Directive where
  | version (major minor : Nat)
  | tagHandle (handle meaning : String)
deriving DecidableEq

/-- A number of at most nine digits. -/
def versionPart? (gs : List Glyph) : Option (Nat × List Glyph) :=
  let digits := gs.takeWhile (·.char.isDigit)
  if digits.isEmpty || 9 < digits.length then none
  else some (digits.foldl (fun n g => 10 * n + (g.char.toNat - '0'.toNat)) 0,
    gs.dropWhile (·.char.isDigit))

/-- The version at the start. -/
def version? (gs : List Glyph) : Option (Directive × List Glyph) := do
  let (major, gs) ← versionPart? gs
  guard (startsWith '.' gs)
  let (minor, gs) ← versionPart? (gs.drop 1)
  return (.version major minor, gs)

/-- A handle and what it stands for. -/
def tagHandle? (gs : List Glyph) : Option (Directive × List Glyph) := do
  guard (startsWith '!' gs)
  let (name, gs) := takeName (gs.drop 1)
  let (handle, gs) ←
    if startsWith '!' gs then some ("!" ++ name ++ "!", gs.drop 1)
    else if name.isEmpty then some ("!", gs)
    else none
  guard (gs.head?.any (isBlank ·.char))
  let (meaning, gs) ← tagText? true (skipBlanks gs)
  guard (startsWithGap gs)
  return (.tagHandle handle meaning, gs)

/-- The directive behind a percent sign, and the next line. -/
def directive? (gs : List Glyph) : Option (Directive × List Glyph) := do
  let (name, gs) := takeName gs
  guard (startsWithGap gs)
  let (directive, gs) ←
    if name == "YAML" then version? (skipBlanks gs)
    else if name == "TAG" then tagHandle? (skipBlanks gs)
    else none
  return (directive, ← nextLine? gs)

/-- The handles that directives define. The version may be given once, as 1.1 or 1.2, and so may what
a handle stands for. -/
def handlesOf? (versioned : Bool) (handles : TagHandles) : List Directive → Option TagHandles
  | [] => some handles
  | .version major minor :: directives =>
    if versioned || major != 1 || (minor != 1 && minor != 2) then none
    else handlesOf? true handles directives
  | .tagHandle handle meaning :: directives =>
    if (handles.lookup handle).isSome then none
    else handlesOf? versioned (handles ++ [(handle, meaning)]) directives

end Databook.Yaml
