import Databook.Json.Token
import Databook.Yaml.Glyph

/-!
# Quoted YAML texts

`singleQuoted?` and `doubleQuoted?` read the text behind an opening quote, up to the quote that
closes it. Blanks and breaks are folded; the text may not contain a line that starts or ends a
document.
-/

namespace Databook.Yaml

open Glyph

/-- The text up to a single quote, which is written twice inside. -/
def singleQuoted? (p : Pending) : List Glyph → Option (List Char × List Glyph)
  | [] => none
  | g :: gs =>
    if isBlank g.char || isBreak g.char then singleQuoted? (p.add g.char) gs
    else if startsWithMark (g :: gs) then none
    else if g.char == '\x27' then
      match gs with
      | [] => some (p.text, [])
      | next :: rest =>
        if next.char == '\x27' then prepend (p.text ++ ['\x27']) (singleQuoted? .none rest)
        else some (p.text, next :: rest)
    else prepend (p.text ++ [g.char]) (singleQuoted? .none gs)

/-- The character of an escape of one letter. -/
def simpleEscape? : Char → Option Char
  | '0' => some '\x00'
  | 'a' => some '\x07'
  | 'b' => some '\x08'
  | 't' | '\t' => some '\t'
  | 'n' => some '\n'
  | 'v' => some '\x0b'
  | 'f' => some '\x0c'
  | 'r' => some '\r'
  | 'e' => some '\x1b'
  | ' ' => some ' '
  | '"' => some '"'
  | '/' => some '/'
  | '\\' => some '\\'
  | 'N' => some '\u0085'
  | '_' => some '\u00a0'
  | 'L' => some '\u2028'
  | 'P' => some '\u2029'
  | _ => none

/-- The character with a code given by hexadecimal digits. -/
def charOfHex? (digits : List Glyph) : Option Char := do
  let values ← digits.mapM (Json.hexValue? ·.char)
  let n := values.foldl (fun n v => 16 * n + v) 0
  if n.isValidChar then some (Char.ofNat n) else none

/-- The text up to a double quote, with escapes. -/
def doubleQuoted? (p : Pending) : List Glyph → Option (List Char × List Glyph)
  | [] => none
  | g :: gs =>
    if isBlank g.char || isBreak g.char then doubleQuoted? (p.add g.char) gs
    else if startsWithMark (g :: gs) then none
    else if g.char == '"' then some (p.text, gs)
    else if g.char != '\\' then prepend (p.text ++ [g.char]) (doubleQuoted? .none gs)
    else match gs with
      | [] => none
      | letter :: gs =>
        match letter.char, gs with
        | 'x', a :: b :: gs => do
          let c ← charOfHex? [a, b]
          prepend (p.text ++ [c]) (doubleQuoted? .none gs)
        | 'u', a :: b :: c :: d :: gs => do
          let c ← charOfHex? [a, b, c, d]
          prepend (p.text ++ [c]) (doubleQuoted? .none gs)
        | 'U', a :: b :: c :: d :: e :: f :: g :: h :: gs => do
          let c ← charOfHex? [a, b, c, d, e, f, g, h]
          prepend (p.text ++ [c]) (doubleQuoted? .none gs)
        | letter, gs =>
          if isBreak letter then prepend p.text (doubleQuoted? .escapedBreak gs)
          else do
            let c ← simpleEscape? letter
            prepend (p.text ++ [c]) (doubleQuoted? .none gs)

end Databook.Yaml
