import Databook.Yaml.CharClass
import Databook.Yaml.Scalar
import Databook.Json.Text

/-!
# YAML text

`Json.yaml` writes a value as YAML in block style. Every field and item starts a line; the items of
a list stand below the name of its field without indentation, everything else is indented by two.

A text is written without quotes if it can be (`Style.of`). One that would be taken for another
value, or that starts like another part of YAML, has single quotes; one with characters that cannot
be shown has double quotes; one with line feeds is a block behind a bar. A name that is long or has
several lines is marked by a question mark.

The functions below give the rows of a value as they look when it stands at the left margin. Each row
ends with its line break, which is a line feed unless a text has brought another one along.
-/

namespace Databook.Yaml

open Json (hexDigit)

/-! ### Styles -/

/-- Is there a character with `p` right in front of one with `q`? -/
def hasPair (p q : Char → Bool) : List Char → Bool
  | c :: d :: cs => (p c && q d) || hasPair p q (d :: cs)
  | _ => false

/-- Would a text that starts with the character, in front of `next`, be no scalar? -/
def startsOther (c : Char) (next : Option Char) : Bool :=
  isIndicator c || (isLooseIndicator c && isGap next)

/-- Is there a colon in front of a gap, or a number sign behind one? -/
def hasInnerIndicator : Char → List Char → Bool
  | _, [] => false
  | before, c :: cs =>
    (c == ':' && isGap cs.head?) || (c == '#' && isGap (some before)) || hasInnerIndicator c cs

/-- Can the text stand without quotes, whatever it stands for? -/
def canBePlain (cs : List Char) : Bool :=
  match cs with
  | [] => false
  | c :: rest =>
    !(cs.any isBreak || startsOther c rest.head? || hasInnerIndicator c rest) &&
      !(c == ' ' || cs.getLast? == some ' ') &&
      !(['-', '-', '-'].isPrefixOf cs || ['.', '.', '.'].isPrefixOf cs)

/-- How a text is written. Blanks at the end of a line are kept by double quotes only, and so are
those at the start of a line unless it is one of a block. -/
def Style.of (s : String) : Style :=
  let cs := s.toList
  if !cs.all isPrintable || hasPair (· == ' ') isBreak cs then .double
  else if cs.contains '\n' then if cs.getLast? == some ' ' then .double else .literal
  else if !needsQuotes s && canBePlain cs then .plain
  else if hasPair isBreak (· == ' ') cs then .double
  else .single

/-! ### Texts -/

/-- `width` hexadecimal digits of a number. -/
def hexDigits (width n : Nat) : List Char :=
  (List.range width).reverse.map fun i => (hexDigit (n / 16 ^ i % 16)).toUpper

/-- A character in double quotes. -/
def escapeChar (c : Char) : List Char :=
  match c with
  | '"' => ['\\', '"']
  | '\\' => ['\\', '\\']
  | '\n' => ['\\', 'n']
  | '\x00' => ['\\', '0']
  | '\x07' => ['\\', 'a']
  | '\x08' => ['\\', 'b']
  | '\t' => ['\\', 't']
  | '\x0b' => ['\\', 'v']
  | '\x0c' => ['\\', 'f']
  | '\r' => ['\\', 'r']
  | '\x1b' => ['\\', 'e']
  | '\u0085' => ['\\', 'N']
  | '\u2028' => ['\\', 'L']
  | '\u2029' => ['\\', 'P']
  | c =>
    if isPrintable c then [c]
    else if c.toNat < 0x100 then '\\' :: 'x' :: hexDigits 2 c.toNat
    else '\\' :: 'u' :: hexDigits 4 c.toNat

/-- A text in double quotes. -/
def doubleQuoted (cs : List Char) : List Char := '"' :: cs.flatMap escapeChar ++ ['"']

/-- A text in single quotes. -/
def singleQuoted (cs : List Char) : List Char :=
  '\x27' :: cs.flatMap (fun c => if c == '\x27' then [c, c] else [c]) ++ ['\x27']

/-- The bar of a block with its marks: whether its first line starts with a gap, and how many line
breaks end it. -/
def blockHead (cs : List Char) : List Char :=
  let width := if cs.head?.any fun c => c == ' ' || isBreak c then ['2'] else []
  let ending := match cs.reverse with
    | [c] => if isBreak c then ['+'] else ['-']
    | c :: d :: _ => if !isBreak c then ['-'] else if isBreak d then ['+'] else []
    | [] => ['-']
  '|' :: width ++ ending

/-! ### Rows -/

/-- A line with its break. -/
abbrev Row := List Char

/-- A text cut behind each line break. The last row gets one if it has none. -/
def cutRows : List Char → List Row
  | [] => []
  | c :: cs =>
    if isBreak c then [c] :: cutRows cs
    else match cutRows cs with
      | [] => [[c, '\n']]
      | row :: rows => (c :: row) :: rows

/-- Rows moved to the right; empty ones stay empty. -/
def indent (rows : List Row) : List Row :=
  rows.map fun row => if row.all isBreak then row else ' ' :: ' ' :: row

/-- Rows moved to the right, with a mark in front of the first. -/
def marked (mark : List Char) : List Row → List Row
  | [] => []
  | row :: rows => (mark ++ row) :: indent rows

/-- The text in a style that is no block. -/
def quoted (style : Style) (cs : List Char) : List Char :=
  match style with
  | .single => singleQuoted cs
  | .double => doubleQuoted cs
  | .plain | .literal | .folded => cs

/-- The rows of a text that stands behind a mark. -/
def textRows (s : String) : List Row :=
  let cs := s.toList
  match Style.of s with
  | .literal => (blockHead cs ++ ['\n']) :: cutRows cs
  | style => cutRows (quoted style cs)

/-! ### Values -/

/-- The text of a number. -/
def numberText : Json.Number → String
  | .integer n => toString n
  | .double x => Decimal.Layout.yamlNumber.write x

/-- Can the text be the name of a field on its line? -/
def isSimpleName (s : String) : Bool := s.utf8ByteSize ≤ 128 && !s.toList.any isBreak

/-- How a value is placed behind the name of its field. -/
inductive Placement where
  /-- On the line of the name. -/
  | inline
  /-- Below the name, at the same indentation. -/
  | below
  /-- Below the name, indented. -/
  | indented

def placement : Json → Placement
  | .array (_ :: _) => .below
  | .object (_ :: _) => .indented
  | _ => .inline

/-- The rows of a field with the rows of its value. -/
def fieldRows (name : String) (placed : Placement) (value : List Row) : List Row :=
  if isSimpleName name then
    let name := quoted (.of name) name.toList ++ [':']
    match placed with
    | .inline => marked (name ++ [' ']) value
    | .below => (name ++ ['\n']) :: value
    | .indented => (name ++ ['\n']) :: indent value
  else marked ['?', ' '] (textRows name) ++ marked [':', ' '] value

mutual

/-- The rows of a value. -/
def rows : Json → List Row
  | .null => [['n', 'u', 'l', 'l', '\n']]
  | .bool b => cutRows (if b then "true" else "false").toList
  | .number n => cutRows (numberText n).toList
  | .string s => textRows s
  | .array items => if items.isEmpty then [['[', ']', '\n']] else itemRows items
  | .object fields => if fields.isEmpty then [['\x7b', '\x7d', '\n']] else fieldsRows fields

/-- The rows of the items of an array. -/
def itemRows : List Json → List Row
  | [] => []
  | item :: items => marked ['-', ' '] (rows item) ++ itemRows items

/-- The rows of the fields of an object. -/
def fieldsRows : List (String × Json) → List Row
  | [] => []
  | (name, value) :: fields =>
    fieldRows name (placement value) (rows value) ++ fieldsRows fields

end

end Databook.Yaml

namespace Databook

/-- The value as YAML text. -/
def Json.yaml (j : Json) : String :=
  let rows := match j with
    | .string s => Yaml.marked [] (Yaml.textRows s)
    | j => Yaml.rows j
  String.ofList rows.flatten

end Databook
