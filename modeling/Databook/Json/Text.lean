import Databook.Json.Basic
import Databook.Decimal.Layout

/-!
# JSON text

`Json.compact` writes a value without any space, `Json.pretty` with one field or item per line and
two blanks of indentation per level; empty arrays and objects stay on one line in both. Inside
strings only the quote, the backslash and the control characters are escaped.
-/

namespace Databook.Json

/-- One hexadecimal digit. -/
def hexDigit (n : Nat) : Char := Nat.digitChar n

/-- A character inside a string. -/
def escapeChar (c : Char) : List Char :=
  match c with
  | '"' => ['\\', '"']
  | '\\' => ['\\', '\\']
  | '\n' => ['\\', 'n']
  | '\r' => ['\\', 'r']
  | '\t' => ['\\', 't']
  | '\x08' => ['\\', 'b']
  | '\x0c' => ['\\', 'f']
  | c =>
    if c.toNat < 0x20 then
      ['\\', 'u', '0', '0', hexDigit (c.toNat / 16), hexDigit (c.toNat % 16)]
    else [c]

/-- A string with its quotes. -/
def quote (s : String) : List Char := '"' :: s.toList.flatMap escapeChar ++ ['"']

/-- The text of a number. -/
def Number.toChars : Number → List Char
  | .integer n => (if n < 0 then ['-'] else []) ++ Nat.toDigits 10 n.natAbs
  | .double x => (Decimal.Layout.jsonNumber.write x).toList

/-- A value that is neither an array nor an object. -/
def scalarChars : Json → List Char
  | .null => "null".toList
  | .bool b => (if b then "true" else "false").toList
  | .number n => n.toChars
  | .string s => quote s
  | .array _ => ['[', ']']
  | .object _ => ['\x7b', '\x7d']

mutual

/-- The value without spaces. -/
def compactChars : Json → List Char
  | .array items => '[' :: compactItems items ++ [']']
  | .object fields => '\x7b' :: compactFields fields ++ ['\x7d']
  | .null => scalarChars .null
  | .bool b => scalarChars (.bool b)
  | .number n => scalarChars (.number n)
  | .string s => scalarChars (.string s)

def compactItems : List Json → List Char
  | [] => []
  | [item] => compactChars item
  | item :: rest => compactChars item ++ ',' :: compactItems rest

def compactFields : List (String × Json) → List Char
  | [] => []
  | [(name, value)] => quote name ++ ':' :: compactChars value
  | (name, value) :: rest => quote name ++ ':' :: compactChars value ++ ',' :: compactFields rest

end

/-- The value as text without spaces. -/
def compact (j : Json) : String := String.ofList j.compactChars

/-- A new line with the indentation of a level. -/
def newLine (level : Nat) : List Char := '\n' :: List.replicate (2 * level) ' '

mutual

/-- The value over several lines, its first line being at some level. -/
def prettyChars (level : Nat) : Json → List Char
  | .array items =>
    if items.isEmpty then ['[', ']']
    else '[' :: newLine (level + 1) ++ prettyItems (level + 1) items ++ newLine level ++ [']']
  | .object fields =>
    if fields.isEmpty then ['\x7b', '\x7d']
    else '\x7b' :: newLine (level + 1) ++ prettyFields (level + 1) fields ++ newLine level ++ ['\x7d']
  | .null => scalarChars .null
  | .bool b => scalarChars (.bool b)
  | .number n => scalarChars (.number n)
  | .string s => scalarChars (.string s)

def prettyItems (level : Nat) : List Json → List Char
  | [] => []
  | [item] => prettyChars level item
  | item :: rest => prettyChars level item ++ ',' :: newLine level ++ prettyItems level rest

def prettyFields (level : Nat) : List (String × Json) → List Char
  | [] => []
  | [(name, value)] => quote name ++ ':' :: ' ' :: prettyChars level value
  | (name, value) :: rest =>
    quote name ++ ':' :: ' ' :: prettyChars level value ++ ',' :: newLine level ++
      prettyFields level rest

end

/-- The value as text over several lines. -/
def pretty (j : Json) : String := String.ofList (j.prettyChars 0)

end Databook.Json
