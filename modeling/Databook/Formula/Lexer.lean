import Databook.Formula.Token
import Databook.Text.CharClass
import Databook.Decimal.Numeral

/-!
# Splitting formulas into tokens

`Token.at?` reads the token at the start of a text that does not start with a blank, together with
the number of characters that it takes up. `tokenize` repeats this over the whole text and leaves
blanks out; a token's position is the number of characters in front of it.
-/

namespace Databook.Formula

open Text

/-- Why no token can be read at a place. -/
inductive LexError where
  | invalidNumber (text : String)
  | unterminatedString
  | unterminatedName
  | unexpectedChar (c : Char)
deriving DecidableEq, Inhabited

def LexError.message : LexError → String
  | invalidNumber text => "Invalid number '" ++ text ++ "'"
  | unterminatedString => "Unterminated string"
  | unterminatedName => "Unterminated quoted identifier"
  | unexpectedChar c => "Unexpected character '" ++ c.toString ++ "'"

/-! ### Parts of tokens -/

/-- The characters that go on a number. -/
def isNumberPart (c : Char) : Bool := c.isDigit || c == '.'

/-- The character that stands for an escaped one. -/
def unescape : Char → Char
  | 'n' => '\n'
  | 't' => '\t'
  | 'r' => '\r'
  | c => c

/-- The characters of a string up to its closing quote, and the number of characters read, the quote
included. -/
def stringBody? (quote : Char) : List Char → Option (List Char × Nat)
  | [] => none
  | '\\' :: e :: cs => do
    let (body, size) ← stringBody? quote cs
    return (unescape e :: body, size + 2)
  | c :: cs =>
    if c == '\\' then none
    else if c == quote then some ([], 1)
    else do
      let (body, size) ← stringBody? quote cs
      return (c :: body, size + 1)

/-- The token that a word stands for. -/
def Token.ofWord (word : String) : Token :=
  match word with
  | "and" => .op .and
  | "or" => .op .or
  | "not" => .op .not
  | "true" => .bool true
  | "false" => .bool false
  | _ => .name word

/-- The operator of two characters at the start of a text. -/
def doubleOperator? : List Char → Option Operator
  | '=' :: '=' :: _ => some .eq
  | '!' :: '=' :: _ => some .ne
  | '<' :: '=' :: _ => some .le
  | '>' :: '=' :: _ => some .ge
  | '&' :: '&' :: _ => some .and
  | '|' :: '|' :: _ => some .or
  | _ => none

/-- The token of a single character. -/
def Token.ofChar? : Char → Option Token
  | '(' => some .openParen
  | ')' => some .closeParen
  | ',' => some .comma
  | '+' => some (.op .plus)
  | '-' => some (.op .minus)
  | '*' => some (.op .star)
  | '/' => some (.op .slash)
  | '%' => some (.op .percent)
  | '<' => some (.op .lt)
  | '>' => some (.op .gt)
  | '!' => some (.op .not)
  | _ => none

/-- Does a number start here: a digit, or a point and a digit? -/
def startsNumber : List Char → Bool
  | '.' :: d :: _ => d.isDigit
  | c :: _ => c.isDigit
  | [] => false

/-- The token at the start of the text `c :: cs`, where `c` is no blank, and its length. -/
def Token.at? (c : Char) (cs : List Char) : Except LexError (Token × Nat) :=
  if startsNumber (c :: cs) then
    let text := (c :: cs).takeWhile isNumberPart
    match Decimal.readFloat? (String.ofList text) with
    | some x => .ok (.number x, text.length)
    | none => .error (.invalidNumber (String.ofList text))
  else if c == '"' || c == '\x27' then
    match stringBody? c cs with
    | some (body, size) => .ok (.string (String.ofList body), size + 1)
    | none => .error .unterminatedString
  else if c == '\x60' then
    let body := cs.takeWhile (· != '\x60')
    if body.length < cs.length then .ok (.quotedName (String.ofList body), body.length + 2)
    else .error .unterminatedName
  else if isWordStart c then
    let word := (c :: cs).takeWhile isWordPart
    .ok (Token.ofWord (String.ofList word), word.length)
  else
    match doubleOperator? (c :: cs) with
    | some o => .ok (.op o, 2)
    | none =>
      match Token.ofChar? c with
      | some t => .ok (t, 1)
      | none => .error (.unexpectedChar c)

/-- The tokens of a text that has `position` characters in front of it, and whose first `skip`
characters belong to a token already taken. -/
def tokensAfter (position : Nat) : Nat → List Char → Except (LexError × Nat) (List Placed)
  | _, [] => .ok []
  | skip + 1, _ :: cs => tokensAfter (position + 1) skip cs
  | 0, c :: cs =>
    if isBlank c then tokensAfter (position + 1) 0 cs
    else match Token.at? c cs with
      | .error e => .error (e, position)
      | .ok (t, size) => do
        let rest ← tokensAfter (position + 1) (size - 1) cs
        return ⟨t, position⟩ :: rest

/-- The tokens of a formula, or why and where they end. -/
def tokenize (input : String) : Except (LexError × Nat) (List Placed) :=
  tokensAfter 0 0 input.toList

end Databook.Formula
