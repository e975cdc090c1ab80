import Databook.Text.CharClass

/-!
# Searching and trimming texts

Texts are searched as lists of characters. `contains` says that one text is found in another;
`replaceAll` replaces the occurrences found from the left, none overlapping another; `trim` removes
the blanks at both ends.
-/

namespace Databook.Text

/-- Does `needle` start at some position of the text? -/
def occursIn (needle : List Char) : List Char → Bool
  | [] => needle.isEmpty
  | c :: cs => needle.isPrefixOf (c :: cs) || occursIn needle cs

/-- Replace the occurrences of a text by `new`, from the left; the first `skip` characters belong
to an occurrence that has been replaced already. -/
def replaceFrom (old new : List Char) : Nat → List Char → List Char
  | _, [] => []
  | skip + 1, _ :: cs => replaceFrom old new skip cs
  | 0, c :: cs =>
    if old.isPrefixOf (c :: cs) then new ++ replaceFrom old new (old.length - 1) cs
    else c :: replaceFrom old new 0 cs

/-- Replace every occurrence of the non-empty text `old` by `new`. -/
def replaceAll (s old new : String) : String :=
  String.ofList (replaceFrom old.toList new.toList 0 s.toList)

/-- Is `needle` found in `hay`? -/
def contains (hay needle : String) : Bool := occursIn needle.toList hay.toList

/-- The text without the blanks at its start. -/
def trimStart (cs : List Char) : List Char := cs.dropWhile isBlank

/-- The text without the blanks at both ends. -/
def trim (s : String) : String :=
  String.ofList (trimStart (trimStart s.toList).reverse).reverse

/-- Is there nothing but blanks in the text? -/
def isAllBlank (s : String) : Bool := s.toList.all isBlank

/-- The first `n` bytes of the text, if it has that many and they end with a whole character. -/
def takeBytes? : Nat → List Char → Option (List Char)
  | 0, _ => some []
  | _ + 1, [] => none
  | n + 1, c :: cs =>
    if c.utf8Size ≤ n + 1 then (takeBytes? (n + 1 - c.utf8Size) cs).map (c :: ·) else none
termination_by _ cs => cs.length

/-- The first `n` bytes of the text where they are whole characters, and all of it otherwise. -/
def takeBytes (n : Nat) (s : String) : String :=
  match takeBytes? n s.toList with
  | some cs => String.ofList cs
  | none => s

/-- Split at the first occurrence of a character, which goes to neither part. -/
def splitAtChar? (c : Char) (s : String) : Option (String × String) :=
  match s.toList.span (· != c) with
  | (before, _ :: after) => some (String.ofList before, String.ofList after)
  | (_, []) => none

/-- The texts one after the other, `sep` between any two. -/
def join (sep : String) (parts : List String) : String := sep.intercalate parts

end Databook.Text
