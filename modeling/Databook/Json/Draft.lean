import Databook.Json.Token

/-!
# Drafts

A text is read into a `Draft`: the tree of what it says, in the order in which it says it, up to
the place where it stops being JSON. An array or object that is open at that place is not `closed`,
and a value that is missing there is `broken`. So whoever goes through a draft in its order meets
what is wrong with the text at the moment at which a reader of the text would meet it, and a value
of the wrong kind in front of that place is noticed first.

`Draft.ofText` runs over the tokens with the open arrays and objects on a stack.
-/

namespace Databook.Json

/-- A JSON text as far as it could be read. -/
inductive Draft where
  | null
  | bool (b : Bool)
  | number (n : Numeral)
  /-- A string, or none if it holds half of a surrogate pair. -/
  | string (s : Option String)
  | array (items : List Draft) (closed : Bool)
  | object (fields : List (Option String × Draft)) (closed : Bool)
  | broken
deriving Inhabited

namespace Draft

/-- An array or object that is still open; what it holds so far is in reverse order. -/
inductive Open where
  | array (items : List Draft)
  | object (fields : List (Option String × Draft))

/-- What may come next. -/
inductive Next where
  /-- A value. -/
  | value
  /-- The first item of an array, or its end. -/
  | firstItem
  /-- The first name of an object, or its end. -/
  | firstName
  /-- A further name. -/
  | name
  /-- A colon after a name. -/
  | colon (field : Option String)
  /-- The value of a name. -/
  | fieldValue (field : Option String)
  /-- A comma, or the end of what is open. -/
  | comma
  /-- Nothing. -/
  | finish

/-- The state of reading: what is open, with the name that each open array or object will be the
value of, and what may come next. -/
structure Reader where
  opened : List (Open × Option (Option String))
  next : Next
  result : Draft

/-- The state before the first token. -/
def Reader.start : Reader := ⟨[], .value, .broken⟩

/-- The name that the value to come belongs to. -/
def Next.pending : Next → Option (Option String)
  | .fieldValue field => some field
  | _ => none

/-- Add a finished value to what is open. -/
def Reader.put (r : Reader) (pending : Option (Option String)) (d : Draft) : Reader :=
  match r.opened, pending with
  | (.array items, p) :: rest, _ => { r with opened := (.array (d :: items), p) :: rest, next := .comma }
  | (.object fields, p) :: rest, some name =>
    { r with opened := (.object ((name, d) :: fields), p) :: rest, next := .comma }
  | (.object fields, p) :: rest, none =>
    { r with opened := (.object fields, p) :: rest, next := .comma }
  | [], _ => ⟨[], .finish, d⟩

/-- Close the innermost array or object. -/
def Reader.close (r : Reader) : Reader :=
  match r.opened with
  | (.array items, p) :: rest => { r with opened := rest }.put p (.array items.reverse true)
  | (.object fields, p) :: rest => { r with opened := rest }.put p (.object fields.reverse true)
  | [] => r

/-- Start reading a value with one of its tokens; `none` if no value starts with it. -/
def Reader.value? (r : Reader) (t : Token) : Option Reader :=
  let pending := r.next.pending
  match t with
  | .null => some (r.put pending .null)
  | .bool b => some (r.put pending (.bool b))
  | .number n => some (r.put pending (.number n))
  | .string s => some (r.put pending (.string s))
  | .openArray => some { r with opened := (.array [], pending) :: r.opened, next := .firstItem }
  | .openObject => some { r with opened := (.object [], pending) :: r.opened, next := .firstName }
  | _ => none

/-- Read one token; `none` if it may not come next. -/
def Reader.step? (r : Reader) (t : Token) : Option Reader :=
  match r.next, t with
  | .firstItem, .closeArray => some r.close
  | .firstName, .closeObject => some r.close
  | .value, t | .firstItem, t | .fieldValue _, t => r.value? t
  | .firstName, .string s | .name, .string s => some { r with next := .colon s }
  | .colon field, .colon => some { r with next := .fieldValue field }
  | .comma, t =>
    match r.opened, t with
    | (.array _, _) :: _, .comma => some { r with next := .value }
    | (.object _, _) :: _, .comma => some { r with next := .name }
    | (.array _, _) :: _, .closeArray => some r.close
    | (.object _, _) :: _, .closeObject => some r.close
    | _, _ => none
  | _, _ => none

/-- Leave an array or object open in the value that it belongs to. -/
def abandonInto : List (Open × Option (Option String)) → Option (Option String) → Draft → Draft
  | [], _, d => d
  | (.array items, p) :: rest, _, d => abandonInto rest p (.array (d :: items).reverse false)
  | (.object fields, p) :: rest, pending, d =>
    let fields := match pending with
      | some name => (name, d) :: fields
      | none => fields
    abandonInto rest p (.object fields.reverse false)

/-- What has been read when reading stops too early. -/
def Reader.abandon (r : Reader) : Draft :=
  match r.next with
  | .colon field | .fieldValue field => abandonInto r.opened (some field) .broken
  | _ =>
    match r.opened with
    | (.array items, p) :: rest => abandonInto rest p (.array items.reverse false)
    | (.object fields, p) :: rest => abandonInto rest p (.object fields.reverse false)
    | [] => .broken

/-- Read all tokens: the draft, and whether a whole value was read and nothing follows it. -/
def Reader.run (r : Reader) : List Token → Draft × Bool
  | [] => match r.next with
    | .finish => (r.result, true)
    | _ => (r.abandon, false)
  | t :: ts => match r.next with
    | .finish => (r.result, false)
    | _ => match r.step? t with
      | some r => r.run ts
      | none => (r.abandon, false)

/-- The draft of a text, and whether the text is complete and ends with it. -/
def ofText (s : String) : Draft × Bool := Reader.start.run (tokens s)

end Draft

end Databook.Json
