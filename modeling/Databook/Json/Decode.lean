import Databook.Decimal.Power
import Databook.Json.Draft
import Databook.Json.Text

/-!
# Decoding drafts

A `Decoder` turns a draft into a value or says what is wrong with it. It goes through the draft in
its order, so of several faults the one that stands first in the text is reported; a field that is
missing altogether is reported at the end of its object.

A `Record` describes the fields of an object: `required`, `optional` and `nullable` are single
fields, and records are put together as applicative functors. A record is also read from an array
that holds its fields in order, except when unknown fields have to be kept (`Record.decodeExtra`).

Arrays and objects may be nested 127 levels deep; `room` counts the levels that are left.
-/

namespace Databook.Json

/-- What is wrong with a JSON text. -/
inductive Fault where
  /-- It is not JSON, or is cut short, or goes on after its value. -/
  | malformed
  /-- A value is of the wrong kind. -/
  | wrongKind
  | missingField (name : String)
  | duplicateField (name : String)
  | unknownVariant (given : String) (known : List String)
  /-- The fields are there but do not fit together. -/
  | refused (reason : String)
deriving BEq, DecidableEq

/-- The names of variants as an enumeration. -/
def Fault.variants (known : List String) : String :=
  let quoted := known.map fun name => "`" ++ name ++ "`"
  match quoted with
  | [a] => a
  | [a, b] => a ++ " or " ++ b
  | _ => "one of " ++ Text.join ", " quoted

/-- The explanation of a fault, for those that have one. -/
def Fault.explanation? : Fault → Option String
  | .malformed => none
  | .wrongKind => none
  | .missingField name => some ("missing field `" ++ name ++ "`")
  | .duplicateField name => some ("duplicate field `" ++ name ++ "`")
  | .unknownVariant given known =>
    some ("unknown variant `" ++ given ++ "`, expected " ++ Fault.variants known)
  | .refused reason => some reason

/-- A way to read a value from a draft, with room for so many levels of nesting less one. -/
abbrev Decoder (α : Type) := Nat → Draft → Except Fault α

/-- The room for nesting of a whole text. -/
def fullRoom : Nat := 128

namespace Decoder

/-- The fault of a draft that is not of the kind asked for. -/
def mismatch : Draft → Fault
  | .broken => .malformed
  | .number n => if n.value?.isSome then .wrongKind else .malformed
  | .string none => .malformed
  | _ => .wrongKind

/-- Go into an array or object. -/
def enter (room : Nat) : Except Fault Nat :=
  if 2 ≤ room then .ok (room - 1) else .error .malformed

/-- Leave an array or object. -/
def leave (closed : Bool) : Except Fault Unit :=
  if closed then .ok () else .error .malformed

mutual

/-- Go over a value that is not used: it only has to be well-formed. -/
def ignore : Draft → Except Fault Unit
  | .broken => .error .malformed
  | .array items closed => do ignoreItems items; leave closed
  | .object fields closed => do ignoreFields fields; leave closed
  | _ => .ok ()

def ignoreItems : List Draft → Except Fault Unit
  | [] => .ok ()
  | item :: rest => do ignore item; ignoreItems rest

def ignoreFields : List (Option String × Draft) → Except Fault Unit
  | [] => .ok ()
  | (_, value) :: rest => do ignore value; ignoreFields rest

end

/-- The text of a string. -/
def text? : Option String → Except Fault String
  | some s => .ok s
  | none => .error .malformed

mutual

/-- Any value. Of two fields with one name the later counts. -/
def any (room : Nat) : Draft → Except Fault Json
  | .null => .ok .null
  | .bool b => .ok (.bool b)
  | .number n => match n.value? with
    | some value => .ok (.number value)
    | none => .error .malformed
  | .string s => do return .string (← text? s)
  | .array items closed => do
    let room ← enter room
    let items ← anyItems room items
    leave closed
    return .array items
  | .object fields closed => do
    let room ← enter room
    let fields ← anyFields room fields
    leave closed
    return .ofFields fields
  | .broken => .error .malformed

def anyItems (room : Nat) : List Draft → Except Fault (List Json)
  | [] => .ok []
  | item :: rest => do return (← any room item) :: (← anyItems room rest)

def anyFields (room : Nat) : List (Option String × Draft) → Except Fault (List (String × Json))
  | [] => .ok []
  | (name, value) :: rest => do
    let name ← text? name
    let value ← any room value
    return (name, value) :: (← anyFields room rest)

end

def string : Decoder String
  | _, .string (some s) => .ok s
  | _, d => .error (mismatch d)

def bool : Decoder Bool
  | _, .bool b => .ok b
  | _, d => .error (mismatch d)

/-- A number, as a double. -/
def float : Decoder Float
  | _, .number n => match n.value? with
    | some value => .ok value.toFloat
    | none => .error .malformed
  | _, d => .error (mismatch d)

/-- A whole number of at most 32 bits. -/
def nat32 : Decoder Nat
  | _, .number n => match n.value? with
    | some (.integer i) => if 0 ≤ i ∧ i < 2 ^ 32 then .ok i.toNat else .error .wrongKind
    | some (.double _) => .error .wrongKind
    | none => .error .malformed
  | _, d => .error (mismatch d)

/-- A list of values. -/
def list (item : Decoder α) : Decoder (List α)
  | room, .array items closed => do
    let room ← enter room
    let values ← items.mapM (item room)
    leave closed
    return values
  | _, d => .error (mismatch d)

/-- A map from ids to values. -/
def map (value : Decoder α) : Decoder (IdMap α)
  | room, .object fields closed => do
    let room ← enter room
    let entries ← fields.mapM fun (name, d) => do return (← text? name, ← value room d)
    leave closed
    return .ofList entries
  | _, d => .error (mismatch d)

/-- A value, or null for no value. -/
def nullable (value : Decoder α) : Decoder (Option α)
  | _, .null => .ok none
  | room, d => do return some (← value room d)

/-- A value read by its name; also written as an object from that name to null. -/
def variant (known : List (String × α)) : Decoder α :=
  let pick (name : String) : Except Fault α :=
    match known.lookup name with
    | some value => .ok value
    | none => .error (.unknownVariant name (known.map (·.1)))
  fun room d => match d with
  | .string s => do pick (← text? s)
  | .object ((name, value) :: rest) closed => do
    let _ ← enter room
    let picked ← pick (← text? name)
    match value with
    | .null => if rest.isEmpty && closed then return picked else throw .malformed
    | d => throw (mismatch d)
  | _ => .error .malformed

/-- Decode a whole text. -/
def decode (d : Decoder α) (s : String) : Except Fault α := do
  let (draft, complete) := Draft.ofText s
  let value ← d fullRoom draft
  leave complete
  return value

end Decoder

/-- A JSON text as a value. -/
def parse (s : String) : Except Fault Json := Decoder.decode Decoder.any s

/-! ### Records -/

/-- The fields of an object, and how a value is made of them. -/
structure Record (α : Type) where
  /-- What is known of the fields while going through the object. -/
  State : Type
  start : State
  /-- Take in a field; `none` if the record has no field of that name. -/
  put : State → String → Nat → Draft → Option (Except Fault State)
  finish : State → Except Fault α
  /-- Read the fields from the items of an array, complete or not, in their order; the items left
  over follow. -/
  positional : Nat → Bool → List Draft → Except Fault (α × List Draft)

namespace Record

/-- The record without fields. -/
def pure (a : α) : Record α where
  State := PUnit
  start := ⟨⟩
  put _ _ _ _ := none
  finish _ := .ok a
  positional _ _ items := .ok (a, items)

def map (f : α → β) (r : Record α) : Record β :=
  { r with
    finish := fun s => (r.finish s).map f
    positional := fun room closed items =>
      (r.positional room closed items).map fun (a, rest) => (f a, rest) }

/-- The fields of both records. -/
def seq (r : Record (α → β)) (q : Record α) : Record β where
  State := r.State × q.State
  start := (r.start, q.start)
  put s name room d :=
    match r.put s.1 name room d with
    | some result => some (result.map fun s' => (s', s.2))
    | none => (q.put s.2 name room d).map fun result => result.map fun s' => (s.1, s')
  finish s := do return (← r.finish s.1) (← q.finish s.2)
  positional room closed items := do
    let (f, items) ← r.positional room closed items
    let (a, items) ← q.positional room closed items
    return (f a, items)

instance : Functor Record where
  map := map

instance : Applicative Record where
  pure := pure
  seq r q := seq r (q ())

/-- A single field, with what it is when it is missing. -/
def field (name : String) (value : Decoder α) (missing : Except Fault α) : Record α where
  State := Option α
  start := none
  put s given room d :=
    if given = name then
      some (if s.isSome then .error (.duplicateField name) else (value room d).map some)
    else none
  finish
    | some a => .ok a
    | none => missing
  positional room closed
    | [] => match closed, missing with
      | false, _ => .error .malformed
      | true, .ok a => .ok (a, [])
      | true, .error _ => .error .wrongKind
    | item :: rest => (value room item).map fun a => (a, rest)

/-- A field that has to be there. -/
def required (name : String) (value : Decoder α) : Record α :=
  field name value (.error (.missingField name))

/-- A field with a value to use when it is missing. -/
def optional (name : String) (value : Decoder α) (default : α) : Record α :=
  field name value (.ok default)

/-- A field that may be missing or null. -/
def nullable (name : String) (value : Decoder α) : Record (Option α) :=
  field name (Decoder.nullable value) (.ok none)

/-- Go through the fields of an object; those that the record does not have are given to `other`. -/
def collect (r : Record α) (other : Nat → Draft → Except Fault β) (room : Nat) :
    r.State → List (String × β) → List (Option String × Draft) →
      Except Fault (r.State × List (String × β))
  | s, kept, [] => .ok (s, kept.reverse)
  | s, kept, (name, d) :: rest => do
    let name ← Decoder.text? name
    match r.put s name room d with
    | some result => collect r other room (← result) kept rest
    | none => collect r other room s ((name, ← other room d) :: kept) rest

/-- The record as a decoder: fields that it does not have are passed over. -/
def decode (r : Record α) : Decoder α
  | room, .object fields closed => do
    let room ← Decoder.enter room
    let (s, _) ← r.collect (fun _ d => Decoder.ignore d) room r.start [] fields
    Decoder.leave closed
    r.finish s
  | room, .array items closed => do
    let room ← Decoder.enter room
    let (a, rest) ← r.positional room closed items
    Decoder.leave (closed && rest.isEmpty)
    return a
  | _, d => .error (Decoder.mismatch d)

/-- The record as a decoder that keeps the fields that it does not have. -/
def decodeExtra (r : Record α) : Decoder (α × IdMap Json)
  | room, .object fields closed => do
    let room ← Decoder.enter room
    let (s, extra) ← r.collect Decoder.any room r.start [] fields
    Decoder.leave closed
    return (← r.finish s, .ofList extra)
  | _, d => .error (Decoder.mismatch d)

end Record

end Databook.Json
