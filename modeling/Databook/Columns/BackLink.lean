import Databook.Pages.Cache

/-!
# Editing back relations

The links that a back relation shows are stored in the other document. `Document.relink` edits them
there: afterwards exactly the wanted rows name the given row. `Document.setBackLinks` does this for
a back relation of a document, with the other document as the store has it now; a cached copy of
that document is dropped.
-/

namespace Databook

open Calendar

/-- The rows of the other document that have been linked and unlinked. -/
structure LinkChange where
  added : List String
  removed : List String
deriving DecidableEq, Inhabited

/-- Has nothing changed? -/
def LinkChange.isEmpty (c : LinkChange) : Bool := c.added.isEmpty && c.removed.isEmpty

namespace Row

/-- Does the row name another one in a property? -/
def names (r : Row) (property row : String) : Bool := (r.cell property).ids.contains row

/-- Name a row in a property, or no longer, if it is not so already. -/
def relink (r : Row) (property row : String) (wanted : List String) (now : Instant) : Row :=
  let ids := (r.cell property).ids
  match r.names property row, wanted.contains r.id with
  | false, true => r.setCell property (.list (ids ++ [row])) now
  | true, false => r.setCell property (.list (ids.filter (· != row))) now
  | _, _ => r

end Row

namespace Document

/-- Have exactly the wanted rows name a row in a property. -/
def relink (d : Document) (property row : String) (wanted : List String) (now : Instant) :
    Document × LinkChange :=
  let linked := d.rows.filter fun r => !r.names property row && wanted.contains r.id
  let unlinked := d.rows.filter fun r => r.names property row && !wanted.contains r.id
  ({ d with rows := d.rows.map (·.relink property row wanted now) },
    ⟨linked.map (·.id), unlinked.map (·.id)⟩)

/-- The page and the forward relation in which the links of a back relation are stored. -/
def linkSource (d : Document) (property : String) : Except Error (String × String) :=
  match d.property? property with
  | none => .error (.propertyNotFound property)
  | some p =>
    match p.relation? with
    | some ⟨page, .back forward⟩ => .ok (page, forward)
    | _ => .error (.notABackRelation p.name)

/-- The document in which the links of a back relation are stored; it must have the relation. -/
def loadLinkSource [PageStore σ] (store : σ) (page forward : String) : Except Error Document :=
  match PageStore.load store page with
  | .error cause => .error (.targetUnavailable page cause)
  | .ok target =>
    if (target.property? forward).any (·.relation?.isSome) then .ok target
    else .error (.forwardPropertyMissing page forward)

/-- Link a row by a back relation to exactly the wanted rows. The store changes only if links do. If
the store cannot save them, nothing changes, and the cache keeps its copy. -/
def setBackLinks [PageStore σ] (d : Document) (property row : String) (wanted : List String)
    (now : Instant) (store : σ) (cache : DocumentCache) :
    Except Error (LinkChange × σ × DocumentCache) := do
  let (page, forward) ← d.linkSource property
  if (d.row? row).isNone then throw (.rowNotFound row)
  let target ← loadLinkSource store page forward
  let (target, change) := target.relink forward row wanted now
  let store ← if change.isEmpty then pure store else PageStore.trySave store page target
  return (change, store, cache.invalidate page)

end Document

end Databook
