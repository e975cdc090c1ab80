import Databook.Document.Index
import Databook.Pages.Cache

/-!
# Links between documents

Forward relations store the ids of the rows that they link to. Back relations store nothing: a row
is linked to the rows of the other document whose forward relation names it. These are looked up in
an index of the other document, once for all rows (`Document.backLinks`).

`Document.links` gives the links of all relations of a document. It looks up the other documents in
`related`; a document that is not to be had has no rows to link to, and no back links.
`Document.resolveLinks` takes the other documents from a cache.
-/

namespace Databook

/-- A row that a relation can link to, with the title under which it is offered. -/
structure LinkTarget where
  id : String
  title : String
deriving DecidableEq, Inhabited

/-- The links of the relations of a document. -/
structure Links where
  /-- Property id, then row id: the rows that the row is linked to. -/
  values : IdMap (IdMap (List String))
  /-- Property id: the rows of the other document, in order. -/
  targets : IdMap (List LinkTarget)
deriving Inhabited

namespace Links

/-- The rows that a row is linked to by a property. -/
def linked (l : Links) (property row : String) : List String :=
  (((l.values.get? property).bind (·.get? row))).getD []

/-- The rows that a property can link to. -/
def offered (l : Links) (property : String) : List LinkTarget := (l.targets.get? property).getD []

/-- The links as values of columns. -/
def columns (l : Links) : ColumnValues := l.values.map fun rows => rows.map Cell.list

end Links

namespace Document

/-- The rows of a document as relations offer them, with the titles of the rows. -/
def linkTargets (d : Document) : List LinkTarget :=
  d.rows.map fun row =>
    ⟨row.id, (d.titleProperty?.map fun p => (row.cell p.id).display).getD ""⟩

/-- The links that the rows of a document store. -/
def forwardLinks (d : Document) (property : String) : IdMap (List String) :=
  .ofList (d.rows.map fun row => (row.id, (row.cell property).ids))

/-- The links to the rows of a document that the other document stores in a property. Of rows with one
id the first gets the links, and the last stands in the map. -/
def backLinks (d : Document) (other : Option Document) (property : String) : IdMap (List String) :=
  let index : RowIndex := match other with
    | some other => .ofRows (fun row => (row.cell property).ids) other.rows
    | none => .empty
  .ofList <| (index.handOut id (d.rows.map (·.id))).map fun (row, links?) => (row, links?.getD [])

/-- The links of a relation. -/
def linksOf (d : Document) (other : Option Document) (p : Property) (r : Relation) :
    IdMap (List String) :=
  match r.side with
  | .forward _ => d.forwardLinks p.id
  | .back property => d.backLinks other property

/-- The relations of a document with their properties. -/
def relations (d : Document) : List (Property × Relation) :=
  d.properties.filterMap fun p => p.relation?.map (p, ·)

/-- The pages that a document is related to. -/
def relatedPages (d : Document) : List String := d.relations.map (·.2.page)

/-- The links of all relations of a document. -/
def links (d : Document) (related : String → Option Document) : Links where
  values := .ofList <| d.relations.map fun (p, r) => (p.id, d.linksOf (related r.page) p r)
  targets := .ofList <| d.relations.map fun (p, r) =>
    (p.id, ((related r.page).map linkTargets).getD [])

/-- The links of all relations of a document, with the other documents from a cache. Those that are
not in it are loaded from the store. -/
def resolveLinks [PageStore σ] (d : Document) (store : σ) (cache : DocumentCache) :
    Links × DocumentCache :=
  let cache := cache.loadAll store d.relatedPages
  (d.links cache.find?, cache)

end Document

end Databook
