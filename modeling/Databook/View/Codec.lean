import Databook.View.Materialized
import Databook.Columns.BackLink

/-!
# The JSON form of results

How groups, links, materialized views and changes of links are written. Fields that have no value
are left out, and maps are written as objects in the order of their keys.
-/

namespace Databook

/-- The JSON form of a map of maps. -/
def Json.ofTable (toJson : α → Json) (m : IdMap (IdMap α)) : Json := .ofMap (.ofMap toJson) m

def RowGroup.toJson (g : RowGroup) : Json :=
  .object [("key", (g.key.map Json.string).getD .null), ("label", .string g.label),
    ("rowIds", .ofTexts g.rowIds)]

def LinkTarget.toJson (t : LinkTarget) : Json :=
  .object [("id", .string t.id), ("title", .string t.title)]

namespace Links

def valuesJson (l : Links) : Json := .ofTable .ofTexts l.values

def targetsJson (l : Links) : Json := .ofMap (.ofList LinkTarget.toJson) l.targets

end Links

def LinkChange.toJson (c : LinkChange) : Json :=
  .object [("added", .ofTexts c.added), ("removed", .ofTexts c.removed)]

def MaterializedView.toJson (v : MaterializedView) : Json :=
  let formulas := v.columns.formulas
  .object <| [("viewId", .string v.view.id), ("viewName", .string v.view.name),
      ("viewType", .string v.view.type.name), ("rowIds", .ofTexts v.rowIds)] ++
    Json.field? "groups" (.ofList RowGroup.toJson) v.groups ++
    [("formulaValues", .ofTable Cell.toJson formulas.values),
      ("formulaErrors", .ofTable (fun e => .string e.message) formulas.errors),
      ("relationValues", v.columns.links.valuesJson),
      ("relationTargets", v.columns.links.targetsJson),
      ("rollupValues", .ofTable Cell.toJson v.columns.rollups),
      ("summaries", .ofMap .string v.summaries),
      ("conditionalStyles", .ofTable CellStyle.toJson v.styles),
      ("config", v.view.settings.toJson)]

end Databook
