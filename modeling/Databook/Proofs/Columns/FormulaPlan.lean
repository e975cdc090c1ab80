import Databook.Columns.FormulaPlan
import Databook.Proofs.Graph.TopologicalOrder
import Databook.Proofs.IdMap
import Mathlib.Data.List.Perm.Subperm

/-!
# Which formula columns are evaluated

A plan divides the formula columns into those that are evaluated and those that fail. Main statement
(`ofProperties_outcome`): a column fails exactly if, following the columns that formulas use, it
comes to a formula that cannot be read or to one that uses itself over however many steps; all others
have a place in the order, each behind the columns that it uses.

The plan is made in two stages. `peel` takes circles out of the graph until the rest can be ordered;
`Peeled` says what it leaves, for whatever circles it happens to meet first. `stepsOf` then goes over
the order once and lets failures pass on; since the order puts used columns first, what it has found
out about them is final (`stepsOf_outcome`).
-/

namespace Databook.FormulaPlan

open DependencyGraph
open Formula (Expr)

variable {columns : List (Property × String)} {g : DependencyGraph}

/-! ### The graph of the formula columns -/

/-- A formula column whose text cannot be read, with its error. -/
def Unreadable (columns : List (Property × String)) (id : String) (error : Error) : Prop :=
  ∃ column ∈ columns, column.1.id = id ∧ readFormula column.2 = .error error

theorem nodes_graph (columns : List (Property × String)) :
    (graph columns).nodes = columns.map (·.1.id) := by
  simp [graph, nodes, Function.comp_def]

/-- A formula uses formula columns only. -/
theorem mem_columns_of_mem_usesOf {expression used : String} (h : used ∈ usesOf columns expression) :
    used ∈ columns.map (·.1.id) := by
  unfold usesOf at h
  split at h
  · obtain ⟨name, -, hname⟩ := List.mem_filterMap.1 h
    obtain ⟨column, hfind, rfl⟩ := Option.map_eq_some_iff.1 hname
    exact List.mem_map_of_mem (List.mem_of_find?_eq_some hfind)
  · cases h

theorem dependencies_graph (hids : (columns.map (·.1.id)).Nodup) {column : Property × String}
    (hmem : column ∈ columns) :
    (graph columns).dependencies column.1.id = usesOf columns column.2 := by
  have hkeys : ((graph columns).reverse.map (·.1)).Nodup := by
    rw [List.map_reverse, List.nodup_reverse]
    simpa [graph, Function.comp_def] using hids
  have hentry : (column.1.id, usesOf columns column.2) ∈ (graph columns).reverse := by
    rw [List.mem_reverse]
    exact List.mem_map.2 ⟨column, hmem, rfl⟩
  unfold dependencies
  rw [(IdMap.lookup_eq_some_iff hkeys).2 hentry, Option.getD_some]

/-- Of the columns, all that a formula uses count as nodes. -/
theorem dependsOn_graph (hids : (columns.map (·.1.id)).Nodup) {a b : String} :
    (graph columns).DependsOn a b ↔ b ∈ (graph columns).dependencies a := by
  refine ⟨fun h => h.2, fun h => ⟨?_, h⟩⟩
  have ha := mem_nodes_of_mem_dependencies h
  rw [nodes_graph, List.mem_map] at ha
  obtain ⟨column, hmem, rfl⟩ := ha
  rw [dependencies_graph hids hmem] at h
  rw [nodes_graph]
  exact mem_columns_of_mem_usesOf h

/-- The entries that some columns give have different ids. -/
theorem nodup_keys_filterMap (hids : (columns.map (·.1.id)).Nodup)
    {f : Property × String → Option (String × α)}
    (hf : ∀ column entry, f column = some entry → entry.1 = column.1.id) :
    ((columns.filterMap f).map (·.1)).Nodup := by
  refine List.pairwise_map.2 ((List.pairwise_map.1 hids).filterMap f ?_)
  intro column column' hne entry hentry entry' hentry' heq
  rw [hf _ _ hentry, hf _ _ hentry'] at heq
  exact hne heq

theorem get?_ofList_filterMap (hids : (columns.map (·.1.id)).Nodup)
    {f : Property × String → Option (String × α)}
    (hf : ∀ column entry, f column = some entry → entry.1 = column.1.id) {id : String} {value : α} :
    (IdMap.ofList (columns.filterMap f)).get? id = some value
      ↔ ∃ column ∈ columns, f column = some (id, value) := by
  have hkeys : ((columns.filterMap f).reverse.map (·.1)).Nodup := by
    rw [List.map_reverse, List.nodup_reverse]
    exact nodup_keys_filterMap hids hf
  rw [IdMap.get?_ofList, IdMap.lookup_eq_some_iff hkeys, List.mem_reverse, List.mem_filterMap]

theorem get?_unreadable (hids : (columns.map (·.1.id)).Nodup) {id : String} {error : Error} :
    (unreadable columns).get? id = some error ↔ Unreadable columns id error := by
  unfold unreadable Unreadable
  rw [get?_ofList_filterMap hids]
  · refine exists_congr fun column => and_congr_right fun _ => ?_
    cases readFormula column.2 <;> simp
  · intro column entry hentry
    split at hentry <;> cases hentry
    rfl

theorem get?_parsed (hids : (columns.map (·.1.id)).Nodup) {id : String} {expr : Option Expr} :
    (parsed columns).get? id = some expr
      ↔ ∃ column ∈ columns, column.1.id = id ∧ readFormula column.2 = .ok expr := by
  unfold parsed
  rw [get?_ofList_filterMap hids]
  · refine exists_congr fun column => and_congr_right fun _ => ?_
    cases readFormula column.2 <;> simp
  · intro column entry hentry
    split at hentry <;> cases hentry
    rfl

/-! ### Taking circles out -/

variable {circle circle' : List String} {a b : String}

theorem mem_nodes_without : a ∈ (without g circle).nodes ↔ a ∈ g.nodes ∧ a ∉ circle := by
  unfold without nodes
  simp only [List.mem_map, List.mem_filter, Bool.not_eq_true', List.contains_eq_mem,
    decide_eq_false_iff_not]
  constructor
  · rintro ⟨entry, ⟨hmem, hout⟩, rfl⟩
    exact ⟨⟨entry, hmem, rfl⟩, hout⟩
  · rintro ⟨⟨entry, hmem, rfl⟩, hout⟩
    exact ⟨entry, ⟨hmem, hout⟩, rfl⟩

theorem without_without :
    without (without g circle) circle' = without g (circle ++ circle') := by
  unfold without
  rw [List.filter_filter]
  congr 1
  funext entry
  simp [Bool.and_comm]

/-- Looking up what a test on the ids lets through. -/
theorem lookup_filter (p : String → Bool) (entries : List (String × α)) (id : String) :
    (entries.filter fun entry => p entry.1).lookup id = if p id then entries.lookup id else none := by
  induction entries with
  | nil => simp
  | cons entry rest ih =>
    obtain ⟨key, held⟩ := entry
    rw [List.filter_cons, IdMap.lookup_entry]
    by_cases hk : id = key
    · subst hk
      by_cases hp : p id = true
      · simp [hp]
      · simp [hp, ih]
    · by_cases hp : p key = true
      · simp [hp, IdMap.lookup_entry, hk, ih]
      · simp [hp, hk, ih]

theorem dependencies_without (ha : a ∉ circle) :
    (without g circle).dependencies a = g.dependencies a := by
  unfold dependencies without
  rw [← List.filter_reverse, lookup_filter (fun id => !circle.contains id)]
  simp [ha]

theorem dependsOn_without :
    (without g circle).DependsOn a b ↔ g.DependsOn a b ∧ a ∉ circle ∧ b ∉ circle := by
  constructor
  · intro h
    have ha := (mem_nodes_without.1 h.left_mem).2
    have hb := mem_nodes_without.1 h.1
    have hdep := h.2
    rw [dependencies_without ha] at hdep
    exact ⟨⟨hb.1, hdep⟩, ha, hb.2⟩
  · rintro ⟨h, ha, hb⟩
    refine ⟨mem_nodes_without.2 ⟨h.1, hb⟩, ?_⟩
    rw [dependencies_without ha]
    exact h.2

theorem isCircle_of_without (h : (without g circle).IsCircle circle') : g.IsCircle circle' := by
  obtain ⟨start, between, rfl, hchain⟩ := h
  exact ⟨start, between, rfl, hchain.imp fun _ _ hdep => (dependsOn_without.1 hdep).1⟩

/-- A circle has a node of the graph, so the graph without it is shorter. -/
theorem length_without_lt (h : g.IsCircle circle) : (without g circle).length < g.length := by
  obtain ⟨n, hn⟩ := h.exists_mem
  obtain ⟨entry, hentry, rfl⟩ := List.mem_map.1 (h.mem_nodes hn)
  unfold without
  refine List.length_filter_lt_length_iff_exists.2 ⟨entry, hentry, ?_⟩
  simp [hn]

theorem get?_foldl_insert_circle (error : Error) (failed : IdMap Error) (id : String) :
    (circle.foldl (fun failed id => failed.insert id error) failed).get? id
      = if id ∈ circle then some error else failed.get? id := by
  induction circle generalizing failed with
  | nil => simp
  | cons n rest ih =>
    rw [List.foldl_cons, ih, IdMap.get?_insert]
    by_cases hrest : id ∈ rest <;> by_cases hn : id = n <;> simp [hrest, hn]

/-- What is left when circles have been taken out: an order of the other nodes, and failures of the
nodes that were removed, all of a circle with this circle. -/
structure Peeled (columns : List (Property × String)) (g : DependencyGraph) (failed : IdMap Error)
    (order : List String) (failed' : IdMap Error) (removed : List String) : Prop where
  placed : (without g removed).Placed order
  complete : ∀ n, n ∈ order ↔ n ∈ g.nodes ∧ n ∉ removed
  circular : ∀ n ∈ removed, ∃ c, g.IsCircle c ∧ n ∈ c ∧
    ∀ m ∈ c, failed'.get? m = some (.circular (c.map (nameOf columns)))
  kept : ∀ n, n ∉ removed → failed'.get? n = failed.get? n

/-- A circle is taken out in front of all others. -/
theorem Peeled.ofWithout {failed failed' : IdMap Error} {order removed : List String}
    (hcircle : g.IsCircle circle)
    (h : Peeled columns (without g circle)
      (circle.foldl (fun failed id => failed.insert id (.circular (circle.map (nameOf columns)))) failed)
      order failed' removed) :
    Peeled columns g failed order failed' (circle ++ removed) where
  placed := by
    rw [← without_without]
    exact h.placed
  complete n := by
    rw [h.complete, mem_nodes_without, List.mem_append, and_assoc, not_or]
  circular n hn := by
    by_cases hr : n ∈ removed
    · obtain ⟨c, hc, hmem, hget⟩ := h.circular n hr
      exact ⟨c, isCircle_of_without hc, hmem, hget⟩
    · refine ⟨circle, hcircle, (List.mem_append.1 hn).resolve_right hr, fun m hm => ?_⟩
      -- what is removed later is on no circle that has been taken out
      have hm' : m ∉ removed := by
        intro hmem
        obtain ⟨c, hc, hon, -⟩ := h.circular m hmem
        exact (mem_nodes_without.1 (hc.mem_nodes hon)).2 hm
      rw [h.kept m hm', get?_foldl_insert_circle, if_pos hm]
  kept n hn := by
    rw [List.mem_append, not_or] at hn
    rw [h.kept n hn.2, get?_foldl_insert_circle, if_neg hn.1]

theorem exists_peeled (columns : List (Property × String)) (g : DependencyGraph)
    (failed : IdMap Error) :
    ∃ removed, Peeled columns g failed (peel columns g failed).1 (peel columns g failed).2 removed := by
  fun_induction peel columns g failed with
  | case1 g failed order hok =>
    obtain ⟨hplaced, hall⟩ := order_ok hok
    refine ⟨[], ⟨?_, fun n => by simp [hall], by simp, fun _ _ => rfl⟩⟩
    have hall : without g [] = g := by simp [without]
    rw [hall]
    exact hplaced
  | case2 g failed circle hcircle error failed' _ ih =>
    obtain ⟨removed, hpeeled⟩ := ih
    exact ⟨circle ++ removed, hpeeled.ofWithout (order_error hcircle)⟩
  | case3 g failed circle hcircle error failed' hlonger =>
    exact absurd (length_without_lt (order_error hcircle)) hlonger

/-! ### Passing failures on -/

/-- The step of a column in a plan. -/
def stepFor (g : DependencyGraph) (exprs : IdMap (Option Expr)) (id : String) : FormulaStep :=
  ⟨id, (exprs.get? id).getD none, g.dependencies id⟩

section StepsOf

variable {exprs : IdMap (Option Expr)} {id : String} {ids : List String} {steps : List FormulaStep}
  {failed : IdMap Error}

theorem stepsOf_of_failed (h : failed.contains id = true) :
    stepsOf g exprs (id :: ids) steps failed = stepsOf g exprs ids steps failed := by
  rw [stepsOf, if_pos h]

theorem stepsOf_of_failed_use {error : Error} (h : ¬ failed.contains id = true)
    (huses : (g.dependencies id).findSome? failed.get? = some error) :
    stepsOf g exprs (id :: ids) steps failed
      = stepsOf g exprs ids steps (failed.insert id error) := by
  rw [stepsOf, if_neg h]
  simp only [huses]

theorem stepsOf_of_step (h : ¬ failed.contains id = true)
    (huses : (g.dependencies id).findSome? failed.get? = none) :
    stepsOf g exprs (id :: ids) steps failed
      = stepsOf g exprs ids (stepFor g exprs id :: steps) failed := by
  rw [stepsOf, if_neg h]
  simp only [huses]
  rfl

end StepsOf

/-- What becomes of columns in their order: a column fails if it has failed before or if a column
that it uses fails, with the error of the first of these; the others become steps. -/
structure StepsOutcome (g : DependencyGraph) (exprs : IdMap (Option Expr)) (ids : List String)
    (steps : List FormulaStep) (failed : IdMap Error) (plan : FormulaPlan) : Prop where
  outside : ∀ n, n ∉ ids → plan.failed.get? n = failed.get? n
  kept : ∀ n e, failed.get? n = some e → plan.failed.get? n = some e
  passed : ∀ n ∈ ids, failed.get? n = none →
    plan.failed.get? n = (g.dependencies n).findSome? plan.failed.get?
  steps : plan.steps = steps.reverse ++
    (ids.filter fun n => !plan.failed.contains n).map (stepFor g exprs)

theorem findSome?_congr {f f' : α → Option β} {l : List α} (h : ∀ x ∈ l, f x = f' x) :
    l.findSome? f = l.findSome? f' := by
  induction l with
  | nil => rfl
  | cons x xs ih =>
    rw [List.findSome?_cons, List.findSome?_cons, h x List.mem_cons_self,
      ih fun y hy => h y (List.mem_cons_of_mem _ hy)]

theorem contains_eq_false_iff {m : IdMap α} {id : String} :
    m.contains id = false ↔ m.get? id = none := by
  unfold IdMap.contains
  exact Option.isSome_eq_false_iff.trans Option.isNone_iff_eq_none

section StepsOutcome

variable {exprs : IdMap (Option Expr)} {id : String} {ids : List String} {steps : List FormulaStep}
  {failed : IdMap Error} {plan : FormulaPlan}

/-- A column that has failed before has that failure in the end. -/
theorem StepsOutcome.of_failed (hfailed : failed.contains id = true)
    (h : StepsOutcome g exprs ids steps failed plan) :
    StepsOutcome g exprs (id :: ids) steps failed plan where
  outside n hn := h.outside n fun hm => hn (List.mem_cons_of_mem _ hm)
  kept := h.kept
  passed n hn hnone := by
    rcases List.mem_cons.1 hn with rfl | hn
    · rw [contains_eq_false_iff.2 hnone] at hfailed
      cases hfailed
    · exact h.passed n hn hnone
  steps := by
    obtain ⟨error, herror⟩ := IdMap.contains_iff.1 hfailed
    have hself := IdMap.contains_iff.2 ⟨error, h.kept id error herror⟩
    rw [List.filter_cons, if_neg (by simp [hself])]
    exact h.steps

/-- A column fails with the failure of a column that it uses. -/
theorem StepsOutcome.of_failed_use {error : Error} (hid : id ∉ ids)
    (hnone : failed.get? id = none) (hoff : ∀ m ∈ g.dependencies id, m ∉ id :: ids)
    (huses : (g.dependencies id).findSome? failed.get? = some error)
    (h : StepsOutcome g exprs ids steps (failed.insert id error) plan) :
    StepsOutcome g exprs (id :: ids) steps failed plan := by
  have houtside : ∀ n, n ∉ id :: ids → plan.failed.get? n = failed.get? n := by
    intro n hn
    rw [List.mem_cons, not_or] at hn
    rw [h.outside n hn.2, IdMap.get?_insert, if_neg hn.1]
  have hself : plan.failed.get? id = some error := h.kept id error (by simp [IdMap.get?_insert])
  refine ⟨houtside, fun n e he => h.kept n e ?_, fun n hn hnone' => ?_, ?_⟩
  · rw [IdMap.get?_insert, if_neg, he]
    rintro rfl
    rw [hnone] at he
    cases he
  · rcases List.mem_cons.1 hn with rfl | hn
    · rw [hself, ← huses]
      exact findSome?_congr fun m hm => (houtside m (hoff m hm)).symm
    · have hne : n ≠ id := fun heq => hid (heq ▸ hn)
      refine h.passed n hn ?_
      rw [IdMap.get?_insert, if_neg hne, hnone']
  · rw [List.filter_cons, if_neg (by simp [IdMap.contains_iff.2 ⟨error, hself⟩])]
    exact h.steps

/-- A column of which no used one has failed becomes a step. -/
theorem StepsOutcome.of_step (hid : id ∉ ids) (hnone : failed.get? id = none)
    (hoff : ∀ m ∈ g.dependencies id, m ∉ id :: ids)
    (huses : (g.dependencies id).findSome? failed.get? = none)
    (h : StepsOutcome g exprs ids (stepFor g exprs id :: steps) failed plan) :
    StepsOutcome g exprs (id :: ids) steps failed plan := by
  have houtside : ∀ n, n ∉ id :: ids → plan.failed.get? n = failed.get? n :=
    fun n hn => h.outside n fun hm => hn (List.mem_cons_of_mem _ hm)
  have hself : plan.failed.get? id = none := by rw [h.outside id hid, hnone]
  refine ⟨houtside, h.kept, fun n hn hnone' => ?_, ?_⟩
  · rcases List.mem_cons.1 hn with rfl | hn
    · rw [hself, ← huses]
      exact findSome?_congr fun m hm => (houtside m (hoff m hm)).symm
    · exact h.passed n hn hnone'
  · have hkeep : (!plan.failed.contains id) = true := by
      rw [contains_eq_false_iff.2 hself]
      rfl
    rw [h.steps, List.filter_cons, if_pos hkeep]
    simp

end StepsOutcome

/-- The order puts used columns first: that is what makes their failures final when they are
looked at. -/
theorem stepsOf_outcome (g : DependencyGraph) (exprs : IdMap (Option Expr)) (ids : List String)
    (steps : List FormulaStep) (failed : IdMap Error) (hnodup : ids.Nodup)
    (hfirst : ∀ before n after, ids = before ++ n :: after →
      ∀ m ∈ g.dependencies n, m ∈ ids → m ∈ before) :
    StepsOutcome g exprs ids steps failed (stepsOf g exprs ids steps failed) := by
  induction ids generalizing steps failed with
  | nil => exact ⟨fun _ _ => rfl, fun _ _ => id, by simp, by simp [stepsOf]⟩
  | cons id ids ih =>
    obtain ⟨hid, hnodup⟩ := List.nodup_cons.1 hnodup
    have hoff : ∀ m ∈ g.dependencies id, m ∉ id :: ids := by
      intro m hm hmem
      cases hfirst [] id ids rfl m hm hmem
    have hrest : ∀ before n after, ids = before ++ n :: after →
        ∀ m ∈ g.dependencies n, m ∈ ids → m ∈ before := by
      intro before n after hsplit m hm hmem
      have hb := hfirst (id :: before) n after (by rw [hsplit]; rfl) m hm (List.mem_cons_of_mem _ hmem)
      rcases List.mem_cons.1 hb with rfl | hb
      · exact absurd hmem hid
      · exact hb
    have ih := fun steps failed => ih steps failed hnodup hrest
    by_cases hfailed : failed.contains id = true
    · rw [stepsOf_of_failed hfailed]
      exact (ih _ _).of_failed hfailed
    have hnone : failed.get? id = none :=
      contains_eq_false_iff.1 (Bool.not_eq_true _ ▸ hfailed)
    cases huses : (g.dependencies id).findSome? failed.get? with
    | some error =>
      rw [stepsOf_of_failed_use hfailed huses]
      exact (ih _ _).of_failed_use hid hnone hoff huses
    | none =>
      rw [stepsOf_of_step hfailed huses]
      exact (ih _ _).of_step hid hnone hoff huses

/-! ### The plan -/

/-- Columns that can be put in order stay together. -/
theorem ofProperties_of_order {properties : List Property} {ids : List String}
    (hgraph : graph (formulas properties) = g) (horder : g.order = .ok ids) :
    ofProperties properties
      = stepsOf g (parsed (formulas properties)) ids [] (unreadable (formulas properties)) := by
  have hpeel : peel (formulas properties) g (unreadable (formulas properties))
      = (ids, unreadable (formulas properties)) := by
    rw [peel, horder]
  unfold ofProperties
  simp only [hgraph, hpeel]

/-- Both stages of a plan: what was taken out, and what became of the rest. -/
structure Planned (columns : List (Property × String)) (removed order : List String)
    (failed : IdMap Error) (plan : FormulaPlan) : Prop where
  ids : (columns.map (·.1.id)).Nodup
  peeled : Peeled columns (graph columns) (unreadable columns) order failed removed
  outcome : StepsOutcome (graph columns) (parsed columns) order [] failed plan

/-- What is different for all properties is different for all formula columns. -/
theorem nodup_formulas (key : Property → String) {properties : List Property}
    (h : (properties.map key).Nodup) : ((formulas properties).map fun column => key column.1).Nodup := by
  refine List.pairwise_map.2 ((List.pairwise_map.1 h).filterMap _ ?_)
  intro p p' hne column hcolumn column' hcolumn'
  obtain ⟨_, -, rfl⟩ := Option.map_eq_some_iff.1 hcolumn
  obtain ⟨_, -, rfl⟩ := Option.map_eq_some_iff.1 hcolumn'
  exact hne

theorem exists_planned {properties : List Property} (hids : (properties.map (·.id)).Nodup) :
    ∃ removed order failed,
      Planned (formulas properties) removed order failed (ofProperties properties) := by
  have hids := nodup_formulas (·.id) hids
  obtain ⟨removed, hpeeled⟩ :=
    exists_peeled (formulas properties) (graph (formulas properties)) (unreadable (formulas properties))
  refine ⟨removed, _, _, hids, hpeeled, stepsOf_outcome _ _ _ _ _ hpeeled.placed.nodup ?_⟩
  intro before n after hsplit m hm hmem
  have hn : n ∉ removed := ((hpeeled.complete n).1 (hsplit ▸ by simp)).2
  have hm' : m ∉ removed := ((hpeeled.complete m).1 hmem).2
  exact hpeeled.placed.behind before n after hsplit m
    (dependsOn_without.2 ⟨(dependsOn_graph hids).2 hm, hn, hm'⟩)

namespace Planned

variable {removed order : List String} {failed : IdMap Error} {plan : FormulaPlan} {n : String}

/-- A column that was taken out fails with a circle that it is on, and so do all on this circle. -/
theorem exists_circle_of_mem_removed (h : Planned columns removed order failed plan)
    (hn : n ∈ removed) :
    ∃ circle, (graph columns).IsCircle circle ∧ n ∈ circle ∧
      ∀ m ∈ circle, plan.failed.get? m = some (.circular (circle.map (nameOf columns))) := by
  obtain ⟨circle, hcircle, hmem, hget⟩ := h.peeled.circular n hn
  exact ⟨circle, hcircle, hmem, fun m hm => h.outcome.kept m _ (hget m hm)⟩

theorem get?_of_mem_removed (h : Planned columns removed order failed plan) (hn : n ∈ removed) :
    ∃ circle, (graph columns).IsCircle circle ∧ n ∈ circle ∧
      plan.failed.get? n = some (.circular (circle.map (nameOf columns))) := by
  obtain ⟨circle, hcircle, hmem, hget⟩ := h.exists_circle_of_mem_removed hn
  exact ⟨circle, hcircle, hmem, hget n hmem⟩

/-- A formula that cannot be read uses no column. -/
theorem dependencies_of_unreadable (h : Planned columns removed order failed plan) {error : Error}
    (hn : Unreadable columns n error) : (graph columns).dependencies n = [] := by
  obtain ⟨column, hcolumn, rfl, hread⟩ := hn
  rw [dependencies_graph h.ids hcolumn, usesOf, hread]

/-- So it is never taken out. -/
theorem notMem_removed_of_unreadable (h : Planned columns removed order failed plan) {error : Error}
    (hn : Unreadable columns n error) : n ∉ removed := by
  intro hmem
  obtain ⟨circle, hcircle, hon, -⟩ := h.peeled.circular n hmem
  obtain ⟨next, -, hnext⟩ := hcircle.exists_next hon
  have hdep := hnext.2
  rw [h.dependencies_of_unreadable hn] at hdep
  cases hdep

/-- A formula that cannot be read fails with its own error. -/
theorem get?_of_unreadable (h : Planned columns removed order failed plan) {error : Error}
    (hn : Unreadable columns n error) : plan.failed.get? n = some error := by
  refine h.outcome.kept n error ?_
  rw [h.peeled.kept n (h.notMem_removed_of_unreadable hn), (get?_unreadable h.ids).2 hn]

/-- A node that is neither taken out nor unreadable fails exactly as the columns that it uses. -/
theorem get?_of_mem_order (h : Planned columns removed order failed plan) (hn : n ∈ order)
    (hread : ∀ error, ¬ Unreadable columns n error) :
    plan.failed.get? n = ((graph columns).dependencies n).findSome? plan.failed.get? := by
  refine h.outcome.passed n hn ?_
  rw [h.peeled.kept n ((h.peeled.complete n).1 hn).2, Option.eq_none_iff_forall_ne_some]
  intro error herror
  exact hread error ((get?_unreadable h.ids).1 herror)

theorem mem_removed_or_order (h : Planned columns removed order failed plan)
    (hn : n ∈ (graph columns).nodes) : n ∈ removed ∨ n ∈ order := by
  by_cases hr : n ∈ removed
  · exact .inl hr
  · exact .inr ((h.peeled.complete n).2 ⟨hn, hr⟩)

/-- The three reasons for which a column fails. -/
theorem reasons_of_get? (h : Planned columns removed order failed plan) {error : Error}
    (hn : plan.failed.get? n = some error) :
    Unreadable columns n error ∨
      (∃ circle, (graph columns).IsCircle circle ∧ n ∈ circle ∧
        error = .circular (circle.map (nameOf columns))) ∨
      n ∈ order ∧ ∃ used ∈ (graph columns).dependencies n, plan.failed.get? used = some error := by
  by_cases hr : n ∈ removed
  · obtain ⟨circle, hcircle, hmem, hget⟩ := h.get?_of_mem_removed hr
    rw [hn, Option.some_inj] at hget
    exact .inr (.inl ⟨circle, hcircle, hmem, hget⟩)
  by_cases hread : ∃ e, Unreadable columns n e
  · obtain ⟨e, he⟩ := hread
    rw [h.get?_of_unreadable he, Option.some_inj] at hn
    exact .inl (hn ▸ he)
  have horder : n ∈ order := by
    by_contra hout
    rw [h.outcome.outside n hout, h.peeled.kept n hr] at hn
    exact hread ⟨error, (get?_unreadable h.ids).1 hn⟩
  rw [h.get?_of_mem_order horder fun e he => hread ⟨e, he⟩] at hn
  obtain ⟨used, hused, hget⟩ := List.exists_of_findSome?_eq_some hn
  exact .inr (.inr ⟨horder, used, hused, hget⟩)

/-- A column that can be read and fails uses a column that fails with the same error. -/
theorem exists_same_failure (h : Planned columns removed order failed plan) {error : Error}
    (hn : plan.failed.get? n = some error) (hread : ∀ e, ¬ Unreadable columns n e) :
    ∃ used ∈ (graph columns).dependencies n, plan.failed.get? used = some error := by
  by_cases hr : n ∈ removed
  · -- the next column on the circle has been taken out with it
    obtain ⟨circle, hcircle, hmem, hall⟩ := h.exists_circle_of_mem_removed hr
    obtain ⟨next, hnext, hdep⟩ := hcircle.exists_next hmem
    have hsame := hall n hmem
    rw [hn] at hsame
    exact ⟨next, hdep.2, (hall next hnext).trans hsame.symm⟩
  · rcases h.reasons_of_get? hn with hbad | ⟨circle, hcircle, hmem, -⟩ | ⟨-, hused⟩
    · exact absurd hbad (hread error)
    · have horder := (h.mem_removed_or_order (hcircle.mem_nodes hmem)).resolve_left hr
      rw [h.get?_of_mem_order horder hread] at hn
      exact List.exists_of_findSome?_eq_some hn
    · exact hused

/-- A failure passes on to the columns that use the failed one. -/
theorem contains_of_dependsOn (h : Planned columns removed order failed plan) {m : String}
    (hnm : (graph columns).DependsOn n m) (hm : plan.failed.contains m = true) :
    plan.failed.contains n = true := by
  rcases h.mem_removed_or_order hnm.left_mem with hr | horder
  · obtain ⟨_, -, -, hget⟩ := h.get?_of_mem_removed hr
    exact IdMap.contains_iff.2 ⟨_, hget⟩
  by_cases hread : ∃ error, Unreadable columns n error
  · obtain ⟨error, herror⟩ := hread
    exact IdMap.contains_iff.2 ⟨error, h.get?_of_unreadable herror⟩
  · unfold IdMap.contains
    rw [h.get?_of_mem_order horder fun e he => hread ⟨e, he⟩, List.findSome?_isSome_iff]
    exact ⟨m, hnm.2, hm⟩

theorem contains_of_reaches (h : Planned columns removed order failed plan) {m : String}
    (hnm : (graph columns).Reaches n m) (hm : plan.failed.contains m = true) :
    plan.failed.contains n = true := by
  induction hnm using Relation.ReflTransGen.head_induction_on with
  | refl => exact hm
  | head hstep _ ih => exact h.contains_of_dependsOn hstep ih

/-- A column that uses itself fails: otherwise nothing that it comes to fails, so all of that is in
the order, and no order holds a circle. -/
theorem contains_of_dependsVia_self (h : Planned columns removed order failed plan)
    (hn : (graph columns).DependsVia n n) : plan.failed.contains n = true := by
  by_contra hok
  have hkept : ∀ m, (graph columns).Reaches n m → m ∉ removed := by
    intro m hm hr
    obtain ⟨_, -, -, hget⟩ := h.get?_of_mem_removed hr
    exact hok (h.contains_of_reaches hm (IdMap.contains_iff.2 ⟨_, hget⟩))
  have hrest : (without (graph columns) removed).DependsVia n n := by
    have hlift : ∀ m, (graph columns).DependsVia n m →
        (without (graph columns) removed).DependsVia n m := by
      intro m hm
      induction hm with
      | single hstep =>
        exact .single (dependsOn_without.2 ⟨hstep, hkept _ .refl, hkept _ (.single hstep)⟩)
      | tail hvia hstep ih =>
        exact ih.tail (dependsOn_without.2
          ⟨hstep, hkept _ hvia.to_reflTransGen, hkept _ (hvia.to_reflTransGen.tail hstep)⟩)
    exact hlift n hn
  have horder : n ∈ order :=
    (h.peeled.complete n).2 ⟨DependsVia.left_mem hn, hkept n .refl⟩
  exact h.peeled.placed.not_dependsVia_self horder hrest

/-- A failed column comes to the cause of its failure. Along the order causes are found further and
further in front. -/
theorem exists_cause (h : Planned columns removed order failed plan)
    (hn : plan.failed.contains n = true) :
    ∃ cause, (graph columns).Reaches n cause ∧
      ((∃ error, Unreadable columns cause error) ∨ (graph columns).DependsVia cause cause) := by
  induction hplace : order.idxOf n using Nat.strongRecOn generalizing n with
  | _ place ih =>
    obtain ⟨error, herror⟩ := IdMap.contains_iff.1 hn
    rcases h.reasons_of_get? herror with hread | ⟨circle, hcircle, hmem, -⟩ | ⟨horder, m, hm, hget⟩
    · exact ⟨n, .refl, .inl ⟨error, hread⟩⟩
    · exact ⟨n, .refl, .inr (hcircle.dependsVia_self hmem)⟩
    have hdep := (dependsOn_graph h.ids).2 hm
    have hcontains := IdMap.contains_iff.2 ⟨error, hget⟩
    by_cases hr : m ∈ removed
    · obtain ⟨circle, hcircle, hmem, -⟩ := h.get?_of_mem_removed hr
      exact ⟨m, .single hdep, .inr (hcircle.dependsVia_self hmem)⟩
    · have hstep := dependsOn_without.2 ⟨hdep, ((h.peeled.complete n).1 horder).2, hr⟩
      have hlt := h.peeled.placed.idxOf_lt horder hstep
      obtain ⟨cause, hreaches, hcause⟩ := ih _ (hplace ▸ hlt) hcontains rfl
      exact ⟨cause, hreaches.head hdep, hcause⟩

theorem contains_iff (h : Planned columns removed order failed plan) :
    plan.failed.contains n = true ↔ ∃ cause, (graph columns).Reaches n cause ∧
      ((∃ error, Unreadable columns cause error) ∨ (graph columns).DependsVia cause cause) := by
  refine ⟨h.exists_cause, ?_⟩
  rintro ⟨cause, hreaches, ⟨error, herror⟩ | hself⟩
  · exact h.contains_of_reaches hreaches (IdMap.contains_iff.2 ⟨error, h.get?_of_unreadable herror⟩)
  · exact h.contains_of_reaches hreaches (h.contains_of_dependsVia_self hself)

theorem order_eq (h : Planned columns removed order failed plan) :
    plan.order = order.filter fun n => !plan.failed.contains n := by
  unfold FormulaPlan.order
  rw [h.outcome.steps, List.reverse_nil, List.nil_append, List.map_map]
  exact List.map_id _

theorem mem_order_iff (h : Planned columns removed order failed plan) :
    n ∈ plan.order ↔ n ∈ columns.map (·.1.id) ∧ plan.failed.contains n = false := by
  rw [h.order_eq, List.mem_filter, h.peeled.complete, nodes_graph, Bool.not_eq_true']
  constructor
  · rintro ⟨⟨hnode, -⟩, hok⟩
    exact ⟨hnode, hok⟩
  · rintro ⟨hnode, hok⟩
    refine ⟨⟨hnode, fun hr => ?_⟩, hok⟩
    obtain ⟨_, -, -, hget⟩ := h.get?_of_mem_removed hr
    rw [IdMap.contains_iff.2 ⟨_, hget⟩] at hok
    cases hok

theorem nodup_order (h : Planned columns removed order failed plan) : plan.order.Nodup := by
  rw [h.order_eq]
  exact h.peeled.placed.nodup.filter _

/-- Only formula columns fail. -/
theorem mem_columns_of_contains (h : Planned columns removed order failed plan)
    (hn : plan.failed.contains n = true) : n ∈ columns.map (·.1.id) := by
  obtain ⟨error, herror⟩ := IdMap.contains_iff.1 hn
  rcases h.reasons_of_get? herror with ⟨column, hmem, rfl, -⟩ | ⟨circle, hcircle, hmem, -⟩ | ⟨horder, -⟩
  · exact List.mem_map_of_mem hmem
  · rw [← nodes_graph]
    exact hcircle.mem_nodes hmem
  · rw [← nodes_graph]
    exact ((h.peeled.complete n).1 horder).1

/-- Every formula column is evaluated or fails, and none both. -/
theorem perm_columns (h : Planned columns removed order failed plan) :
    (plan.order ++ plan.failed.keys).Perm (columns.map (·.1.id)) := by
  refine (List.perm_ext_iff_of_nodup ?_ h.ids).2 fun n => ?_
  · refine List.nodup_append.2 ⟨h.nodup_order, plan.failed.nodup_keys, ?_⟩
    rintro n hn m hm rfl
    have hok := (h.mem_order_iff.1 hn).2
    rw [IdMap.mem_keys.1 hm] at hok
    cases hok
  · rw [List.mem_append, h.mem_order_iff, IdMap.mem_keys]
    constructor
    · rintro (⟨hn, -⟩ | hn)
      · exact hn
      · exact h.mem_columns_of_contains hn
    · intro hn
      cases hfailed : plan.failed.contains n with
      | true => exact .inr rfl
      | false => exact .inl ⟨hn, rfl⟩

/-- The columns that an evaluated one uses are evaluated before it. -/
theorem steps_behind (h : Planned columns removed order failed plan) {before after : List FormulaStep}
    {step : FormulaStep} (hsplit : plan.steps = before ++ step :: after) :
    step = stepFor (graph columns) (parsed columns) step.id ∧
      ∀ used ∈ step.uses, used ∈ before.map (·.id) := by
  rw [h.outcome.steps, List.reverse_nil, List.nil_append] at hsplit
  obtain ⟨first, last, hfilter, rfl, hlast⟩ := List.map_eq_append_iff.1 hsplit
  obtain ⟨n, rest, rfl, rfl, rfl⟩ := List.map_eq_cons_iff.1 hlast
  refine ⟨rfl, fun used hused => ?_⟩
  obtain ⟨ahead, behind, horder, rfl, hbehind⟩ := List.filter_eq_append_iff.1 hfilter
  obtain ⟨failing, others, rfl, hfailing, hok, -⟩ := List.filter_eq_cons_iff.1 hbehind
  have hdep := (dependsOn_graph h.ids).2 hused
  have hnout := ((h.peeled.complete n).1 (horder ▸ by simp)).2
  have husedOk : (!plan.failed.contains used) = true := by
    rw [Bool.not_eq_true', ← Bool.not_eq_true]
    intro hfails
    rw [h.contains_of_dependsOn hdep hfails] at hok
    cases hok
  have husedIn : used ∉ removed := by
    intro hr
    obtain ⟨_, -, -, hget⟩ := h.get?_of_mem_removed hr
    rw [IdMap.contains_iff.2 ⟨_, hget⟩] at husedOk
    cases husedOk
  have hahead : used ∈ ahead ++ failing := by
    refine h.peeled.placed.behind (ahead ++ failing) n others ?_ used
      (dependsOn_without.2 ⟨hdep, hnout, husedIn⟩)
    rw [horder, List.append_assoc]
  rw [List.map_map, List.mem_map]
  rcases List.mem_append.1 hahead with hmem | hmem
  · exact ⟨used, List.mem_filter.2 ⟨hmem, husedOk⟩, rfl⟩
  · exact absurd husedOk (hfailing used hmem)

end Planned

/-- Planning comes to an end, since every circle that is found has a node to take out. The formula
columns are divided into those that are evaluated, each behind the columns that it uses, and those
that fail: exactly those that come to a formula that cannot be read or to one that uses itself. A
failed column has its own error, that of a circle that it is on, or that of a failed column that it
uses. -/
theorem ofProperties_outcome {properties : List Property} (hids : (properties.map (·.id)).Nodup) :
    (∀ g circle, DependencyGraph.order g = .error circle → (without g circle).length < g.length) ∧
    ((ofProperties properties).order ++ (ofProperties properties).failed.keys).Perm
      ((formulas properties).map (·.1.id)) ∧
    (∀ before step after, (ofProperties properties).steps = before ++ step :: after →
      step.uses = (graph (formulas properties)).dependencies step.id ∧
        ∀ used ∈ step.uses, used ∈ before.map (·.id)) ∧
    (∀ id, (ofProperties properties).failed.contains id = true ↔
      ∃ cause, (graph (formulas properties)).Reaches id cause ∧
        ((∃ error, Unreadable (formulas properties) cause error) ∨
          (graph (formulas properties)).DependsVia cause cause)) ∧
    ∀ id error, (ofProperties properties).failed.get? id = some error →
      Unreadable (formulas properties) id error ∨
      (∃ circle, (graph (formulas properties)).IsCircle circle ∧ id ∈ circle ∧
        error = .circular (circle.map (nameOf (formulas properties)))) ∨
      ∃ used ∈ (graph (formulas properties)).dependencies id,
        (ofProperties properties).failed.get? used = some error := by
  obtain ⟨removed, order, failed, h⟩ := exists_planned hids
  refine ⟨fun g circle hcircle => length_without_lt (order_error hcircle), h.perm_columns,
    fun before step after hsplit => ?_, fun id => h.contains_iff, fun id error hget => ?_⟩
  · obtain ⟨hstep, hbehind⟩ := h.steps_behind hsplit
    exact ⟨congrArg FormulaStep.uses hstep, hbehind⟩
  · rcases h.reasons_of_get? hget with hread | hcircle | ⟨-, hused⟩
    · exact .inl hread
    · exact .inr (.inl hcircle)
    · exact .inr (.inr hused)

/-- Two formulas that use each other, one that uses the first of them, and one by itself. -/
def circleProperties : List Property :=
  [.fresh "a" "A" (.formula "B"), .fresh "b" "B" (.formula "A"), .fresh "c" "C" (.formula "A + 1"),
    .fresh "d" "D" (.formula "2"), .fresh "t" "Title" .text]

theorem perm_circleProperties :
    (circleProperties.map (·.id)).Nodup ∧
    ((ofProperties circleProperties).order ++ (ofProperties circleProperties).failed.keys).Perm
      ["a", "b", "c", "d"] :=
  ⟨by decide, (ofProperties_outcome (by decide)).2.1⟩

end Databook.FormulaPlan
