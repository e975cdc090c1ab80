import Databook.Graph.TopologicalOrder
import Mathlib.Data.List.Chain
import Mathlib.Data.List.Nodup
import Mathlib.Data.List.TakeWhile

/-!
# What the topological order gives

`DependencyGraph.order` has two outcomes, and each is what it claims to be.

* An order (`order_ok`) lists every node once, and each behind the nodes that it depends on
  (`Placed`). So nothing in it depends on itself, over however many steps (`Placed.not_dependsVia_self`).
* A circle (`order_error`) is a path of dependencies back to its start (`IsCircle`) that meets no node
  twice on the way, and every member of it depends on itself (`IsCircle.dependsVia_self`).

Both are proved of one visit by the induction of the walk. What carries it through is that the
nodes of the path from the start are distinct and depend each on the next, and that none of them is
placed before the walk comes back to it. So there is an order if and only if there is no circle
(`order_exact`).
-/

namespace Databook.DependencyGraph

variable {g : DependencyGraph} {a b node : String} {path placed placed' : List String}

/-- `a` depends on the node `b` directly. -/
def DependsOn (g : DependencyGraph) (a b : String) : Prop :=
  b ∈ g.nodes ∧ b ∈ g.dependencies a

/-- `a` comes to `b` by following dependencies, over at least one step. -/
abbrev DependsVia (g : DependencyGraph) : String → String → Prop := Relation.TransGen g.DependsOn

/-- `a` comes to `b` by following dependencies, over any number of steps. -/
abbrev Reaches (g : DependencyGraph) : String → String → Prop := Relation.ReflTransGen g.DependsOn

/-- A path of dependencies that leads back to its start. -/
def IsCircle (g : DependencyGraph) (c : List String) : Prop :=
  ∃ start between, c = start :: between ++ [start] ∧ c.IsChain g.DependsOn

/-- A circle that meets no node twice before it is back at its start. -/
structure IsSimpleCircle (g : DependencyGraph) (c : List String) : Prop where
  isCircle : g.IsCircle c
  nodup : c.dropLast.Nodup

/-- Nodes of the graph without repetition, each behind the nodes that it depends on. -/
structure Placed (g : DependencyGraph) (placed : List String) : Prop where
  nodup : placed.Nodup
  isNode : ∀ n ∈ placed, n ∈ g.nodes
  behind : ∀ before n after, placed = before ++ n :: after → ∀ m, g.DependsOn n m → m ∈ before

/-! ### Dependencies -/

/-- Of several entries for a node the last tells what it depends on. -/
theorem mem_dependencies_iff : b ∈ g.dependencies a ↔
    ∃ before deps after, g = before ++ (a, deps) :: after ∧ a ∉ nodes after ∧ b ∈ deps := by
  have hlater : ∀ {after : DependencyGraph}, (∀ entry ∈ after.reverse, (a == entry.1) = false) ↔
      a ∉ nodes after := by
    intro after
    simp only [nodes, List.mem_reverse, beq_eq_false_iff_ne, List.mem_map, not_exists, not_and]
    exact forall₂_congr fun _ _ => ne_comm
  unfold dependencies
  constructor
  · intro h
    cases hl : g.reverse.lookup a with
    | none =>
      rw [hl] at h
      cases h
    | some deps =>
      rw [hl] at h
      obtain ⟨later, earlier, hsplit, hnone⟩ := List.lookup_eq_some_iff.1 hl
      refine ⟨earlier.reverse, deps, later.reverse, ?_, ?_, h⟩
      · rw [← List.reverse_reverse g, hsplit]
        simp
      · exact hlater.1 (by simpa using hnone)
  · rintro ⟨before, deps, after, rfl, hlast, hb⟩
    have hl : (before ++ (a, deps) :: after).reverse.lookup a = some deps := by
      refine List.lookup_eq_some_iff.2 ⟨after.reverse, before.reverse, by simp, ?_⟩
      simpa using hlater.2 hlast
    rwa [hl]

/-- Only nodes depend on anything. -/
theorem mem_nodes_of_mem_dependencies (h : b ∈ g.dependencies a) : a ∈ g.nodes := by
  obtain ⟨before, deps, after, rfl, -, -⟩ := mem_dependencies_iff.1 h
  simp [nodes]

theorem DependsOn.left_mem (h : g.DependsOn a b) : a ∈ g.nodes :=
  mem_nodes_of_mem_dependencies h.2

/-! ### Circles -/

/-- Along a path of dependencies each node depends on all later ones. -/
theorem pairwise_dependsVia {c : List String} (h : c.IsChain g.DependsOn) :
    c.Pairwise g.DependsVia :=
  List.isChain_iff_pairwise.1 (h.imp fun _ _ => Relation.TransGen.single)

/-- Every member of a circle depends on itself. -/
theorem IsCircle.dependsVia_self {c : List String} (h : g.IsCircle c) (ha : a ∈ c) :
    g.DependsVia a a := by
  obtain ⟨start, between, rfl, hchain⟩ := h
  have hpairs := pairwise_dependsVia hchain
  have hfront := (List.pairwise_cons.1 hpairs).1
  have hback := (List.pairwise_append.1 hpairs).2.2
  have haround : g.DependsVia start start := hfront start (by simp)
  rw [List.mem_append, List.mem_singleton] at ha
  rcases ha with ha | rfl
  · rcases List.mem_cons.1 ha with rfl | hb
    · exact haround
    · exact (hback a ha start (by simp)).trans (hfront a (by simp [hb]))
  · exact haround

theorem DependsVia.left_mem (h : g.DependsVia a b) : a ∈ g.nodes := by
  obtain ⟨m, hm, -⟩ := Relation.TransGen.head'_iff.1 h
  exact hm.left_mem

theorem IsCircle.mem_nodes {c : List String} (h : g.IsCircle c) (ha : a ∈ c) : a ∈ g.nodes :=
  DependsVia.left_mem (h.dependsVia_self ha)

theorem IsCircle.exists_mem {c : List String} (h : g.IsCircle c) : ∃ n, n ∈ c := by
  obtain ⟨start, between, rfl, -⟩ := h
  exact ⟨start, by simp⟩

/-- Every member of a circle depends on one. -/
theorem IsCircle.exists_next {c : List String} (h : g.IsCircle c) (ha : a ∈ c) :
    ∃ b ∈ c, g.DependsOn a b := by
  obtain ⟨start, between, rfl, hchain⟩ := h
  have hfront : a ∈ start :: between := by
    rw [List.mem_append, List.mem_singleton] at ha
    exact ha.elim id fun heq => heq ▸ List.mem_cons_self
  obtain ⟨before, after, hsplit⟩ := List.append_of_mem hfront
  rw [hsplit, List.append_assoc, List.cons_append] at hchain ⊢
  -- behind the member at least the start comes again
  obtain ⟨next, rest, hnext⟩ : ∃ next rest, after ++ [start] = next :: rest :=
    List.exists_cons_of_ne_nil (by simp)
  rw [hnext] at hchain ⊢
  exact ⟨next, by simp, (List.isChain_cons_cons.1 hchain.right_of_append).1⟩

/-- Going on to a node of the path closes a circle. -/
theorem isCircle_circle (hpath : (node :: path).IsChain fun a b => g.DependsOn b a)
    (hmem : node ∈ path) : g.IsCircle (circle path node) := by
  have hsplit : path = path.takeWhile (· != node) ++ path.dropWhile (· != node) :=
    (List.takeWhile_append_dropWhile (p := (· != node)) (l := path)).symm
  obtain ⟨first, rest, hdrop⟩ : ∃ first rest, path.dropWhile (· != node) = first :: rest := by
    refine List.exists_cons_of_ne_nil fun hnil => ?_
    have hall := List.dropWhile_eq_nil_iff.1 hnil node hmem
    simp at hall
  have hfirst : first = node := by
    have hstop := List.head_dropWhile_not (p := (· != node)) (l := path) (by simp [hdrop])
    simpa [hdrop] using hstop
  subst hfirst
  have hloop : (first :: path.takeWhile (· != first) ++ [first]).IsChain
      fun a b => g.DependsOn b a := by
    rw [hdrop] at hsplit
    rw [hsplit] at hpath
    refine hpath.prefix ⟨rest, ?_⟩
    simp
  refine ⟨first, (path.takeWhile (· != first)).reverse, rfl, ?_⟩
  have hreverse : circle path first = (first :: path.takeWhile (· != first) ++ [first]).reverse := by
    simp [circle]
  rw [hreverse, List.isChain_reverse]
  exact hloop

/-- Closing a circle with a path that meets no node twice gives a circle that does not either. -/
theorem nodup_dropLast_circle (h : path.Nodup) : (circle path node).dropLast.Nodup := by
  have hfront : (circle path node).dropLast = node :: (path.takeWhile (· != node)).reverse :=
    List.dropLast_concat
  rw [hfront, List.nodup_cons, List.nodup_reverse, List.mem_reverse]
  refine ⟨fun hmem => ?_, h.sublist (List.takeWhile_sublist _)⟩
  simpa using List.mem_takeWhile_imp hmem

/-! ### Orders -/

/-- A node with everything that it depends on before it can be placed. -/
theorem Placed.snoc (h : g.Placed placed) (hn : node ∈ g.nodes) (hnew : node ∉ placed)
    (hdeps : ∀ m, g.DependsOn node m → m ∈ placed) : g.Placed (placed ++ [node]) where
  nodup := by
    refine List.nodup_append.2 ⟨h.nodup, List.nodup_singleton _, fun n hm m hs heq => ?_⟩
    rw [List.mem_singleton] at hs
    subst hs heq
    exact hnew hm
  isNode n hm := by
    rcases List.mem_append.1 hm with hm | hm
    · exact h.isNode n hm
    · rw [List.mem_singleton.1 hm]
      exact hn
  behind before n after hsplit m hm := by
    rcases List.eq_nil_or_concat after with rfl | ⟨init, last, rfl⟩
    · obtain ⟨rfl, hlast⟩ := List.append_inj' hsplit rfl
      cases hlast
      exact hdeps m hm
    · rw [List.concat_eq_append, ← List.cons_append, ← List.append_assoc] at hsplit
      obtain ⟨hinit, -⟩ := List.append_inj' hsplit rfl
      exact h.behind before n init hinit m hm

/-- What a node of an order depends on has an earlier place. -/
theorem Placed.idxOf_lt (h : g.Placed placed) (ha : a ∈ placed) (hab : g.DependsOn a b) :
    placed.idxOf b < placed.idxOf a := by
  obtain ⟨before, after, rfl⟩ := List.append_of_mem ha
  have hb : b ∈ before := h.behind before a after rfl b hab
  have hna : a ∉ before := by
    intro hmem
    exact (List.nodup_append.1 h.nodup).2.2 a hmem a List.mem_cons_self rfl
  rw [List.idxOf_append_of_mem hb, List.idxOf_append_of_notMem hna]
  exact Nat.lt_add_right _ (List.idxOf_lt_length_of_mem hb)

theorem Placed.mem_of_dependsOn (h : g.Placed placed) (ha : a ∈ placed) (hab : g.DependsOn a b) :
    b ∈ placed := by
  obtain ⟨before, after, rfl⟩ := List.append_of_mem ha
  exact List.mem_append_left _ (h.behind before a after rfl b hab)

/-- Nothing in an order depends on itself. -/
theorem Placed.not_dependsVia_self (h : g.Placed placed) (ha : a ∈ placed) :
    ¬ g.DependsVia a a := by
  have hearlier : ∀ m, g.DependsVia a m → m ∈ placed ∧ placed.idxOf m < placed.idxOf a := by
    intro m hm
    induction hm with
    | single hab => exact ⟨h.mem_of_dependsOn ha hab, h.idxOf_lt ha hab⟩
    | tail _ hbc ih => exact ⟨h.mem_of_dependsOn ih.1 hbc, (h.idxOf_lt ih.1 hbc).trans ih.2⟩
  intro hself
  exact Nat.lt_irrefl _ (hearlier a hself).2

/-! ### The walk -/

/-- What placing nodes behind a path does: the order grows, by no node of the path. -/
structure Grows (g : DependencyGraph) (path placed placed' : List String) : Prop where
  isPlaced : g.Placed placed'
  grows : placed <+: placed'
  offPath : ∀ p ∈ path, p ∈ placed' → p ∈ placed

theorem Grows.refl (h : g.Placed placed) : g.Grows path placed placed :=
  ⟨h, List.prefix_rfl, fun _ _ => id⟩

theorem Grows.trans {placed'' : List String} (h : g.Grows path placed placed')
    (h' : g.Grows path placed' placed'') : g.Grows path placed placed'' :=
  ⟨h'.isPlaced, h.grows.trans h'.grows, fun p hp hm => h.offPath p hp (h'.offPath p hp hm)⟩

/-- A node goes behind what it depends on, once the walk is back from there. -/
theorem Grows.snoc (h : g.Grows (node :: path) placed placed') (hn : node ∈ g.nodes)
    (hoff : node ∉ path) (hnew : node ∉ placed) (hdeps : ∀ m, g.DependsOn node m → m ∈ placed') :
    g.Grows path placed (placed' ++ [node]) where
  isPlaced := h.isPlaced.snoc hn (fun hmem => hnew (h.offPath node List.mem_cons_self hmem)) hdeps
  grows := h.grows.trans (List.prefix_append _ _)
  offPath p hp hm := by
    rcases List.mem_append.1 hm with hm | hm
    · exact h.offPath p (List.mem_cons_of_mem _ hp) hm
    · rw [List.mem_singleton.1 hm] at hp
      exact absurd hp hoff

/-- The path that leads to a node: each of its nodes depends on the one visited from it, and none is
visited twice. -/
structure LeadsTo (g : DependencyGraph) (path : List String) (node : String) : Prop where
  isNode : ∀ p ∈ path, p ∈ g.nodes
  nodup : path.Nodup
  chain : node ∈ g.nodes → (node :: path).IsChain fun a b => g.DependsOn b a

/-- The path goes on to what its last node depends on. -/
theorem LeadsTo.step (h : g.LeadsTo path node) (hn : node ∈ g.nodes) (hoff : node ∉ path)
    (hb : b ∈ g.dependencies node) : g.LeadsTo (node :: path) b where
  isNode p hp := by
    rcases List.mem_cons.1 hp with rfl | hp
    · exact hn
    · exact h.isNode p hp
  nodup := List.nodup_cons.2 ⟨hoff, h.nodup⟩
  chain hb' := List.isChain_cons_cons.2 ⟨⟨hb', hb⟩, h.chain hn⟩

/-- The outcome of a visit: the node has its place, if it is one, or there is a circle. -/
def VisitOutcome (g : DependencyGraph) (path placed nodes : List String) :
    Except (List String) (List String) → Prop
  | .ok placed' => g.Grows path placed placed' ∧ ∀ n ∈ nodes, n ∈ g.nodes → n ∈ placed'
  | .error c => g.IsSimpleCircle c

theorem visit_outcomes :
    (∀ path placed node, g.LeadsTo path node → g.Placed placed →
        g.VisitOutcome path placed [node] (g.visit path placed node)) ∧
      ∀ path placed nodes, (∀ n ∈ nodes, g.LeadsTo path n) → g.Placed placed →
        g.VisitOutcome path placed nodes (g.visitAll path placed nodes) := by
  apply visit.mutual_induct g
    (fun path placed node => g.LeadsTo path node → g.Placed placed →
        g.VisitOutcome path placed [node] (g.visit path placed node))
    (fun path placed nodes => (∀ n ∈ nodes, g.LeadsTo path n) → g.Placed placed →
        g.VisitOutcome path placed nodes (g.visitAll path placed nodes))
  case case1 => -- the node has its place already
    intro path placed node hmem hpath hplaced
    rw [visit, if_pos hmem]
    refine ⟨.refl hplaced, fun n hn _ => ?_⟩
    rw [List.mem_singleton.1 hn]
    simpa using hmem
  case case2 => -- the node is on the path
    intro path placed node hnew hon hpath hplaced
    rw [visit, if_neg hnew, dif_pos hon]
    exact ⟨isCircle_circle (hpath.chain (hpath.isNode node hon)) hon, nodup_dropLast_circle hpath.nodup⟩
  case case3 => -- a circle among what the node depends on
    intro path placed node hnew hoff hn _ c hc ih hpath hplaced
    rw [visit, if_neg hnew, dif_neg hoff, dif_pos hn]
    have hdeps := ih (fun b hb => hpath.step hn hoff hb) hplaced
    rw [hc] at hdeps
    simp only [hc]
    exact hdeps
  case case4 => -- everything that the node depends on is placed
    intro path placed node hnew hoff hn _ placed' hok ih hpath hplaced
    rw [visit, if_neg hnew, dif_neg hoff, dif_pos hn]
    have hdeps := ih (fun b hb => hpath.step hn hoff hb) hplaced
    rw [hok] at hdeps
    obtain ⟨hgrows, hall⟩ := hdeps
    simp only [hok]
    refine ⟨hgrows.snoc hn hoff (by simpa using hnew) fun m hm => hall m hm.2 hm.1, fun n hn _ => ?_⟩
    rw [List.mem_singleton.1 hn]
    simp
  case case5 => -- no node of the graph
    intro path placed node hnew hoff hn hpath hplaced
    rw [visit, if_neg hnew, dif_neg hoff, dif_neg hn]
    refine ⟨.refl hplaced, fun n hm hn' => ?_⟩
    rw [List.mem_singleton.1 hm] at hn'
    exact absurd hn' hn
  case case6 => -- no nodes are left
    intro path placed _ hplaced
    rw [visitAll]
    exact ⟨.refl hplaced, by simp⟩
  case case7 => -- a circle at the first node
    intro path placed node nodes c hc ih hpath hplaced
    have hfirst := ih (hpath node List.mem_cons_self) hplaced
    rw [hc] at hfirst
    rw [visitAll, hc]
    exact hfirst
  case case8 => -- the first node is placed
    intro path placed node nodes placed' hok ih ihRest hpath hplaced
    have hfirst := ih (hpath node List.mem_cons_self) hplaced
    rw [hok] at hfirst
    obtain ⟨hgrows, hnode⟩ := hfirst
    have hrest := ihRest (fun n hn => hpath n (List.mem_cons_of_mem _ hn)) hgrows.isPlaced
    rw [visitAll, hok]
    cases hall : g.visitAll path placed' nodes with
    | error c =>
      rw [hall] at hrest
      simp only [hall]
      exact hrest
    | ok placed'' =>
      rw [hall] at hrest
      obtain ⟨hgrows', hnodes⟩ := hrest
      simp only [hall]
      refine ⟨hgrows.trans hgrows', fun n hn hn' => ?_⟩
      rcases List.mem_cons.1 hn with rfl | hn
      · exact hgrows'.grows.subset (hnode n (by simp) hn')
      · exact hnodes n hn hn'

theorem order_outcome (g : DependencyGraph) : g.VisitOutcome [] [] g.nodes g.order := by
  have hempty : g.Placed [] := by
    refine ⟨List.nodup_nil, by simp, fun before n after hsplit => ?_⟩
    cases before <;> cases hsplit
  exact visit_outcomes.2 [] [] g.nodes (fun n _ => ⟨by simp, List.nodup_nil, fun _ => List.isChain_singleton _⟩) hempty

/-- An order lists exactly the nodes, each behind those that it depends on. -/
theorem order_ok {order : List String} (h : g.order = .ok order) :
    g.Placed order ∧ ∀ n, n ∈ order ↔ n ∈ g.nodes := by
  have houtcome := order_outcome g
  rw [h] at houtcome
  obtain ⟨hgrows, hall⟩ := houtcome
  exact ⟨hgrows.isPlaced, fun n => ⟨hgrows.isPlaced.isNode n, fun hn => hall n hn hn⟩⟩

theorem order_error_simple {c : List String} (h : g.order = .error c) : g.IsSimpleCircle c := by
  have houtcome := order_outcome g
  rw [h] at houtcome
  exact houtcome

theorem order_error {c : List String} (h : g.order = .error c) : g.IsCircle c :=
  (order_error_simple h).isCircle

/-- There is no circle among nodes that can be put in order. -/
theorem not_isCircle_of_order_ok {order c : List String} (h : g.order = .ok order) : ¬ g.IsCircle c := by
  obtain ⟨hplaced, hall⟩ := order_ok h
  intro hcircle
  obtain ⟨n, hn⟩ := hcircle.exists_mem
  exact hplaced.not_dependsVia_self ((hall n).2 (hcircle.mem_nodes hn)) (hcircle.dependsVia_self hn)

/-- The order is exact. The last entry for a node tells what it depends on, and only dependencies on
nodes count; there is an order if and only if these close no circle, it lists every node once, behind
those that it depends on; and what is found in its place is a circle that meets no node twice. -/
theorem order_exact (g : DependencyGraph) :
    (∀ a b, g.DependsOn a b ↔ b ∈ g.nodes ∧
      ∃ before deps after, g = before ++ (a, deps) :: after ∧ a ∉ nodes after ∧ b ∈ deps) ∧
    ((∃ order, g.order = .ok order) ↔ ¬ ∃ c, g.IsCircle c) ∧
    (∀ order, g.order = .ok order → g.Placed order ∧ ∀ n, n ∈ order ↔ n ∈ g.nodes) ∧
    ∀ c, g.order = .error c → g.IsSimpleCircle c := by
  refine ⟨fun a b => and_congr_right fun _ => mem_dependencies_iff, ⟨?_, fun hnone => ?_⟩,
    fun order => order_ok, fun c => order_error_simple⟩
  · rintro ⟨order, hok⟩ ⟨c, hcircle⟩
    exact not_isCircle_of_order_ok hok hcircle
  · cases houtcome : g.order with
    | ok order => exact ⟨order, rfl⟩
    | error c => exact absurd ⟨c, order_error houtcome⟩ hnone

end Databook.DependencyGraph
