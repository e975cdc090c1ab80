/-!
# Topological order

`DependencyGraph.order` lists the nodes of a graph so that each comes after the nodes it depends on,
or finds a circle. It walks depth first, from the nodes in the order in which they are given, and
only follows dependencies on nodes of the graph.

The walk carries the path from where it started, and it never goes on from a node that is on the
path already; so the nodes off the path become fewer with every step down (`offPath_cons_lt`).
-/

namespace Databook

/-- Nodes with the nodes that they depend on. Of several entries for a node the last counts. -/
abbrev DependencyGraph := List (String × List String)

namespace DependencyGraph

/-- The nodes, in the order in which they are given. -/
def nodes (g : DependencyGraph) : List String := g.map (·.1)

/-- What a node depends on. -/
def dependencies (g : DependencyGraph) (node : String) : List String :=
  (g.reverse.lookup node).getD []

/-- The number of nodes that are not on a path. -/
def offPath (g : DependencyGraph) (path : List String) : Nat :=
  (g.nodes.filter fun n => !path.contains n).length

/-- Fewer members pass a test that is harder, and that a member fails which passes the easier one. -/
theorem length_filter_lt {p q : α → Bool} {a : α} {l : List α} (hpq : ∀ x, p x = true → q x = true)
    (ha : a ∈ l) (hq : q a = true) (hp : p a = false) : (l.filter p).length < (l.filter q).length := by
  induction l with
  | nil => cases ha
  | cons x xs ih =>
    have hle : ∀ l : List α, (l.filter p).length ≤ (l.filter q).length := by
      intro l
      induction l with
      | nil => simp
      | cons y ys ih =>
        by_cases hy : p y = true
        · simpa [List.filter_cons, hy, hpq y hy] using ih
        · simp only [Bool.not_eq_true] at hy
          by_cases hy' : q y = true <;> simp [hy, hy'] <;> omega
    rcases List.mem_cons.1 ha with rfl | ha
    · have := hle xs
      simp only [List.filter_cons, hp, hq, Bool.false_eq_true, if_false, if_true,
        List.length_cons]
      omega
    · have := ih ha
      by_cases hx : p x = true
      · simpa [List.filter_cons, hx, hpq x hx] using this
      · simp only [Bool.not_eq_true] at hx
        by_cases hx' : q x = true <;> simp [hx, hx'] <;> omega

/-- A path that is made longer leaves fewer nodes off it. -/
theorem offPath_cons_lt {g : DependencyGraph} {path : List String} {node : String}
    (hn : node ∈ g.nodes) (hp : ¬ node ∈ path) : g.offPath (node :: path) < g.offPath path := by
  refine length_filter_lt (a := node) ?_ hn ?_ ?_
  · intro x hx
    simp only [List.contains_cons, Bool.not_or, Bool.and_eq_true] at hx
    exact hx.2
  · simpa using hp
  · simp

/-- The circle that is closed by going on to a node of the path, the path being in reverse order. -/
def circle (path : List String) (node : String) : List String :=
  node :: (path.takeWhile (· != node)).reverse ++ [node]

mutual

/-- Place a node behind what it depends on. `path` leads to the node, in reverse order, and `placed`
are the nodes that have their place. Ends with a circle if one is met. -/
def visit (g : DependencyGraph) (path placed : List String) (node : String) :
    Except (List String) (List String) :=
  if placed.contains node then .ok placed
  else if hp : node ∈ path then .error (circle path node)
  else if hn : node ∈ g.nodes then
    have := offPath_cons_lt hn hp
    match visitAll g (node :: path) placed (g.dependencies node) with
    | .error c => .error c
    | .ok placed => .ok (placed ++ [node])
  else .ok placed
termination_by (g.offPath path, 0)
decreasing_by exact .left _ _ ‹_›

/-- Place a list of nodes. -/
def visitAll (g : DependencyGraph) (path placed : List String) (nodes : List String) :
    Except (List String) (List String) :=
  match nodes with
  | [] => .ok placed
  | node :: nodes =>
    match visit g path placed node with
    | .error c => .error c
    | .ok placed => visitAll g path placed nodes
termination_by (g.offPath path, nodes.length + 1)

end

/-- The nodes, each after what it depends on, or a circle: nodes that depend each on the next, the
last being the first again. -/
def order (g : DependencyGraph) : Except (List String) (List String) := visitAll g [] [] g.nodes

end DependencyGraph

end Databook
