import InterfaceGen.Proofs.Graph.Additions

/-!
# Proofs/Graph/Alike — what a graph answers does not depend on how it was built up

Two sequences of additions may number the nodes differently and repeat each other's dependencies.
If they mention the same nodes and the same dependencies, then the nodes in the order of their names
and the dependencies of each node are the same lists, and a walk by names looks at nothing else; so
the walks by numbers, which mark different places, find the same. Main statement:
`answers_of_alike`.
-/

namespace InterfaceGen

/-! ## Sets of names -/

/-- The set of some names is in order. -/
theorem Names.sorted_ofList (names : List String) : (ofList names).Sorted :=
  List.foldlRecOn names _ List.Pairwise.nil fun _ h n _ => h.insert n

/-! ## Additions -/

/-- The same nodes and the same dependencies are added, in whatever order and however often. -/
structure Addition.Alike (additions others : List Addition) : Prop where
  names : ∀ x, (∃ addition ∈ additions, x ∈ addition.names) ↔
    ∃ addition ∈ others, x ∈ addition.names
  depends : ∀ a b, Depends additions a b ↔ Depends others a b

namespace Graph

variable {g g' : Graph} {additions others : List Addition}

/-- The dependencies of a node are in order. -/
theorem sorted_successors (additions : List Addition) (node : String) :
    ((ofAdditions additions).successors node).Sorted := by
  induction additions using List.reverseRecOn with
  | nil => exact List.Pairwise.nil
  | append_singleton additions addition ih =>
    rw [ofAdditions_concat]
    cases addition with
    | node a => rwa [add, successors_addNode]
    | dependency a b =>
      rw [add, successors_addDependency]
      split
      · next hnode => exact (hnode ▸ ih).insert b
      · exact ih

/-! ## Walks that look at the same lists -/

/-- The graphs have the same nodes, which they may number differently, and the same dependencies. -/
structure Alike (g g' : Graph) : Prop where
  nodes : g.nodes.Perm g'.nodes
  successors : g.successors = g'.successors

/-- Graphs of the same additions are alike. -/
theorem alike_ofAdditions (h : Addition.Alike additions others) :
    Alike (ofAdditions additions) (ofAdditions others) where
  nodes := (List.perm_ext_iff_of_nodup (wellFormed_ofAdditions additions).nodup
    (wellFormed_ofAdditions others).nodup).2 fun x => by
      rw [mem_nodes_ofAdditions, mem_nodes_ofAdditions, h.names]
  successors := by
    funext node
    refine (sorted_successors additions node).ext (sorted_successors others node) fun x => ?_
    have hadditions := congrFun₂ (dependsOn_ofAdditions additions) node x
    have hothers := congrFun₂ (dependsOn_ofAdditions others) node x
    rw [← DependsOn, ← DependsOn, hadditions, hothers, h.depends]

/-- A search looks at the dependencies only. -/
theorem searchFrom_congr (h : g.successors = g'.successors) : g.searchFrom = g'.searchFrom := by
  funext fuel
  induction fuel with
  | zero => rfl
  | succ fuel ih =>
    funext path s node
    simp only [searchFrom, h, ih]

/-- A walk looks at the dependencies only. -/
theorem walkFrom_congr (h : g.successors = g'.successors) : g.walkFrom = g'.walkFrom := by
  funext fuel
  induction fuel with
  | zero => rfl
  | succ fuel ih =>
    funext w node
    simp only [walkFrom, h, ih]

namespace Alike

/-- In the order of their names the nodes are the same. -/
theorem sortedNodes_eq (h : Alike g g') : g.sortedNodes = g'.sortedNodes :=
  (Names.sorted_ofList g.nodes).ext (Names.sorted_ofList g'.nodes) fun _ =>
    Names.mem_ofList.trans (h.nodes.mem_iff.trans Names.mem_ofList.symm)

theorem closure_eq (h : Alike g g') (hg : g.WellFormed) (hg' : g'.WellFormed) (node : String) :
    g.closure node = g'.closure node := by
  refine (sorted_closure hg node).ext (sorted_closure hg' node) fun x => ?_
  rw [mem_closure_iff hg, mem_closure_iff hg']
  have hdepends : g.DependsOn = g'.DependsOn := by
    funext a b
    rw [DependsOn, DependsOn, h.successors]
  rw [Reaches, Reaches, hdepends]

theorem cycles_eq (h : Alike g g') (hg : g.WellFormed) (hg' : g'.WellFormed) :
    g.cycles = g'.cycles := by
  rw [cycles_eq_byName hg, cycles_eq_byName hg', cyclesByName, cyclesByName, h.sortedNodes_eq,
    h.nodes.length_eq, searchFrom_congr h.successors]

theorem order_eq (h : Alike g g') (hg : g.WellFormed) (hg' : g'.WellFormed) :
    g.order = g'.order := by
  rw [order_eq_byName hg, order_eq_byName hg', orderByName, orderByName, h.sortedNodes_eq,
    h.nodes.length_eq, walkFrom_congr h.successors]

end Alike

/-- **Graphs of the same additions answer alike**: each name has the same closure, and the cycles
and the order are the same. -/
theorem answers_of_alike (h : Addition.Alike additions others) :
    (∀ node, (ofAdditions additions).closure node = (ofAdditions others).closure node) ∧
      (ofAdditions additions).cycles = (ofAdditions others).cycles ∧
      (ofAdditions additions).order = (ofAdditions others).order :=
  have halike := alike_ofAdditions h
  have hwf := wellFormed_ofAdditions additions
  have hwf' := wellFormed_ofAdditions others
  ⟨halike.closure_eq hwf hwf', halike.cycles_eq hwf hwf', halike.order_eq hwf hwf'⟩

/-- The dependencies of the two cycles that have one in common, from the last one to the first; a
node and a dependency are added twice. -/
def reversed : List Addition :=
  [.node "c", .dependency "c" "b", .dependency "a" "c", .dependency "b" "a", .dependency "a" "b",
    .dependency "c" "b", .node "b"]

theorem alike_overlapping : Addition.Alike overlapping reversed where
  names x := by
    rw [← List.mem_flatMap, ← List.mem_flatMap]
    simp only [overlapping, reversed, List.flatMap_cons, List.flatMap_nil, Addition.names,
      List.mem_append, List.mem_cons, List.not_mem_nil, or_false]
    tauto
  depends a b := by
    simp only [Addition.Depends, overlapping, reversed, List.mem_cons, List.not_mem_nil,
      reduceCtorEq, false_or, or_false]
    tauto

/-- The nodes are numbered differently, and still the answers are the same. -/
theorem answers_of_alike_overlapping : Addition.Alike overlapping reversed ∧
    (ofAdditions overlapping).nodes = ["b", "a", "c"] ∧
    (ofAdditions reversed).nodes = ["c", "b", "a"] ∧
    (∀ node, (ofAdditions overlapping).closure node = (ofAdditions reversed).closure node) ∧
    (ofAdditions overlapping).cycles = (ofAdditions reversed).cycles ∧
    (ofAdditions overlapping).order = (ofAdditions reversed).order :=
  ⟨alike_overlapping, by decide, by decide, answers_of_alike alike_overlapping⟩

end Graph

end InterfaceGen
