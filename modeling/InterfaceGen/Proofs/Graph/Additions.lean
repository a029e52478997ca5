import InterfaceGen.Proofs.Graph.Closure
import InterfaceGen.Proofs.Graph.Cycles

/-!
# Proofs/Graph/Additions — what a graph reports about the dependencies that were added to it

A graph is built up by adding nodes and dependencies in any sequence. The closure of a name is what
the added dependencies lead to, found in two rounds per addition. The cycles are cycles of the added
dependencies, each named once, and there are some whenever the dependencies have one; the order
holds every added name once, a dependency before its dependent unless it leads back to it. A cycle
that shares nodes with another one need not be named itself: it then has a dependency in common with
one that is. Main statements: `closes_closure`, `reports_cycles`, `exists_mem_cycles_of_isCycle` and
`puts_order`.
-/

namespace InterfaceGen

/-! ## Graphs that are built up -/

/-- A node, or a dependency between two of them, that is added to a graph. -/
inductive Addition where
  | node (name : String)
  | dependency (dependent dependency : String)
  deriving Repr, DecidableEq

namespace Addition

/-- The nodes that an addition mentions. -/
def names : Addition → List String
  | .node a => [a]
  | .dependency a b => [a, b]

/-- Among the additions is the dependency of `a` on `b`. -/
def Depends (additions : List Addition) (a b : String) : Prop := .dependency a b ∈ additions

instance (additions : List Addition) (a b : String) : Decidable (Depends additions a b) :=
  inferInstanceAs (Decidable (_ ∈ _))

end Addition

namespace Graph

variable {additions : List Addition} {a b x : String} {c : List String}

/-- The graph with a node or a dependency added. -/
def add (g : Graph) : Addition → Graph
  | .node a => g.addNode a
  | .dependency a b => g.addDependency a b

/-- The graph that is built up by additions, one after the other. -/
def ofAdditions (additions : List Addition) : Graph := additions.foldl add empty

theorem ofAdditions_concat (additions : List Addition) (addition : Addition) :
    ofAdditions (additions ++ [addition]) = (ofAdditions additions).add addition := by
  simp [ofAdditions]

theorem wellFormed_ofAdditions (additions : List Addition) :
    (ofAdditions additions).WellFormed := by
  refine List.foldlRecOn additions _ wellFormed_empty fun g hg addition _ => ?_
  cases addition with
  | node a => exact hg.addNode a
  | dependency a b => exact hg.addDependency a b

/-- **The nodes are the names that were added.** -/
theorem mem_nodes_ofAdditions :
    x ∈ (ofAdditions additions).nodes ↔ ∃ addition ∈ additions, x ∈ addition.names := by
  induction additions using List.reverseRecOn with
  | nil => simp [ofAdditions, empty, nodes]
  | append_singleton additions addition ih =>
    rw [ofAdditions_concat]
    cases addition with
    | node a => simp [add, ih, Addition.names, or_and_right, exists_or, or_comm]
    | dependency a b =>
      simp [add, ih, Addition.names, or_and_right, exists_or, or_comm, or_assoc]

/-- **The dependencies are those that were added.** -/
theorem dependsOn_ofAdditions (additions : List Addition) :
    (ofAdditions additions).DependsOn = Addition.Depends additions := by
  induction additions using List.reverseRecOn with
  | nil =>
    funext a b
    exact propext (iff_of_false List.not_mem_nil List.not_mem_nil)
  | append_singleton additions addition ih =>
    funext a b
    have hab : (ofAdditions additions).DependsOn a b ↔ .dependency a b ∈ additions := by
      rw [ih, Addition.Depends]
    rw [DependsOn] at hab
    rw [ofAdditions_concat, Addition.Depends, DependsOn, List.mem_append]
    cases addition with
    | node _ => simp [add, hab]
    | dependency _ _ => simp [add, mem_successors_addDependency, hab, or_comm]

/-! ## Closures -/

/-- **There are no more dependencies than additions.** -/
theorem total_ofAdditions_le (additions : List Addition) :
    total (ofAdditions additions).entries ≤ additions.length := by
  induction additions using List.reverseRecOn with
  | nil => exact Nat.le_refl _
  | append_singleton additions addition ih =>
    rw [ofAdditions_concat, List.length_append, List.length_singleton]
    cases addition with
    | node a =>
      rw [add, total_addNode]
      exact Nat.le_succ_of_le ih
    | dependency a b =>
      refine (total_modify_le _ _ b).trans (Nat.succ_le_succ ?_)
      rwa [total_addNode, total_addNode]

/-- What some names say about the dependencies that lead on from a node. -/
structure Closes (additions : List Addition) (node : String) (names : Names) : Prop where
  /-- They are what the node leads to by one dependency or more… -/
  mem_iff : ∀ x, x ∈ names ↔ Relation.TransGen (Addition.Depends additions) node x
  /-- …in order, each of them once. -/
  sorted : names.Pairwise (· < ·)
  /-- So the node is one of them exactly if it lies on a cycle… -/
  self_iff : node ∈ names ↔ ∃ c, IsCycle (Addition.Depends additions) c ∧ node ∈ c
  /-- …and there are none if it was not added. -/
  unknown : (∀ addition ∈ additions, node ∉ addition.names) → names = []

/-- **The closure of a name is what the added dependencies lead to from it**, and it is complete,
with its nodes marked as reached and nothing pending, after two rounds per addition at most. -/
theorem closes_closure (additions : List Addition) (node : String) :
    Closes additions node ((ofAdditions additions).closure node) ∧
      ∃ rounds ≤ 2 * additions.length,
        (ofAdditions additions).takeUp^[rounds] ((ofAdditions additions).start node) =
          ⟨(ofAdditions additions).nodes.map (decide <| · ∈ (ofAdditions additions).closure node),
            (ofAdditions additions).closure node, []⟩ := by
  have hwf := wellFormed_ofAdditions additions
  have hmem : ∀ x, x ∈ (ofAdditions additions).closure node ↔
      Relation.TransGen (Addition.Depends additions) node x := fun x => by
    rw [mem_closure_iff hwf, Reaches, dependsOn_ofAdditions]
  constructor
  · refine ⟨hmem, sorted_closure hwf node, (hmem node).trans exists_isCycle_iff.symm,
      fun hnew => ?_⟩
    refine List.eq_nil_iff_forall_not_mem.2 fun x hx => ?_
    have hin := (hwf.nodes_of_reaches ((mem_closure_iff hwf).1 hx)).1
    obtain ⟨addition, hadded, hname⟩ := mem_nodes_ofAdditions.1 hin
    exact hnew addition hadded hname
  · obtain ⟨rounds, hle, -, hend⟩ := exists_iterate_start hwf node
    have hwork := (ofAdditions additions).work_start_le node
    have htotal := total_ofAdditions_le additions
    exact ⟨rounds, by omega, hend⟩

/-! ## Cycles -/

/-- What a list of cycles says about some dependencies. -/
structure Reports (depends : String → String → Prop) (found : List (List String)) : Prop where
  /-- It is empty exactly if there is no cycle. -/
  nothing : found = [] ↔ ∀ c, ¬ IsCycle depends c
  /-- Everything in it is a cycle and starts with its least member. -/
  cycles : ∀ c ∈ found, IsCycle depends c ∧ LeastFirst c
  /-- It is in order… -/
  sorted : found.Pairwise (· < ·)
  /-- …and no two of its cycles are the same when they are turned. -/
  apart : found.Pairwise fun c d => ¬ c ~r d

/-- **A graph reports cycles of the dependencies that were added to it**, each of them once, and at
least one if there is any. -/
theorem reports_cycles (additions : List Addition) :
    Reports (Addition.Depends additions) (ofAdditions additions).cycles := by
  have hwf := wellFormed_ofAdditions additions
  rw [← dependsOn_ofAdditions]
  refine ⟨?_, fun c hc => isCycle_of_mem_cycles hwf hc, sorted_cycles _, ?_⟩
  · rw [cycles_eq_nil_iff hwf]
    constructor
    · intro hacyclic c hc
      obtain ⟨x, hx⟩ := List.exists_mem_of_ne_nil c hc.ne_nil
      exact hacyclic x (hc.transGen hx hx)
    · intro hnone x hx
      obtain ⟨c, hc, -⟩ := exists_isCycle_iff.2 hx
      exact hnone c hc
  · refine (sorted_cycles _).imp_of_mem fun {c d} hc hd hlt hturned => ?_
    obtain ⟨hcycle, hfirst⟩ := isCycle_of_mem_cycles hwf hc
    exact hlt.ne (eq_of_isRotated hturned hcycle.nodup hfirst (isCycle_of_mem_cycles hwf hd).2)

/-! ## Cycles that are not named -/

/-- **Every cycle has a dependency in common with one that is reported**, whose members all lead to
its own and back. A node of it is in that one unless another cycle with such a dependency goes past
the node. -/
theorem exists_mem_cycles_of_isCycle (hc : IsCycle (Addition.Depends additions) c) :
    ∃ d ∈ (ofAdditions additions).cycles, (∃ link ∈ links c, link ∈ links d) ∧
      (∀ x ∈ c, ∀ y ∈ d, Relation.TransGen (Addition.Depends additions) x y ∧
        Relation.TransGen (Addition.Depends additions) y x) ∧
      ∀ x, (∀ e, IsCycle (Addition.Depends additions) e → (∃ link ∈ links c, link ∈ links e) →
        x ∈ e) → x ∈ d := by
  have hwf := wellFormed_ofAdditions additions
  rw [← dependsOn_ofAdditions] at hc ⊢
  obtain ⟨d, hd, ⟨u, v⟩, huc, hud⟩ := exists_link_of_isCycle hwf hc
  have hcycle := (isCycle_of_mem_cycles hwf hd).1
  have hu : u ∈ c := (mem_of_mem_links huc).1
  have hu' : u ∈ d := (mem_of_mem_links hud).1
  refine ⟨d, hd, ⟨_, huc, hud⟩, fun x hx y hy => ?_, fun x hall => hall d hcycle ⟨_, huc, hud⟩⟩
  exact ⟨(hc.transGen hx hu).trans (hcycle.transGen hu' hy),
    (hcycle.transGen hy hu').trans (hc.transGen hu hx)⟩

/-- Two cycles that have one dependency in common. -/
def overlapping : List Addition :=
  [.dependency "a" "b", .dependency "b" "a", .dependency "a" "c", .dependency "c" "b"]

theorem isCycle_overlapping : IsCycle (Addition.Depends overlapping) ["a", "c", "b"] :=
  ⟨by decide, by decide, by decide⟩

theorem cycles_overlapping : (ofAdditions overlapping).cycles = [["a", "b"]] := by decide

/-- Of the two cycles the longer one is not named; the other one has its last link. -/
theorem exists_mem_cycles_overlapping :
    IsCycle (Addition.Depends overlapping) ["a", "c", "b"] ∧
      ∃ d ∈ (ofAdditions overlapping).cycles, ∃ link ∈ links ["a", "c", "b"], link ∈ links d := by
  obtain ⟨d, hd, hlink, -⟩ := exists_mem_cycles_of_isCycle isCycle_overlapping
  exact ⟨isCycle_overlapping, d, hd, hlink⟩

/-- **So not every node on a cycle is named**: `b` is finished by the time that the walk goes from
`a` to `c`, and a link to a finished node closes nothing. -/
theorem not_mem_cycles_overlapping :
    ¬ ∀ (additions : List Addition) (x : String),
      (∃ c, IsCycle (Addition.Depends additions) c ∧ x ∈ c) →
        ∃ d ∈ (ofAdditions additions).cycles, x ∈ d := by
  intro hall
  obtain ⟨d, hd, hx⟩ := hall overlapping "c" ⟨_, isCycle_overlapping, by decide⟩
  rw [cycles_overlapping, List.mem_singleton] at hd
  rw [hd] at hx
  exact absurd hx (by decide)

/-! ## Order -/

/-- What a list of names says about some dependencies. -/
structure Puts (additions : List Addition) (names : List String) : Prop where
  /-- No name comes twice… -/
  nodup : names.Nodup
  /-- …and it is one that was added. -/
  mem_iff : ∀ x, x ∈ names ↔ ∃ addition ∈ additions, x ∈ addition.names
  /-- A dependency that does not lead back to its dependent comes before it. -/
  before : ∀ a b, Addition.Depends additions a b →
    ¬ Relation.TransGen (Addition.Depends additions) b a → names.idxOf b < names.idxOf a
  /-- If nothing leads back to itself, all that a name leads to comes before it. -/
  acyclic : (∀ a, ¬ Relation.TransGen (Addition.Depends additions) a a) →
    ∀ a b, Relation.TransGen (Addition.Depends additions) a b → names.idxOf b < names.idxOf a

/-- **The order of a graph puts what was added before what depends on it.** -/
theorem puts_order (additions : List Addition) : Puts additions (ofAdditions additions).order := by
  have hwf := wellFormed_ofAdditions additions
  refine ⟨nodup_order hwf, fun x => (mem_order hwf).trans mem_nodes_ofAdditions, ?_, ?_⟩
  · rw [← dependsOn_ofAdditions]
    exact fun a b hab hba => idxOf_order_lt hwf hab hba
  · rw [← dependsOn_ofAdditions]
    exact fun hacyclic a b hab => Acyclic.idxOf_order_lt hacyclic hwf hab

end Graph

end InterfaceGen
