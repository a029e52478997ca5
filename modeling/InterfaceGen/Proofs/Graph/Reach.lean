import InterfaceGen.Graph
import InterfaceGen.Proofs.Table
import Mathlib.Logic.Relation

/-!
# Proofs/Graph/Reach — dependencies by their names, and what they lead to

`g.successors a` are the names that the node `a` depends on, and `g.Reaches a b` is a path of at
least one dependency. A walk marks what it enters, so the nodes it has not entered (`unvisited`) get
fewer with every level. Main statements: `mem_successors_addDependency` and the well-formedness of
what is built up.
-/

namespace InterfaceGen.Graph

variable {g : Graph} {a b c node : String}

/-! ## Dependencies by name -/

/-- The names of the dependencies of a node. -/
def successors (g : Graph) (node : String) : Names := (g.entries.lookup node).getD []

theorem nodes_addNode (g : Graph) (node : String) :
    (g.addNode node).nodes = if node ∈ g.nodes then g.nodes else g.nodes ++ [node] := by
  unfold addNode
  split
  · rfl
  · exact List.map_append

@[simp] theorem mem_nodes_addNode {other : String} :
    other ∈ (g.addNode node).nodes ↔ other = node ∨ other ∈ g.nodes := by
  rw [nodes_addNode]
  split
  · next h => exact (or_iff_right_of_imp fun heq => heq ▸ h).symm
  · rw [List.mem_append, List.mem_singleton, or_comm]

theorem lookup_eq_none_iff : g.entries.lookup node = none ↔ node ∉ g.nodes := by
  simp only [List.lookup_eq_none_iff, nodes, List.mem_map, bne_iff_ne, ne_eq, not_exists, not_and,
    @eq_comm _ node]

@[simp] theorem successors_addNode (g : Graph) (node : String) :
    (g.addNode node).successors = g.successors := by
  funext other
  unfold addNode
  split
  · rfl
  · next h =>
    rw [successors, successors, List.lookup_append]
    by_cases heq : other = node
    · subst heq
      rw [lookup_eq_none_iff.2 h]
      simp
    · have hne : (other == node) = false := by simpa using heq
      simp [List.lookup_cons, hne]

/-- What is looked up when one entry was changed. -/
theorem lookup_modify_idxOf {entries : List (String × Names)} (f : Names → Names)
    (h : a ∈ entries.map (·.1)) (b : String) :
    (entries.modify ((entries.map (·.1)).idxOf a) fun e => (e.1, f e.2)).lookup b =
      if b = a then (entries.lookup a).map f else entries.lookup b := by
  induction entries with
  | nil => exact absurd h List.not_mem_nil
  | cons e entries ih =>
    obtain ⟨k, names⟩ := e
    by_cases hk : k = a
    · subst hk
      by_cases hb : b = k
      · simp [hb]
      · have hne : (b == k) = false := by simpa using hb
        simp [hb, List.lookup_cons, hne]
    · have hin : a ∈ entries.map (·.1) := (List.mem_cons.1 h).resolve_left (Ne.symm hk)
      have hka : (k == a) = false := by simpa using hk
      have hak : (a == k) = false := by simpa using Ne.symm hk
      rw [List.map_cons, List.idxOf_cons, hka]
      simp only [cond_false, List.modify_succ_cons, List.lookup_cons, hak, ih hin]
      by_cases hbk : b = k
      · subst hbk
        simp [hk]
      · have hne : (b == k) = false := by simpa using hbk
        simp [hne]

theorem nodes_addDependency (g : Graph) (dependent dependency : String) :
    (g.addDependency dependent dependency).nodes =
      ((g.addNode dependency).addNode dependent).nodes := by
  have hfst : ∀ (entries : List (String × Names)) (i : Nat) (f : Names → Names),
      (entries.modify i fun e => (e.1, f e.2)).map (·.1) = entries.map (·.1) := by
    intro entries i f
    induction entries generalizing i with
    | nil => simp
    | cons e entries ih => cases i <;> simp [ih]
  exact hfst _ _ _

/-- The ends of a dependency become nodes. -/
@[simp] theorem mem_nodes_addDependency {dependent dependency other : String} :
    other ∈ (g.addDependency dependent dependency).nodes ↔
      other = dependent ∨ other = dependency ∨ other ∈ g.nodes := by
  rw [nodes_addDependency, mem_nodes_addNode, mem_nodes_addNode]

/-- **A new dependency is added to those of its dependent**, and nothing else changes. -/
theorem successors_addDependency (g : Graph) (dependent dependency node : String) :
    (g.addDependency dependent dependency).successors node =
      if node = dependent then (g.successors dependent).insert dependency
      else g.successors node := by
  have hs : ((g.addNode dependency).addNode dependent).successors = g.successors := by simp
  have hin : dependent ∈ ((g.addNode dependency).addNode dependent).nodes :=
    mem_nodes_addNode.2 (.inl rfl)
  obtain ⟨names, hnames⟩ := Option.ne_none_iff_exists'.1 (lookup_eq_none_iff.not_left.2 hin)
  rw [← hs, successors, addDependency]
  refine (congrArg (Option.getD · []) (lookup_modify_idxOf (·.insert dependency) hin node)).trans ?_
  split
  · rw [successors, hnames]
    rfl
  · rfl

theorem mem_successors_addDependency {dependent dependency other : String} :
    other ∈ (g.addDependency dependent dependency).successors node ↔
      (node = dependent ∧ other = dependency) ∨ other ∈ g.successors node := by
  rw [successors_addDependency]
  split
  · next h => simp [h]
  · next h => simp [h]

/-! ## Paths -/

/-- `a` depends on `b` directly. -/
def DependsOn (g : Graph) (a b : String) : Prop := b ∈ g.successors a

/-- A path of at least one dependency leads from `a` to `b`. -/
def Reaches (g : Graph) : String → String → Prop := Relation.TransGen g.DependsOn

/-- No path leads from a node back to itself. -/
def Acyclic (g : Graph) : Prop := ∀ a, ¬ g.Reaches a a

/-! ## Well-formed graphs -/

/-- Every node is listed once, and both ends of a dependency are nodes. -/
structure WellFormed (g : Graph) : Prop where
  nodup : g.nodes.Nodup
  closed : ∀ {a b}, g.DependsOn a b → a ∈ g.nodes ∧ b ∈ g.nodes

theorem wellFormed_empty : empty.WellFormed :=
  ⟨List.nodup_nil, fun h => absurd h List.not_mem_nil⟩

namespace WellFormed

theorem addNode (h : g.WellFormed) (node : String) : (g.addNode node).WellFormed := by
  refine ⟨?_, fun {a b} hab => ?_⟩
  · rw [nodes_addNode]
    split
    · exact h.nodup
    · next hn =>
      exact List.nodup_append.2 ⟨h.nodup, List.pairwise_singleton _ _,
        fun x hx y hy hxy => hn (by rwa [← List.mem_singleton.1 hy, ← hxy])⟩
  · rw [DependsOn, successors_addNode] at hab
    have := h.closed hab
    exact ⟨mem_nodes_addNode.2 (.inr this.1), mem_nodes_addNode.2 (.inr this.2)⟩

theorem addDependency (h : g.WellFormed) (dependent dependency : String) :
    (g.addDependency dependent dependency).WellFormed := by
  have hg := (h.addNode dependency).addNode dependent
  refine ⟨nodes_addDependency g _ _ ▸ hg.nodup, fun {a b} hab => ?_⟩
  rcases mem_successors_addDependency.1 hab with ⟨rfl, rfl⟩ | hab
  · exact ⟨mem_nodes_addDependency.2 (.inl rfl), mem_nodes_addDependency.2 (.inr (.inl rfl))⟩
  · have hends := h.closed hab
    exact ⟨mem_nodes_addDependency.2 (.inr (.inr hends.1)),
      mem_nodes_addDependency.2 (.inr (.inr hends.2))⟩

/-- Both ends of a path are nodes. -/
theorem nodes_of_reaches (h : g.WellFormed) (hab : g.Reaches a b) : a ∈ g.nodes ∧ b ∈ g.nodes := by
  induction hab with
  | single hab => exact h.closed hab
  | tail _ hbc ih => exact ⟨ih.1, (h.closed hbc).2⟩

end WellFormed

/-! ## What a walk has not entered -/

/-- The nodes that are not among `seen`. -/
def unvisited (g : Graph) (seen : List String) : List String := g.nodes.filter (· ∉ seen)

/-- Entering more leaves less to enter. -/
theorem length_unvisited_le {seen more : List String} (h : ∀ x ∈ seen, x ∈ more) :
    (g.unvisited more).length ≤ (g.unvisited seen).length := by
  refine (List.monotone_filter_right g.nodes fun x hx => ?_).length_le
  simp only [decide_eq_true_eq] at hx ⊢
  exact fun hs => hx (h x hs)

/-- Entering a new node leaves strictly less to enter. -/
theorem length_unvisited_lt {seen more : List String} (h : ∀ x ∈ seen, x ∈ more)
    (hnode : node ∈ g.nodes) (hnew : node ∉ seen) (hin : node ∈ more) :
    (g.unvisited more).length < (g.unvisited seen).length := by
  have hfilter : g.unvisited more = (g.unvisited seen).filter (· ∉ more) := by
    rw [unvisited, unvisited, List.filter_filter]
    refine List.filter_congr fun x _ => ?_
    by_cases hx : x ∈ more
    · simp [hx]
    · have hs : x ∉ seen := fun hs => hx (h x hs)
      simp [hx, hs]
  rw [hfilter, List.length_filter_lt_length_iff_exists]
  exact ⟨node, List.mem_filter.2 ⟨hnode, by simpa using hnew⟩, by simpa using hin⟩

theorem length_unvisited_le_nodes (seen : List String) :
    (g.unvisited seen).length ≤ g.nodes.length := List.length_filter_le _ _

end InterfaceGen.Graph
