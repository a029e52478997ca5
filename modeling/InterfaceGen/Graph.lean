import InterfaceGen.Table

/-!
# Graph — dependencies between named nodes, their closure, cycles and order

A node is numbered when it is first added, and a walk marks nodes by their numbers. It looks at
nodes and dependencies in the order of their names, so closures, cycles and orders depend on the
dependencies alone and not on the order in which they were added. No walk enters a node twice: a
closure ends because each node makes its dependencies pending only once, and the other walks are
bounded by the number of nodes.
-/

namespace InterfaceGen

/-- A directed graph of dependencies. -/
structure Graph where
  /-- The nodes in the order in which they were added, each with the names of its dependencies. -/
  entries : List (String × Names)
  deriving Repr, DecidableEq

namespace Graph

/-! ## Building -/

def empty : Graph := ⟨[]⟩

/-- The nodes, in the order in which they were added. -/
def nodes (g : Graph) : List String := g.entries.map (·.1)

/-- The number of a node, counted from zero. -/
def indexOf (g : Graph) (node : String) : Nat := g.nodes.idxOf node

/-- The number of a name, if it is a node. -/
def number? (g : Graph) (name : String) : Option Nat :=
  if name ∈ g.nodes then some (g.indexOf name) else none

/-- The node with a number. -/
def name (g : Graph) (i : Nat) : String := g.nodes[i]?.getD ""

/-- Adds a node, if it is new. -/
def addNode (g : Graph) (node : String) : Graph :=
  if node ∈ g.nodes then g else ⟨g.entries ++ [(node, [])]⟩

/-- Records that `dependent` depends on `dependency`; both become nodes. -/
def addDependency (g : Graph) (dependent dependency : String) : Graph :=
  let g := (g.addNode dependency).addNode dependent
  ⟨g.entries.modify (g.indexOf dependent) fun e => (e.1, e.2.insert dependency)⟩

/-- The names of the dependencies of a node, by its number. -/
def dependencies (g : Graph) (i : Nat) : Names := (g.entries[i]?.map (·.2)).getD []

/-- The numbers of the dependencies of a node, in the order of their names. -/
def next (g : Graph) (i : Nat) : List Nat := (g.dependencies i).filterMap g.number?

/-- The numbers of the nodes, in the order of their names. -/
def numbers (g : Graph) : List Nat := (Names.ofList g.nodes).filterMap g.number?

/-! ## Closure -/

/-- What is known while a closure grows: whether the node with each number was reached, the nodes
that were, and the numbers that are pending, the next one first. -/
structure Worklist where
  seen : List Bool
  reached : Names
  pending : List Nat
  deriving Repr, DecidableEq

/-- Takes up the next pending node. If it is new, it is reached, and its dependencies are pending
before all others, the last one first. -/
def takeUp (g : Graph) : Worklist → Worklist
  | ⟨seen, reached, []⟩ => ⟨seen, reached, []⟩
  | ⟨seen, reached, i :: pending⟩ =>
    if seen[i]? = some false then
      ⟨seen.set i true, reached.insert (g.name i), (g.next i).reverse ++ pending⟩
    else ⟨seen, reached, pending⟩

/-- How many dependencies there are of nodes that were not reached. -/
def unspent : List Bool → List (String × Names) → Nat
  | seen :: rest, e :: entries => (if seen then 0 else e.2.length) + unspent rest entries
  | _, _ => 0

/-- How many nodes are taken up at most: those that are pending, and those that each node makes
pending when it is reached. -/
def work (g : Graph) (w : Worklist) : Nat := w.pending.length + unspent w.seen g.entries

/-- **A node that is reached has spent its dependencies.** -/
theorem unspent_set {seen : List Bool} {i : Nat} (hnew : seen[i]? = some false)
    (entries : List (String × Names)) : unspent (seen.set i true) entries +
      ((entries[i]?.map (·.2)).getD []).length = unspent seen entries := by
  induction seen generalizing i entries with
  | nil => simp at hnew
  | cons b seen ih =>
    cases entries with
    | nil => simp [unspent]
    | cons e entries =>
      cases i with
      | zero =>
        obtain rfl : b = false := by simpa using hnew
        simp [unspent, Nat.add_comm]
      | succ i =>
        have hrest := ih (by simpa using hnew) entries
        simp only [List.set_cons_succ, unspent, List.getElem?_cons_succ]
        omega

theorem length_next_le (g : Graph) (i : Nat) : (g.next i).length ≤ (g.dependencies i).length :=
  List.length_filterMap_le _ _

/-- **A node that is taken up leaves less to do.** -/
theorem work_takeUp_lt {g : Graph} {w : Worklist} (h : w.pending ≠ []) :
    g.work (g.takeUp w) < g.work w := by
  obtain ⟨seen, reached, pending⟩ := w
  cases pending with
  | nil => exact absurd rfl h
  | cons i pending =>
    simp only [takeUp]
    split
    · next hnew =>
      have hspent := unspent_set hnew g.entries
      have hnext := g.length_next_le i
      rw [dependencies] at hnext
      simp only [work, List.length_append, List.length_reverse, List.length_cons]
      omega
    · simp [work]

/-- Takes up pending nodes until there are none. -/
def exhaust (g : Graph) (w : Worklist) : Names :=
  if w.pending = [] then w.reached else g.exhaust (g.takeUp w)
  termination_by g.work w
  decreasing_by exact work_takeUp_lt ‹_›

/-- What a closure starts with: no node was reached, and the dependencies of its node are pending,
the last one first. -/
def start (g : Graph) (node : String) : Worklist :=
  ⟨List.replicate g.nodes.length false, [], (((g.number? node).map g.next).getD []).reverse⟩

/-- The nodes reached from `node` along one dependency or more. -/
def closure (g : Graph) (node : String) : Names := g.exhaust (g.start node)

/-! ## Marks -/

/-- How far a walk has got with a node. -/
inductive Mark where
  | unvisited
  | onStack
  | done
  deriving Repr, DecidableEq

/-- The marks of nodes of which none is visited. -/
def unmarked (g : Graph) : List Mark := List.replicate g.nodes.length .unvisited

/-! ## Cycles -/

/-- Adds a list to a sorted list of lists. -/
def insertCycle (cycle : List String) : List (List String) → List (List String)
  | [] => [cycle]
  | c :: rest =>
    if cycle = c then c :: rest
    else if cycle < c then cycle :: c :: rest
    else c :: insertCycle cycle rest

/-- The least of some names. -/
def least : String → List String → String
  | n, [] => n
  | n, m :: rest => if m < n then least m rest else least n rest

/-- A cycle turned so that its least member comes first. -/
def rotate : List String → List String
  | [] => []
  | n :: rest =>
    let first := least n rest
    let cycle := n :: rest
    cycle.dropWhile (· ≠ first) ++ cycle.takeWhile (· ≠ first)

/-- What a search for cycles knows: the marks of the nodes by their numbers, and the cycles it
found. -/
structure CycleSearch where
  marks : List Mark
  cycles : List (List String)

/-- Visits a node from the nodes on `stack`, the last one first. A dependency on the stack closes a
cycle. -/
def visitForCycles (g : Graph) : Nat → List Nat → CycleSearch → Nat → CycleSearch
  | 0, _, s, _ => s
  | fuel + 1, stack, s, i =>
    let stack := i :: stack
    let s := (g.next i).foldl
      (fun s j =>
        match s.marks[j]? with
        | some .unvisited => g.visitForCycles fuel stack s j
        | some .onStack =>
          let members := (stack.takeWhile (· ≠ j) ++ [j]).reverse.map g.name
          { s with cycles := insertCycle (rotate members) s.cycles }
        | _ => s) { s with marks := s.marks.set i .onStack }
    { s with marks := s.marks.set i .done }

/-- The cycles that a depth-first walk closes, each once, in order; every one starts with its least
member, and each member depends on the next. -/
def cycles (g : Graph) : List (List String) :=
  (g.numbers.foldl
    (fun s i =>
      if s.marks[i]? = some .unvisited then g.visitForCycles (g.nodes.length + 1) [] s i else s)
    ⟨g.unmarked, []⟩).cycles

/-! ## Order -/

/-- What an ordering walk knows: the marks of the nodes by their numbers, and the nodes it has left,
last first. -/
structure OrderWalk where
  marks : List Mark
  left : List String

/-- Visits a node after its dependencies. -/
def visitForOrder (g : Graph) : Nat → OrderWalk → Nat → OrderWalk
  | 0, w, _ => w
  | fuel + 1, w, i =>
    if w.marks[i]? = some .unvisited then
      let w := (g.next i).foldl (g.visitForOrder fuel) { w with marks := w.marks.set i .onStack }
      ⟨w.marks.set i .done, g.name i :: w.left⟩
    else w

/-- The nodes, each after its dependencies as far as no cycle prevents it. -/
def order (g : Graph) : List String :=
  (g.numbers.foldl (g.visitForOrder (g.nodes.length + 1)) ⟨g.unmarked, []⟩).left.reverse

end Graph

end InterfaceGen
