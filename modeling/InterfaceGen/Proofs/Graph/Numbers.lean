import InterfaceGen.Proofs.Graph.Reach

/-!
# Proofs/Graph/Numbers — a walk by numbers is a walk by names

The walks mark nodes by their numbers. Beside each of them stands the same walk on the names of the
nodes, which keeps lists of names in place of marks and reads no number. What the one knows is what
the other knows, with the names numbered (`byNumber`), and a step of the one is a step of the other;
so two graphs that number their nodes differently give the same answers if their names and
dependencies are the same. Main statements: `iterate_takeUp`, `cycles_eq_byName` and
`order_eq_byName`.
-/

namespace InterfaceGen.Graph

variable {g : Graph} {node x y : String} {path front : List String}

/-! ## Numbers and names -/

/-- The nodes in the order of their names. -/
def sortedNodes (g : Graph) : Names := Names.ofList g.nodes

theorem name_indexOf (h : node ∈ g.nodes) : g.name (g.indexOf node) = node := by
  rw [name, indexOf, List.getElem?_idxOf h, Option.getD_some]

theorem indexOf_inj (hx : x ∈ g.nodes) : g.indexOf x = g.indexOf y ↔ x = y := List.idxOf_inj hx

theorem map_name_indexOf (h : ∀ x ∈ path, x ∈ g.nodes) :
    (path.map g.indexOf).map g.name = path := by
  rw [List.map_map]
  exact (List.map_congr_left fun x hx => name_indexOf (h x hx)).trans (List.map_id path)

theorem filterMap_number? {names : Names} (h : ∀ x ∈ names, x ∈ g.nodes) :
    names.filterMap g.number? = names.map g.indexOf := by
  rw [← List.filterMap_eq_map]
  exact List.filterMap_congr fun x hx => if_pos (h x hx)

theorem numbers_eq (g : Graph) : g.numbers = g.sortedNodes.map g.indexOf :=
  filterMap_number? fun _ hx => Names.mem_ofList.1 hx

theorem dependencies_indexOf (h : node ∈ g.nodes) :
    g.dependencies (g.indexOf node) = g.successors node := by
  obtain ⟨entries⟩ := g
  simp only [dependencies, indexOf, nodes, successors]
  refine congrArg (Option.getD · []) ?_
  induction entries with
  | nil => rfl
  | cons e entries ih =>
    obtain ⟨k, names⟩ := e
    by_cases hk : k = node
    · subst hk
      simp
    · have hkn : (k == node) = false := by simpa using hk
      have hnk : (node == k) = false := by simpa using Ne.symm hk
      have hin := (List.mem_cons.1 h).resolve_left (Ne.symm hk)
      simpa [List.idxOf_cons, hkn, List.lookup_cons, hnk] using ih hin

/-- **The dependencies of a node are followed by their numbers**, in the order of their names. -/
theorem next_indexOf (h : g.WellFormed) (hnode : node ∈ g.nodes) :
    g.next (g.indexOf node) = (g.successors node).map g.indexOf := by
  rw [next, dependencies_indexOf hnode]
  exact filterMap_number? fun x hx => (h.closed hx).2

/-- What is noted of a node stands at its number… -/
theorem getElem?_map_indexOf {α : Type} (note : String → α) (h : node ∈ g.nodes) :
    (g.nodes.map note)[g.indexOf node]? = some (note node) := by
  rw [List.getElem?_map, indexOf, List.getElem?_idxOf h, Option.map_some]

/-- …and is changed there. -/
theorem set_map_indexOf {α : Type} {note note' : String → α} (h : g.WellFormed)
    (hnode : node ∈ g.nodes) (hsame : ∀ x, x ≠ node → note x = note' x) {a : α}
    (ha : note' node = a) : (g.nodes.map note).set (g.indexOf node) a = g.nodes.map note' := by
  subst ha
  have hnumber : g.indexOf node < g.nodes.length := List.idxOf_lt_length_of_mem hnode
  refine List.ext_getElem (by simp) fun i hi hi' => ?_
  rw [List.length_map] at hi'
  rw [List.getElem_set, List.getElem_map, List.getElem_map]
  split
  · next heq =>
    subst heq
    exact congrArg note' (List.getElem_idxOf hnumber).symm
  · next hne =>
    refine hsame _ fun heq => hne ?_
    rw [← heq]
    exact h.nodup.idxOf_getElem i hi'

/-! ## Closures -/

/-- What is known by name while a closure grows: the nodes that were reached, and the nodes that are
pending, the next one first. -/
structure Known where
  reached : Names
  pending : List String

/-- Takes up the next pending node by its name. -/
def learn (g : Graph) : Known → Known
  | ⟨reached, []⟩ => ⟨reached, []⟩
  | ⟨reached, node :: pending⟩ =>
    if node ∈ reached then ⟨reached, pending⟩
    else ⟨reached.insert node, (g.successors node).reverse ++ pending⟩

/-- What is known, with the nodes numbered. -/
def Known.byNumber (g : Graph) (k : Known) : Worklist :=
  ⟨g.nodes.map fun x => decide (x ∈ k.reached), k.reached, k.pending.map g.indexOf⟩

/-- What a closure starts with, by name. -/
def setOut (g : Graph) (node : String) : Known := ⟨[], (g.successors node).reverse⟩

variable {k : Known}

theorem start_eq_byNumber (h : g.WellFormed) (node : String) :
    g.start node = (g.setOut node).byNumber g := by
  have hseen : List.replicate g.nodes.length false =
      g.nodes.map fun x => decide (x ∈ (g.setOut node).reached) := by
    simp [setOut]
  have hpending : (((g.number? node).map g.next).getD []).reverse =
      (g.setOut node).pending.map g.indexOf := by
    rw [setOut, List.map_reverse, number?]
    split
    · next hnode => rw [← next_indexOf h hnode, Option.map_some, Option.getD_some, indexOf]
    · next hnew => rw [successors, lookup_eq_none_iff.2 hnew]; rfl
  rw [start, hseen, hpending]
  rfl

theorem mem_nodes_of_mem_learn (h : g.WellFormed) (hk : ∀ x ∈ k.pending, x ∈ g.nodes) :
    ∀ x ∈ (g.learn k).pending, x ∈ g.nodes := by
  obtain ⟨reached, pending⟩ := k
  cases pending with
  | nil => exact hk
  | cons node pending =>
    obtain ⟨-, hrest⟩ := List.forall_mem_cons.1 hk
    rw [learn]
    split
    · exact hrest
    · exact List.forall_mem_append.2 ⟨fun x hx => (h.closed (List.mem_reverse.1 hx)).2, hrest⟩

/-- **A node is taken up by its number as it is by its name.** -/
theorem takeUp_byNumber (h : g.WellFormed) (hk : ∀ x ∈ k.pending, x ∈ g.nodes) :
    g.takeUp (k.byNumber g) = (g.learn k).byNumber g := by
  obtain ⟨reached, pending⟩ := k
  cases pending with
  | nil => rfl
  | cons node pending =>
    have hnode : node ∈ g.nodes := hk node List.mem_cons_self
    have hseen := getElem?_map_indexOf (fun x => decide (x ∈ reached)) hnode
    by_cases hin : node ∈ reached
    · rw [decide_eq_true hin] at hseen
      simp only [Known.byNumber, List.map_cons, takeUp, hseen, learn, if_pos hin,
        Option.some.injEq, reduceCtorEq, if_false]
    · rw [decide_eq_false hin] at hseen
      have hset : (g.nodes.map fun x => decide (x ∈ reached)).set (g.indexOf node) true =
          g.nodes.map fun x => decide (x ∈ reached.insert node) :=
        set_map_indexOf h hnode (fun x hx => by simp [hx]) (by simp)
      simp only [Known.byNumber, List.map_cons, takeUp, hseen, learn, if_neg hin, if_true, hset,
        name_indexOf hnode, next_indexOf h hnode, List.map_append, List.map_reverse]

/-- **So is one after the other.** -/
theorem iterate_takeUp (h : g.WellFormed) (hk : ∀ x ∈ k.pending, x ∈ g.nodes) (rounds : Nat) :
    g.takeUp^[rounds] (k.byNumber g) = (g.learn^[rounds] k).byNumber g := by
  induction rounds generalizing k with
  | zero => rfl
  | succ rounds ih =>
    rw [Function.iterate_succ_apply, Function.iterate_succ_apply, takeUp_byNumber h hk,
      ih (mem_nodes_of_mem_learn h hk)]

/-! ## Searches for cycles -/

/-- What a search for cycles knows by name: the nodes it has left, and the cycles it found. -/
structure Search where
  done : List String
  cycles : List (List String)

/-- Visits a node from the nodes on `path`, the last one first. A dependency on the path closes a
cycle. -/
def searchFrom (g : Graph) : Nat → List String → Search → String → Search
  | 0, _, s, _ => s
  | fuel + 1, path, s, node =>
    let path := node :: path
    let s := (g.successors node).foldl
      (fun s next =>
        if next ∈ path then
          let members := ((path.takeWhile (· ≠ next)) ++ [next]).reverse
          { s with cycles := insertCycle (rotate members) s.cycles }
        else if next ∈ s.done then s
        else g.searchFrom fuel path s next) s
    { s with done := node :: s.done }

/-- The cycles that a search by name closes. -/
def cyclesByName (g : Graph) : List (List String) :=
  (g.sortedNodes.foldl
    (fun s node => if node ∈ s.done then s else g.searchFrom (g.nodes.length + 1) [] s node)
    ⟨[], []⟩).cycles

/-- The mark of a node, where those on `path` are entered and those in `done` are left. -/
def markOf (path done : List String) (node : String) : Mark :=
  if node ∈ path then .onStack else if node ∈ done then .done else .unvisited

/-- A node that is marked as entered is on the path… -/
theorem set_onStack (h : g.WellFormed) (hnode : node ∈ g.nodes) (path done : List String) :
    (g.nodes.map (markOf path done)).set (g.indexOf node) .onStack =
      g.nodes.map (markOf (node :: path) done) :=
  set_map_indexOf h hnode (fun x hx => by simp [markOf, hx]) (by simp [markOf])

/-- …and off it again when it is marked as left. -/
theorem set_done (h : g.WellFormed) (hnode : node ∈ g.nodes) (hoff : node ∉ path)
    (done : List String) :
    (g.nodes.map (markOf (node :: path) done)).set (g.indexOf node) .done =
      g.nodes.map (markOf path (node :: done)) :=
  set_map_indexOf h hnode (fun x hx => by simp [markOf, hx]) (by simp [markOf, hoff])

/-- What a search knows on a path, with the nodes numbered. -/
def Search.byNumber (g : Graph) (path : List String) (s : Search) : CycleSearch :=
  ⟨g.nodes.map (markOf path s.done), s.cycles⟩

variable {s : Search}

/-- The nodes on the stack from a node on are those on the path. -/
theorem map_name_takeWhile (hpath : ∀ x ∈ path, x ∈ g.nodes) (hnode : node ∈ g.nodes) :
    ((path.map g.indexOf).takeWhile (· ≠ g.indexOf node) ++ [g.indexOf node]).reverse.map g.name =
      (path.takeWhile (· ≠ node) ++ [node]).reverse := by
  have hwhile : (path.map g.indexOf).takeWhile (· ≠ g.indexOf node) =
      (path.takeWhile (· ≠ node)).map g.indexOf := by
    induction path with
    | nil => rfl
    | cons x path ih =>
      obtain ⟨hx, hrest⟩ := List.forall_mem_cons.1 hpath
      by_cases heq : x = node
      · simp [heq]
      · simpa [heq, indexOf_inj hx] using ih hrest
  have hfront : ∀ x ∈ path.takeWhile (· ≠ node) ++ [node], x ∈ g.nodes :=
    List.forall_mem_append.2 ⟨fun x hx => hpath x ((List.takeWhile_prefix _).mem hx),
      List.forall_mem_singleton.2 hnode⟩
  rw [hwhile, ← List.map_singleton, ← List.map_append, ← List.map_reverse,
    map_name_indexOf fun x hx => hfront x (List.mem_reverse.1 hx)]

/-- **A search visits a node by its number as it does by its name** — by induction on the fuel, and
on the dependencies. -/
theorem visitForCycles_byNumber (h : g.WellFormed) (fuel : Nat) (path : List String) (s : Search)
    (node : String) (hpath : ∀ x ∈ path, x ∈ g.nodes) (hnode : node ∈ g.nodes)
    (hoff : node ∉ path) :
    g.visitForCycles fuel (path.map g.indexOf) (s.byNumber g path) (g.indexOf node) =
      (g.searchFrom fuel path s node).byNumber g path := by
  induction fuel generalizing path s node with
  | zero => rfl
  | succ fuel ih =>
    have hon : ∀ x ∈ node :: path, x ∈ g.nodes := List.forall_mem_cons.2 ⟨hnode, hpath⟩
    have hleave : ∀ {v : CycleSearch} {s' : Search}, v = s'.byNumber g (node :: path) →
        { v with marks := v.marks.set (g.indexOf node) .done } =
          Search.byNumber g path { s' with done := node :: s'.done } := by
      rintro _ s' rfl
      exact congrArg (CycleSearch.mk · s'.cycles) (set_done h hnode hoff s'.done)
    simp only [visitForCycles, searchFrom, next_indexOf h hnode, List.foldl_map]
    refine hleave (List.foldl_rel (r := fun v (s' : Search) => v = s'.byNumber g (node :: path))
      ?_ ?_)
    · exact congrArg (CycleSearch.mk · s.cycles) (set_onStack h hnode path s.done)
    · rintro next hdep _ s' rfl
      have hnext : next ∈ g.nodes := (h.closed hdep).2
      have hmark : (s'.byNumber g (node :: path)).marks[g.indexOf next]? =
          some (markOf (node :: path) s'.done next) := getElem?_map_indexOf _ hnext
      rw [hmark, markOf]
      by_cases hback : next ∈ node :: path
      · simp only [if_pos hback]
        rw [← List.map_cons, map_name_takeWhile hon hnext]
        rfl
      · by_cases hdone : next ∈ s'.done
        · simp only [if_neg hback, if_pos hdone]
        · simp only [if_neg hback, if_neg hdone]
          exact ih (node :: path) s' next hon hnext hback

/-- **The cycles that are found by numbers are those that are found by names.** -/
theorem cycles_eq_byName (h : g.WellFormed) : g.cycles = g.cyclesByName := by
  have hstart : (⟨g.unmarked, []⟩ : CycleSearch) = Search.byNumber g [] ⟨[], []⟩ := by
    have hunmarked : g.unmarked = g.nodes.map (markOf [] []) := (List.map_const').symm
    rw [hunmarked]
    rfl
  have hcycles : ∀ {v : CycleSearch} {s : Search}, v = s.byNumber g [] → v.cycles = s.cycles := by
    rintro _ s rfl
    rfl
  rw [cycles, cyclesByName, numbers_eq, List.foldl_map]
  refine hcycles (List.foldl_rel (r := fun v (s : Search) => v = s.byNumber g []) hstart ?_)
  rintro node hin _ s rfl
  have hnode : node ∈ g.nodes := Names.mem_ofList.1 hin
  have hmark : (s.byNumber g []).marks[g.indexOf node]? = some (markOf [] s.done node) :=
    getElem?_map_indexOf _ hnode
  by_cases hdone : node ∈ s.done
  · simp [hmark, markOf, hdone]
  · simp only [hmark, markOf, List.not_mem_nil, if_neg hdone, if_true, if_false]
    exact visitForCycles_byNumber h _ [] s node (fun _ hx => absurd hx List.not_mem_nil) hnode
      List.not_mem_nil

/-! ## Orders -/

/-- What an ordering walk knows by name: the nodes it has entered, and those it has left, last
first. -/
structure Walk where
  entered : List String
  left : List String

/-- Enters a node, if it was not entered before, and leaves it after its dependencies. -/
def walkFrom (g : Graph) : Nat → Walk → String → Walk
  | 0, w, _ => w
  | fuel + 1, w, node =>
    if node ∈ w.entered then w
    else
      let w := (g.successors node).foldl (g.walkFrom fuel) { w with entered := node :: w.entered }
      { w with left := node :: w.left }

/-- The nodes in the order in which a walk by name leaves them. -/
def orderByName (g : Graph) : List String :=
  (g.sortedNodes.foldl (g.walkFrom (g.nodes.length + 1)) ⟨[], []⟩).left.reverse

/-- A walk by numbers knows what a walk by names does: the nodes that are unvisited are those that
were not entered. Whether they are on the stack or done makes no difference to it. -/
structure Walk.Numbered (g : Graph) (v : OrderWalk) (w : Walk) : Prop where
  marks : v.marks.map (decide <| · = .unvisited) = g.nodes.map fun x => decide (x ∉ w.entered)
  left : v.left = w.left

variable {v : OrderWalk} {w : Walk}

theorem Walk.Numbered.unvisited_iff (hw : w.Numbered g v) (hnode : node ∈ g.nodes) :
    v.marks[g.indexOf node]? = some .unvisited ↔ node ∉ w.entered := by
  have hmark := congrArg (·[g.indexOf node]?) hw.marks
  simp only [getElem?_map_indexOf _ hnode, List.getElem?_map, Option.map_eq_some_iff,
    decide_eq_decide] at hmark
  obtain ⟨mark, hmark, hiff⟩ := hmark
  rw [hmark, Option.some.injEq, hiff]

/-- Whatever else a node is marked with, it is entered from then on. -/
theorem Walk.Numbered.marks_set (h : g.WellFormed) (hw : w.Numbered g v) (hnode : node ∈ g.nodes)
    {mark : Mark} (hmark : mark ≠ .unvisited) :
    (v.marks.set (g.indexOf node) mark).map (decide <| · = .unvisited) =
      g.nodes.map fun x => decide (x ∉ node :: w.entered) := by
  rw [List.map_set, hw.marks]
  exact set_map_indexOf h hnode (fun x hx => by simp [hx]) (by simp [hmark])

/-- What was entered stays entered. -/
theorem mem_entered_walkFrom (fuel : Nat) (node : String) (hx : x ∈ w.entered) :
    x ∈ (g.walkFrom fuel w node).entered := by
  induction fuel generalizing w node with
  | zero => exact hx
  | succ fuel ih =>
    simp only [walkFrom]
    split
    · exact hx
    · exact List.foldlRecOn (motive := fun w : Walk => x ∈ w.entered) _ _
        (List.mem_cons_of_mem _ hx) fun w hw next _ => ih next hw

/-- **A walk visits a node by its number as it does by its name** — by induction on the fuel, and on
the dependencies. -/
theorem visitForOrder_byNumber (h : g.WellFormed) (fuel : Nat) (hw : w.Numbered g v)
    (hnode : node ∈ g.nodes) :
    (g.walkFrom fuel w node).Numbered g (g.visitForOrder fuel v (g.indexOf node)) := by
  induction fuel generalizing v w node with
  | zero => exact hw
  | succ fuel ih =>
    simp only [visitForOrder, walkFrom, hw.unvisited_iff hnode]
    by_cases hin : node ∈ w.entered
    · rwa [if_neg (not_not_intro hin), if_pos hin]
    · rw [if_pos hin, if_neg hin, next_indexOf h hnode, List.foldl_map]
      have henter : Walk.Numbered g { v with marks := v.marks.set (g.indexOf node) .onStack }
          { w with entered := node :: w.entered } := ⟨hw.marks_set h hnode (by decide), hw.left⟩
      have hfold := List.foldl_rel (l := g.successors node)
        (f := fun v x => g.visitForOrder fuel v (g.indexOf x)) (g := g.walkFrom fuel)
        (r := fun v w => Walk.Numbered g v w ∧ node ∈ w.entered) ⟨henter, List.mem_cons_self⟩
        fun next hdep v w hw =>
          ⟨ih hw.1 (h.closed hdep).2, mem_entered_walkFrom fuel next hw.2⟩
      obtain ⟨hw', hentered⟩ := hfold
      refine ⟨(hw'.marks_set h hnode (by decide)).trans ?_, ?_⟩
      · refine List.map_congr_left fun x _ => ?_
        by_cases hx : x = node
        · simp [hx, hentered]
        · simp [hx]
      · exact congrArg₂ _ (name_indexOf hnode) hw'.left

/-- **The order that is found by numbers is the one that is found by names.** -/
theorem order_eq_byName (h : g.WellFormed) : g.order = g.orderByName := by
  have hstart : Walk.Numbered g ⟨g.unmarked, []⟩ ⟨[], []⟩ := ⟨by simp [unmarked], rfl⟩
  rw [order, orderByName, numbers_eq, List.foldl_map]
  refine congrArg List.reverse (Walk.Numbered.left (g := g) ?_)
  exact List.foldl_rel (r := Walk.Numbered g) hstart fun node hin v w hw =>
    visitForOrder_byNumber h _ hw (Names.mem_ofList.1 hin)

end InterfaceGen.Graph
