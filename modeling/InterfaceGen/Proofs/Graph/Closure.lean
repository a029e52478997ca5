import InterfaceGen.Proofs.Graph.Numbers
import Mathlib.Algebra.GroupWithZero.Nat

/-!
# Proofs/Graph/Closure — a closure is what its node reaches

While a closure grows it knows only what its node reaches, and once nothing is pending it knows all
of that (`Grown`). It makes the dependencies of a node pending once, and those of the node it starts
from perhaps twice, so it takes up no more nodes than there are dependencies twice over. Main
statements: `mem_closure_iff`, `exists_iterate_start` and `work_start_le`.
-/

namespace InterfaceGen

/-- Adding a name adds one member at most. -/
theorem Names.length_insert_le (name : String) (s : Names) :
    (s.insert name).length ≤ s.length + 1 := by
  induction s with
  | nil => exact Nat.le_refl _
  | cons n s ih =>
    simp only [Names.insert]
    split
    · exact Nat.le_succ _
    · split
      · exact Nat.le_refl _
      · exact Nat.succ_le_succ ih

namespace Graph

variable {g : Graph} {a b node : String}

/-! ## Growth -/

/-- The node was reached or is pending. -/
def Known.Knows (k : Known) (x : String) : Prop := x ∈ k.reached ∨ x ∈ k.pending

/-- The closure has grown from `node`: it knows only what the node reaches, and it knows the
dependencies of the node and of all that was reached. -/
structure Grown (g : Graph) (node : String) (k : Known) : Prop where
  sorted : k.reached.Sorted
  sound : ∀ x, k.Knows x → g.Reaches node x
  closed : ∀ x, x = node ∨ x ∈ k.reached → ∀ y, g.DependsOn x y → k.Knows y

theorem grown_setOut (g : Graph) (node : String) : g.Grown node (g.setOut node) where
  sorted := List.Pairwise.nil
  sound x hx := .single (List.mem_reverse.1 (hx.resolve_left List.not_mem_nil))
  closed x hx y hxy := by
    obtain rfl := hx.resolve_right List.not_mem_nil
    exact .inr (List.mem_reverse.2 hxy)

/-- A node that was reached before is only taken off. -/
theorem Grown.skip {next : String} {reached : Names} {pending : List String}
    (h : g.Grown node ⟨reached, next :: pending⟩) (hold : next ∈ reached) :
    g.Grown node ⟨reached, pending⟩ where
  sorted := h.sorted
  sound x hx := h.sound x (hx.imp_right (List.mem_cons_of_mem _))
  closed x hx y hxy := by
    rcases h.closed x hx y hxy with hy | hy
    · exact .inl hy
    · rcases List.mem_cons.1 hy with rfl | hy
      · exact .inl hold
      · exact .inr hy

/-- A new node is reached, and its dependencies are known from now on. -/
theorem Grown.enter {next : String} {reached : Names} {pending : List String}
    (h : g.Grown node ⟨reached, next :: pending⟩) :
    g.Grown node ⟨reached.insert next, (g.successors next).reverse ++ pending⟩ := by
  have hkeeps : ∀ y, Known.Knows ⟨reached, next :: pending⟩ y →
      Known.Knows ⟨reached.insert next, (g.successors next).reverse ++ pending⟩ y := by
    rintro y (hy | hy)
    · exact .inl (Names.mem_insert.2 (.inr hy))
    · rcases List.mem_cons.1 hy with rfl | hy
      · exact .inl (Names.mem_insert.2 (.inl rfl))
      · exact .inr (List.mem_append_right _ hy)
  have hnext : g.Reaches node next := h.sound next (.inr List.mem_cons_self)
  refine ⟨h.sorted.insert next, ?_, ?_⟩
  · rintro x (hx | hx)
    · rcases Names.mem_insert.1 hx with rfl | hx
      · exact hnext
      · exact h.sound x (.inl hx)
    · rcases List.mem_append.1 hx with hx | hx
      · exact .tail hnext (List.mem_reverse.1 hx)
      · exact h.sound x (.inr (List.mem_cons_of_mem _ hx))
  · rintro x (hx | hx) y hxy
    · exact hkeeps y (h.closed x (.inl hx) y hxy)
    · rcases Names.mem_insert.1 hx with rfl | hx
      · exact .inr (List.mem_append_left _ (List.mem_reverse.2 hxy))
      · exact hkeeps y (h.closed x (.inr hx) y hxy)

/-- **What has grown from a node has still grown from it when a node is taken up.** -/
theorem Grown.learn {k : Known} (h : g.Grown node k) : g.Grown node (g.learn k) := by
  obtain ⟨reached, pending⟩ := k
  cases pending with
  | nil => exact h
  | cons next pending =>
    rw [Graph.learn]
    split
    · next hold => exact h.skip hold
    · exact h.enter

/-- **Nodes are taken up until none is pending**, and no more of them than there is work. -/
theorem exists_iterate_takeUp (g : Graph) (w : Worklist) :
    ∃ rounds ≤ g.work w, ∃ seen, g.takeUp^[rounds] w = ⟨seen, g.exhaust w, []⟩ := by
  induction w using exhaust.induct g with
  | case1 w hnone =>
    refine ⟨0, Nat.zero_le _, w.seen, ?_⟩
    rw [exhaust, if_pos hnone, Function.iterate_zero_apply, ← hnone]
  | case2 w hsome ih =>
    obtain ⟨rounds, hle, seen, hend⟩ := ih
    refine ⟨rounds + 1, Nat.lt_of_le_of_lt hle (work_takeUp_lt hsome), seen, ?_⟩
    rw [Function.iterate_succ_apply, hend, exhaust.eq_1 g w, if_neg hsome]

/-- A closure ends with nothing pending, by number as by name. -/
theorem exists_iterate_start (h : g.WellFormed) (node : String) :
    ∃ rounds ≤ g.work (g.start node), g.learn^[rounds] (g.setOut node) = ⟨g.closure node, []⟩ ∧
      g.takeUp^[rounds] (g.start node) = Known.byNumber g ⟨g.closure node, []⟩ := by
  have hpending : ∀ x ∈ (g.setOut node).pending, x ∈ g.nodes :=
    fun x hx => (h.closed (List.mem_reverse.1 hx)).2
  obtain ⟨rounds, hle, seen, hend⟩ := g.exists_iterate_takeUp (g.start node)
  have hstep : g.takeUp^[rounds] (g.start node) =
      (g.learn^[rounds] (g.setOut node)).byNumber g := by
    rw [start_eq_byNumber h, iterate_takeUp h hpending]
  obtain ⟨-, hreached, hnone⟩ := Worklist.mk.inj (hstep.symm.trans hend)
  have hlearned : g.learn^[rounds] (g.setOut node) = ⟨g.closure node, []⟩ :=
    congrArg₂ Known.mk hreached (List.map_eq_nil_iff.1 hnone)
  exact ⟨rounds, hle, hlearned, hlearned ▸ hstep⟩

/-- The closure has grown from its node, and nothing is pending. -/
theorem grown_closure (h : g.WellFormed) (node : String) : g.Grown node ⟨g.closure node, []⟩ := by
  obtain ⟨rounds, -, hlearned, -⟩ := exists_iterate_start h node
  rw [← hlearned]
  exact Function.Iterate.rec (g.Grown node) (grown_setOut g node) (fun _ h => h.learn) rounds

/-- **The closure of a node is what it reaches by one dependency or more.** -/
theorem mem_closure_iff (h : g.WellFormed) : b ∈ g.closure a ↔ g.Reaches a b := by
  have hgrown := grown_closure h a
  have hknown : ∀ x, Known.Knows ⟨g.closure a, []⟩ x → x ∈ g.closure a :=
    fun x hx => hx.resolve_right List.not_mem_nil
  refine ⟨fun hb => hgrown.sound b (.inl hb), fun hab => ?_⟩
  induction hab with
  | single hab => exact hknown _ (hgrown.closed a (.inl rfl) _ hab)
  | tail _ hbc ih => exact hknown _ (hgrown.closed _ (.inr ih) _ hbc)

theorem sorted_closure (h : g.WellFormed) (a : String) : (g.closure a).Sorted :=
  (grown_closure h a).sorted

theorem nodup_closure (h : g.WellFormed) (a : String) : (g.closure a).Nodup :=
  (sorted_closure h a).imp ne_of_lt

/-! ## The number of dependencies -/

/-- How many dependencies some nodes have in all. -/
def total (entries : List (String × Names)) : Nat := (entries.map (·.2.length)).sum

/-- At the start no dependencies are spent. -/
theorem unspent_replicate (entries : List (String × Names)) :
    unspent (List.replicate entries.length false) entries = total entries := by
  induction entries with
  | nil => rfl
  | cons e entries ih => simpa [List.replicate_succ, unspent, total] using ih

theorem length_getElem?_le_total (entries : List (String × Names)) (i : Nat) :
    ((entries[i]?.map (·.2)).getD []).length ≤ total entries := by
  induction entries generalizing i with
  | nil => simp
  | cons e entries ih =>
    cases i with
    | zero => simp [total]
    | succ i =>
      rw [List.getElem?_cons_succ]
      exact (ih i).trans (Nat.le_add_left _ _)

/-- One more dependency of one node is one more in all. -/
theorem total_modify_le (entries : List (String × Names)) (i : Nat) (dependency : String) :
    total (entries.modify i fun e => (e.1, e.2.insert dependency)) ≤ total entries + 1 := by
  induction entries generalizing i with
  | nil => simp
  | cons e entries ih =>
    cases i with
    | zero =>
      have hone := Names.length_insert_le dependency e.2
      simp only [List.modify_zero_cons, total, List.map_cons, List.sum_cons]
      omega
    | succ i =>
      have hrest := ih i
      simp only [total] at hrest
      simp only [List.modify_succ_cons, total, List.map_cons, List.sum_cons]
      omega

theorem total_addNode (g : Graph) (node : String) :
    total (g.addNode node).entries = total g.entries := by
  unfold addNode
  split
  · rfl
  · simp [total]

/-- A closure starts with no more work than the dependencies twice over. -/
theorem work_start_le (g : Graph) (node : String) :
    g.work (g.start node) ≤ 2 * total g.entries := by
  have hnodes : g.nodes.length = g.entries.length := List.length_map _
  have hpending : (((g.number? node).map g.next).getD []).length ≤ total g.entries := by
    cases g.number? node with
    | none => exact Nat.zero_le _
    | some i => exact (g.length_next_le i).trans (length_getElem?_le_total g.entries i)
  rw [work, start, List.length_reverse, hnodes, unspent_replicate]
  omega

end Graph

end InterfaceGen
