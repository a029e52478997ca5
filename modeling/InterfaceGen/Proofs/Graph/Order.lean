import InterfaceGen.Proofs.Graph.Numbers

/-!
# Proofs/Graph/Order — dependencies come before their dependents

A walk leaves a node after all it depends on, except for a dependency that is still entered — and
such a one reaches the node it waits for. So in the list of the nodes left, last first, each node is
followed by its dependencies unless they reach it (`Settled`). Main statements: `mem_order`,
`nodup_order`, `settled_order` and `idxOf_order_lt`.
-/

namespace InterfaceGen.Graph

variable {g : Graph} {node : String}

/-! ## Settled lists -/

/-- Each node occurs once, and each of its dependencies stands behind it unless it is excused. -/
def Settled (g : Graph) (excused : String → String → Prop) : List String → Prop
  | [] => True
  | x :: rest =>
    x ∉ rest ∧ (∀ y, g.DependsOn x y → y ∈ rest ∨ excused x y) ∧ Settled g excused rest

namespace Settled

variable {excused : String → String → Prop} {l : List String}

theorem nodup (h : g.Settled excused l) : l.Nodup := by
  induction l with
  | nil => exact List.nodup_nil
  | cons x l ih => exact List.nodup_cons.2 ⟨h.1, ih h.2.2⟩

/-- **Every dependency that is not excused stands behind its dependent.** -/
theorem exists_append (h : g.Settled excused l) {x y : String} (hx : x ∈ l)
    (hxy : g.DependsOn x y) (hno : ¬ excused x y) :
    ∃ front back, l = front ++ x :: back ∧ y ∈ back := by
  induction l with
  | nil => exact absurd hx List.not_mem_nil
  | cons a l ih =>
    rcases List.mem_cons.1 hx with rfl | hx
    · exact ⟨[], l, rfl, (h.2.1 y hxy).resolve_right hno⟩
    · obtain ⟨front, back, rfl, hy⟩ := ih h.2.2 hx
      exact ⟨a :: front, back, rfl, hy⟩

/-- The dependencies that are not excused do not lead out of a settled list. -/
theorem mem_of_transGen (h : g.Settled excused l) {x y : String} (hx : x ∈ l)
    (hxy : Relation.TransGen (fun a b => g.DependsOn a b ∧ ¬ excused a b) x y) : y ∈ l := by
  have hstep : ∀ a ∈ l, ∀ b, g.DependsOn a b ∧ ¬ excused a b → b ∈ l := fun a ha b hab => by
    obtain ⟨front, back, rfl, hb⟩ := h.exists_append ha hab.1 hab.2
    exact List.mem_append_right _ (List.mem_cons_of_mem _ hb)
  induction hxy with
  | single hxy => exact hstep x hx _ hxy
  | tail _ hyz ih => exact hstep _ ih _ hyz

/-- **…nor back to a node of it**: the first step leaves the node behind, and nothing that stands
behind it leads back. -/
theorem not_transGen_self (h : g.Settled excused l) {x : String} (hx : x ∈ l) :
    ¬ Relation.TransGen (fun a b => g.DependsOn a b ∧ ¬ excused a b) x x := by
  induction l with
  | nil => exact absurd hx List.not_mem_nil
  | cons a l ih =>
    rcases List.mem_cons.1 hx with rfl | hx
    · intro hxx
      obtain ⟨y, hxy, hyx⟩ := Relation.TransGen.head'_iff.1 hxx
      have hy := (h.2.1 y hxy.1).resolve_right hxy.2
      rcases Relation.reflTransGen_iff_eq_or_transGen.1 hyx with rfl | hyx
      · exact h.1 hy
      · exact h.1 (h.2.2.mem_of_transGen hy hyx)
    · exact ih h.2.2 hx

/-- More may be excused. -/
theorem mono {more : String → String → Prop} (hmore : ∀ a b, excused a b → more a b)
    (h : g.Settled excused l) : g.Settled more l := by
  induction l with
  | nil => trivial
  | cons x l ih => exact ⟨h.1, fun y hy => (h.2.1 y hy).imp_right (hmore x y), ih h.2.2⟩

end Settled

/-! ## Walks -/

/-- The nodes that a walk has entered and not left. -/
def Walk.Open (w : Walk) (x : String) : Prop := x ∈ w.entered ∧ x ∉ w.left

/-- The walk `w` enters the nodes `front` and ends as `w'`: what was left stays left, the open nodes
are the same again, and what was left meanwhile is settled up to cycles. -/
structure Enters (g : Graph) (front : List String) (w w' : Walk) : Prop where
  keeps : ∀ x ∈ w.entered, x ∈ w'.entered
  enters : ∀ x ∈ front, x ∈ w'.entered
  nodes : ∀ x ∈ w'.entered, x ∈ w.entered ∨ x ∈ g.nodes
  sub : ∀ x ∈ w'.left, x ∈ w'.entered
  openIff : ∀ x, w'.Open x ↔ w.Open x
  settled : g.Settled (fun x y => g.Reaches y x) w'.left

/-- What holds of a walk between two steps: it left only what it entered, in a settled order, and
its open nodes reach all of `front`. -/
structure Ready (g : Graph) (front : List String) (w : Walk) : Prop where
  sub : ∀ x ∈ w.left, x ∈ w.entered
  settled : g.Settled (fun x y => g.Reaches y x) w.left
  reaches : ∀ x, w.Open x → ∀ y ∈ front, g.Reaches x y

variable {w w' : Walk} {front : List String}

theorem Ready.enters_nil (h : g.Ready [] w) : g.Enters [] w w :=
  ⟨fun _ hx => hx, fun _ hx => absurd hx List.not_mem_nil, fun _ hx => .inl hx, h.sub,
    fun _ => Iff.rfl, h.settled⟩

/-- After a part of the front the walk is ready for the rest. -/
theorem Enters.ready {done rest : List String} (h : g.Enters done w w')
    (hreach : ∀ x, w.Open x → ∀ y ∈ rest, g.Reaches x y) : g.Ready rest w' :=
  ⟨h.sub, h.settled, fun x hx => hreach x ((h.openIff x).1 hx)⟩

theorem Enters.cons {next : String} {mid : Walk} (h : g.Enters [next] w mid)
    (hrest : g.Enters front mid w') : g.Enters (next :: front) w w' where
  keeps x hx := hrest.keeps x (h.keeps x hx)
  enters y hy := by
    rcases List.mem_cons.1 hy with rfl | hy
    · exact hrest.keeps y (h.enters y (List.mem_singleton.2 rfl))
    · exact hrest.enters y hy
  nodes x hx := (hrest.nodes x hx).elim (h.nodes x) .inr
  sub := hrest.sub
  openIff x := (hrest.openIff x).trans (h.openIff x)
  settled := hrest.settled

/-- A node that was entered before is not entered again. -/
theorem Ready.enters_entered (h : g.Ready front w) (hin : node ∈ w.entered) :
    g.Enters [node] w w :=
  ⟨fun _ hx => hx, fun _ hx => List.mem_singleton.1 hx ▸ hin, fun _ hx => .inl hx, h.sub,
    fun _ => Iff.rfl, h.settled⟩

/-- Once a node is entered, its dependencies are next: the open nodes reach them through it. -/
theorem Ready.enter (h : g.Ready [node] w) :
    g.Ready (g.successors node) { w with entered := node :: w.entered } where
  sub x hx := List.mem_cons_of_mem _ (h.sub x hx)
  settled := h.settled
  reaches x hx y hy := by
    rcases List.mem_cons.1 hx.1 with rfl | hin
    · exact .single hy
    · exact .tail (h.reaches x ⟨hin, hx.2⟩ node (List.mem_singleton.2 rfl)) hy

/-- **When its dependencies are entered, a node is left** — each of them has been left before it or
is open, and the open nodes are those that reach it. -/
theorem Enters.leave (hready : g.Ready [node] w) (hnode : node ∈ g.nodes)
    (hnew : node ∉ w.entered)
    (h : g.Enters (g.successors node) { w with entered := node :: w.entered } w') :
    g.Enters [node] w { w' with left := node :: w'.left } := by
  have hopen : w'.Open node := (h.openIff node).2
    ⟨List.mem_cons_self, fun hl => hnew (hready.sub node hl)⟩
  refine ⟨fun x hx => h.keeps x (List.mem_cons_of_mem _ hx),
    fun x hx => List.mem_singleton.1 hx ▸ hopen.1, fun x hx => ?_, fun x hx => ?_, fun x => ?_,
    hopen.2, fun y hy => ?_, h.settled⟩
  · rcases h.nodes x hx with hx | hx
    · rcases List.mem_cons.1 hx with rfl | hx
      · exact .inr hnode
      · exact .inl hx
    · exact .inr hx
  · rcases List.mem_cons.1 hx with rfl | hx
    · exact hopen.1
    · exact h.sub x hx
  · have hiff := h.openIff x
    simp only [Walk.Open, List.mem_cons, not_or] at hiff ⊢
    constructor
    · rintro ⟨hin, hne, hl⟩
      exact ⟨(hiff.1 ⟨hin, hl⟩).1.resolve_left hne, (hiff.1 ⟨hin, hl⟩).2⟩
    · rintro ⟨hin, hl⟩
      have hback := hiff.2 ⟨.inr hin, hl⟩
      exact ⟨hback.1, fun he => hnew (he ▸ hin), hback.2⟩
  · by_cases hleft : y ∈ w'.left
    · exact .inl hleft
    · have hy' : Walk.Open { w with entered := node :: w.entered } y :=
        (h.openIff y).1 ⟨h.enters y hy, hleft⟩
      rcases List.mem_cons.1 hy'.1 with rfl | hin
      · exact .inr (.single hy)
      · exact .inr (hready.reaches y ⟨hin, hy'.2⟩ node (List.mem_singleton.2 rfl))

/-- **A walk with enough fuel enters its node** — by induction on the fuel; each recursive walk has
entered one node more. -/
theorem enters_walkFrom (h : g.WellFormed) (fuel : Nat) (w : Walk) (node : String)
    (hnode : node ∈ g.nodes) (hready : g.Ready [node] w)
    (hfuel : (g.unvisited w.entered).length < fuel) :
    g.Enters [node] w (g.walkFrom fuel w node) := by
  induction fuel generalizing w node with
  | zero => exact absurd hfuel (Nat.not_lt_zero _)
  | succ fuel ih =>
    simp only [walkFrom]
    split
    · next hin => exact hready.enters_entered hin
    · next hnew =>
      have hfold : ∀ (front : List String) (w : Walk), (∀ x ∈ front, x ∈ g.nodes) →
          g.Ready front w → (g.unvisited w.entered).length < fuel →
          g.Enters front w (front.foldl (g.walkFrom fuel) w) := by
        intro front
        induction front with
        | nil => exact fun w _ hw _ => hw.enters_nil
        | cons next front ihf =>
          intro w hfront hw hlt
          have hnext := ih w next (hfront next List.mem_cons_self)
            ⟨hw.sub, hw.settled, fun x hx y hy => hw.reaches x hx y
              (List.mem_singleton.1 hy ▸ List.mem_cons_self)⟩ hlt
          refine hnext.cons (ihf _ (fun x hx => hfront x (List.mem_cons_of_mem _ hx))
            (hnext.ready fun x hx y hy => hw.reaches x hx y (List.mem_cons_of_mem _ hy)) ?_)
          exact lt_of_le_of_lt (length_unvisited_le hnext.keeps) hlt
      have hlt : (g.unvisited (node :: w.entered)).length < (g.unvisited w.entered).length :=
        length_unvisited_lt (fun x hx => List.mem_cons_of_mem _ hx) hnode hnew List.mem_cons_self
      exact Enters.leave hready hnode hnew
        (hfold _ _ (fun x hx => (h.closed hx).2) hready.enter
          (lt_of_lt_of_le hlt (Nat.le_of_lt_succ hfuel)))

/-! ## The order -/

/-- The walk that the order by name takes. -/
theorem enters_order (h : g.WellFormed) : g.Enters g.sortedNodes ⟨[], []⟩
    (g.sortedNodes.foldl (g.walkFrom (g.nodes.length + 1)) ⟨[], []⟩) := by
  have hfold : ∀ (front : List String) (w : Walk), (∀ x ∈ front, x ∈ g.nodes) →
      (∀ x, ¬ w.Open x) → g.Ready front w →
      g.Enters front w (front.foldl (g.walkFrom (g.nodes.length + 1)) w) := by
    intro front
    induction front with
    | nil => exact fun w _ _ hw => hw.enters_nil
    | cons next front ihf =>
      intro w hfront hopen hw
      have hnext := enters_walkFrom h (g.nodes.length + 1) w next (hfront next List.mem_cons_self)
        ⟨hw.sub, hw.settled, fun x hx => absurd hx (hopen x)⟩
        (Nat.lt_succ_of_le (length_unvisited_le_nodes _))
      refine hnext.cons (ihf _ (fun x hx => hfront x (List.mem_cons_of_mem _ hx))
        (fun x hx => hopen x ((hnext.openIff x).1 hx))
        (hnext.ready fun x hx => absurd hx (hopen x)))
  refine hfold _ _ (fun x hx => Names.mem_ofList.1 hx) (fun x hx => absurd hx.1 List.not_mem_nil)
    ⟨fun x hx => absurd hx List.not_mem_nil, trivial, fun x hx => absurd hx.1 List.not_mem_nil⟩

/-- **The nodes, last first, are settled up to cycles.** -/
theorem settled_order (h : g.WellFormed) :
    g.Settled (fun x y => g.Reaches y x) g.order.reverse := by
  rw [order_eq_byName h, orderByName, List.reverse_reverse]
  exact (enters_order h).settled

/-- **The order lists the nodes**, -/
theorem mem_order (h : g.WellFormed) {x : String} : x ∈ g.order ↔ x ∈ g.nodes := by
  have hw := enters_order h
  rw [order_eq_byName h, orderByName, List.mem_reverse]
  refine ⟨fun hx => (hw.nodes x (hw.sub x hx)).resolve_left List.not_mem_nil, fun hx => ?_⟩
  by_contra hleft
  have hopen := (hw.openIff x).1 ⟨hw.enters x (Names.mem_ofList.2 hx), hleft⟩
  exact absurd hopen.1 List.not_mem_nil

/-- **…each of them once.** -/
theorem nodup_order (h : g.WellFormed) : g.order.Nodup := by
  have hrev := (settled_order h).nodup
  rwa [(List.reverse_perm g.order).nodup_iff] at hrev

/-- **A dependency that does not reach its dependent comes before it.** -/
theorem exists_order_eq_append (h : g.WellFormed) {x y : String} (hxy : g.DependsOn x y)
    (hyx : ¬ g.Reaches y x) : ∃ front back, g.order = front ++ x :: back ∧ y ∈ front := by
  have hx : x ∈ g.order.reverse := List.mem_reverse.2 ((mem_order h).2 (h.closed hxy).1)
  obtain ⟨front, back, heq, hy⟩ := (settled_order h).exists_append hx hxy hyx
  refine ⟨back.reverse, front.reverse, ?_, List.mem_reverse.2 hy⟩
  rw [← List.reverse_reverse g.order, heq]
  simp

/-- **A node comes after what it depends on**, unless that reaches it. -/
theorem idxOf_order_lt (h : g.WellFormed) {x y : String} (hxy : g.DependsOn x y)
    (hyx : ¬ g.Reaches y x) : g.order.idxOf y < g.order.idxOf x := by
  obtain ⟨front, back, horder, hy⟩ := exists_order_eq_append h hxy hyx
  have hnodup := nodup_order h
  rw [horder] at hnodup ⊢
  have hx : x ∉ front := fun hx => (List.nodup_append.1 hnodup).2.2 x hx x List.mem_cons_self rfl
  rw [List.idxOf_append_of_mem hy, List.idxOf_append_of_notMem hx]
  exact Nat.lt_add_right _ (List.idxOf_lt_length_of_mem hy)

/-- Without a cycle a node comes after all that it reaches, step by step. -/
theorem Acyclic.idxOf_order_lt (hacyclic : g.Acyclic) (h : g.WellFormed) {x y : String}
    (hxy : g.Reaches x y) : g.order.idxOf y < g.order.idxOf x := by
  have hstep : ∀ a b, g.DependsOn a b → g.order.idxOf b < g.order.idxOf a :=
    fun a b hab => Graph.idxOf_order_lt h hab fun hba => hacyclic a (.head hab hba)
  induction hxy with
  | single hxy => exact hstep _ _ hxy
  | tail _ hyz ih => exact (hstep _ _ hyz).trans ih

end InterfaceGen.Graph
