import InterfaceGen.Proofs.Graph.Links
import InterfaceGen.Proofs.Graph.Order

/-!
# Proofs/Graph/Cycles — a search finds a cycle exactly when there is one

The path of a search is a trail of dependencies, so a dependency that leads back to it closes a
cycle, and the cycle that is found has that dependency as a link. All others lead from a finished
node to one that was finished before it: the finished nodes are settled up to the links of what was
found. So what is found are cycles, each of them once and in order, and no cycle avoids all of their
links. Main statements: `isCycle_of_mem_cycles`, `exists_link_of_isCycle`, `cycles_eq_nil_iff` and
`sorted_cycles`.
-/

namespace InterfaceGen.Graph

variable {g : Graph} {node next : String} {path front c : List String} {s s' : Search}

theorem mem_insertCycle {cycle other : List String} {found : List (List String)} :
    other ∈ insertCycle cycle found ↔ other = cycle ∨ other ∈ found := by
  induction found with
  | nil => simp [insertCycle]
  | cons c rest ih =>
    simp only [insertCycle]
    split
    · next h =>
      subst h
      simp
    · split
      · simp
      · simp only [List.mem_cons, ih, or_left_comm]

/-! ## Trails -/

/-- The nodes that a search came along, the last one first. -/
structure Trail (g : Graph) (path : List String) : Prop where
  depends : path.IsChain fun a b => g.DependsOn b a
  nodup : path.Nodup

theorem Trail.cons (h : g.Trail (node :: path)) (hdep : g.DependsOn node next)
    (hoff : next ∉ node :: path) : g.Trail (next :: node :: path) :=
  ⟨List.isChain_cons_cons.2 ⟨hdep, h.depends⟩, List.nodup_cons.2 ⟨hoff, h.nodup⟩⟩

/-- The nodes of a path from `next` on, in the order in which they were entered. -/
def round (path : List String) (next : String) : List String :=
  (path.takeWhile (· ≠ next) ++ [next]).reverse

theorem exists_round_eq (hon : next ∈ path) :
    ∃ front, front ++ [next] <+: path ∧ round path next = (front ++ [next]).reverse := by
  obtain ⟨back, hback⟩ := exists_dropWhile_ne hon
  refine ⟨path.takeWhile (· ≠ next), ⟨back, ?_⟩, rfl⟩
  rw [List.append_assoc, List.singleton_append, ← hback, List.takeWhile_append_dropWhile]

/-- **A dependency on a trail closes a cycle**, of which it is a link. -/
theorem Trail.isCycle_round (h : g.Trail (node :: path)) (hdep : g.DependsOn node next)
    (hon : next ∈ node :: path) :
    IsCycle g.DependsOn (round (node :: path) next) ∧
      (node, next) ∈ links (round (node :: path) next) := by
  obtain ⟨front, hprefix, hround⟩ := exists_round_eq hon
  have hhead : (front ++ [next]).head? = some node := by
    obtain ⟨back, hback⟩ := hprefix
    rw [← List.head?_append_of_ne_nil _ (List.concat_ne_nil next front), hback, List.head?_cons]
  have hnodup := List.nodup_reverse.2 (h.nodup.sublist hprefix.sublist)
  have hclosed : (next :: (front ++ [next])).reverse = next :: front.reverse ++ [next] := by
    rw [List.reverse_cons, List.reverse_concat]
  have hlast : (front ++ [next]).reverse.getLast? = some node := by
    rw [List.getLast?_reverse, hhead]
  rw [hround]
  rw [List.reverse_concat] at hnodup hlast ⊢
  refine ⟨⟨List.cons_ne_nil _ _, hnodup, forall_links_iff.2 ?_⟩,
    closing_mem_links hlast List.head?_cons⟩
  rw [← hclosed, List.isChain_reverse, List.isChain_cons]
  refine ⟨fun y hy => ?_, h.depends.prefix hprefix⟩
  rw [hhead] at hy
  exact Option.mem_some.1 hy ▸ hdep

/-! ## Searches -/

/-- A dependency is a link of a cycle that was found. -/
def Search.Closes (s : Search) (a b : String) : Prop := ∃ c ∈ s.cycles, (a, b) ∈ links c

/-- The search `s` follows the dependencies `front` of the last node of `path` and ends as `s'`. The
nodes on the path are not finished meanwhile; each dependency leads to a finished node or closes a
cycle; finished nodes are settled up to such dependencies; and what is found are cycles that start
with their least members. -/
structure Searches (g : Graph) (path front : List String) (s s' : Search) : Prop where
  keeps : ∀ x ∈ s.done, x ∈ s'.done
  apart : ∀ x ∈ s'.done, x ∈ s.done ∨ x ∉ path
  grows : ∀ c ∈ s.cycles, c ∈ s'.cycles
  enters : ∀ x ∈ front, x ∈ s'.done ∨ ∃ last ∈ path.head?, s'.Closes last x
  finished : g.Settled s.Closes s.done → g.Settled s'.Closes s'.done
  sound : ∀ c ∈ s'.cycles, c ∈ s.cycles ∨ IsCycle g.DependsOn c ∧ LeastFirst c

/-- What is closed stays closed. -/
theorem Searches.closes (h : g.Searches path front s s') (a b : String) (hab : s.Closes a b) :
    s'.Closes a b := by
  obtain ⟨c, hc, hlink⟩ := hab
  exact ⟨c, h.grows c hc, hlink⟩

theorem Searches.nil (path : List String) (s : Search) : g.Searches path [] s s :=
  ⟨fun _ hx => hx, fun _ hx => .inl hx, fun _ hc => hc, fun _ hx => absurd hx List.not_mem_nil,
    id, fun _ hc => .inl hc⟩

theorem Searches.cons {mid : Search} (h : g.Searches path [next] s mid)
    (hrest : g.Searches path front mid s') : g.Searches path (next :: front) s s' where
  keeps x hx := hrest.keeps x (h.keeps x hx)
  apart x hx := (hrest.apart x hx).elim (h.apart x) .inr
  grows c hc := hrest.grows c (h.grows c hc)
  enters x hx := by
    rcases List.mem_cons.1 hx with rfl | hx
    · rcases h.enters x (List.mem_singleton.2 rfl) with hdone | ⟨last, hlast, hcloses⟩
      · exact .inl (hrest.keeps x hdone)
      · exact .inr ⟨last, hlast, hrest.closes _ _ hcloses⟩
    · exact hrest.enters x hx
  finished hs := hrest.finished (h.finished hs)
  sound c hc := (hrest.sound c hc).elim (h.sound c) .inr

/-- A node that was finished before needs no search. -/
theorem Searches.of_done (hdone : node ∈ s.done) : g.Searches path [node] s s :=
  ⟨fun _ hx => hx, fun _ hx => .inl hx, fun _ hc => hc,
    fun _ hx => .inl (List.mem_singleton.1 hx ▸ hdone), id, fun _ hc => .inl hc⟩

/-- **A dependency on the path closes a cycle.** -/
theorem Searches.of_path (htrail : g.Trail (node :: path)) (hdep : g.DependsOn node next)
    (hon : next ∈ node :: path) : g.Searches (node :: path) [next] s
      { s with cycles := insertCycle (rotate (round (node :: path) next)) s.cycles } := by
  obtain ⟨hcycle, hlink⟩ := htrail.isCycle_round hdep hon
  have hturned := (isRotated_rotate (round (node :: path) next)).symm
  have hgrows : ∀ c ∈ s.cycles, c ∈ insertCycle (rotate (round (node :: path) next)) s.cycles :=
    fun c hc => mem_insertCycle.2 (.inr hc)
  refine ⟨fun _ hx => hx, fun _ hx => .inl hx, hgrows, fun x hx => .inr ⟨node, rfl, _,
    mem_insertCycle.2 (.inl rfl), ?_⟩, fun hs => hs.mono ?_, fun c hc => ?_⟩
  · rw [List.mem_singleton.1 hx]
    exact (mem_links_of_isRotated hturned).1 hlink
  · rintro a b ⟨c, hc, hab⟩
    exact ⟨c, hgrows c hc, hab⟩
  · rcases mem_insertCycle.1 hc with rfl | hc
    · exact .inr ⟨hcycle.of_isRotated hturned, leastFirst_rotate _⟩
    · exact .inl hc

/-- **When its dependencies are finished, a node is finished.** -/
theorem Searches.finish (hpath : node ∉ path) (hnew : node ∉ s.done)
    (h : g.Searches (node :: path) (g.successors node) s s') :
    g.Searches path [node] s { s' with done := node :: s'.done } where
  keeps x hx := List.mem_cons_of_mem _ (h.keeps x hx)
  apart x hx := by
    rcases List.mem_cons.1 hx with rfl | hx
    · exact .inr hpath
    · exact (h.apart x hx).imp_right fun hx hp => hx (List.mem_cons_of_mem _ hp)
  grows := h.grows
  enters x hx := .inl (List.mem_singleton.1 hx ▸ List.mem_cons_self)
  finished hs := by
    refine ⟨fun hin => ?_, fun y hy => ?_, h.finished hs⟩
    · exact (h.apart node hin).elim hnew fun hp => hp List.mem_cons_self
    · refine (h.enters y hy).imp_right ?_
      rintro ⟨last, hlast, hcloses⟩
      exact Option.mem_some.1 hlast ▸ hcloses
  sound := h.sound

/-- **A search with enough fuel follows its node** — by induction on the fuel; each recursive search
has one node more on its path. -/
theorem searches_searchFrom (h : g.WellFormed) (fuel : Nat) (path : List String) (s : Search)
    (node : String) (hnode : node ∈ g.nodes) (htrail : g.Trail (node :: path))
    (hnew : node ∉ s.done) (hfuel : (g.unvisited (path ++ s.done)).length < fuel) :
    g.Searches path [node] s (g.searchFrom fuel path s node) := by
  induction fuel generalizing path s node with
  | zero => exact absurd hfuel (Nat.not_lt_zero _)
  | succ fuel ih =>
    have hpath : node ∉ path := (List.nodup_cons.1 htrail.nodup).1
    have hfold : ∀ (front : List String) (s : Search), (∀ x ∈ front, g.DependsOn node x) →
        (g.unvisited (node :: path ++ s.done)).length < fuel →
        g.Searches (node :: path) front s (front.foldl (fun s next =>
          if next ∈ node :: path then
            let members := (((node :: path).takeWhile (· ≠ next)) ++ [next]).reverse
            { s with cycles := insertCycle (rotate members) s.cycles }
          else if next ∈ s.done then s
          else g.searchFrom fuel (node :: path) s next) s) := by
      intro front
      induction front with
      | nil => exact fun s _ _ => .nil _ s
      | cons next front ihf =>
        intro s hfront hlt
        obtain ⟨hdep, hrest⟩ := List.forall_mem_cons.1 hfront
        rw [List.foldl_cons]
        split
        · next hon => exact (Searches.of_path htrail hdep hon).cons (ihf _ hrest hlt)
        · next hoff =>
          split
          · next hdone => exact (Searches.of_done hdone).cons (ihf s hrest hlt)
          · next hnext =>
            have hmid := ih (node :: path) s next (h.closed hdep).2 (htrail.cons hdep hoff) hnext
              hlt
            refine hmid.cons (ihf _ hrest (lt_of_le_of_lt (length_unvisited_le ?_) hlt))
            intro x hx
            rcases List.mem_append.1 hx with hx | hx
            · exact List.mem_append_left _ hx
            · exact List.mem_append_right _ (hmid.keeps x hx)
    have hlt : (g.unvisited (node :: path ++ s.done)).length
        < (g.unvisited (path ++ s.done)).length := by
      refine length_unvisited_lt (fun x hx => List.mem_cons_of_mem _ hx) hnode (fun hin => ?_)
        List.mem_cons_self
      exact (List.mem_append.1 hin).elim hpath hnew
    exact Searches.finish hpath hnew (hfold (g.successors node) s (fun x hx => hx) (by omega))

/-! ## All cycles -/

/-- The search that finds the cycles by name. -/
theorem searches_cycles (h : g.WellFormed) : g.Searches [] g.sortedNodes ⟨[], []⟩
    (g.sortedNodes.foldl
      (fun s node => if node ∈ s.done then s else g.searchFrom (g.nodes.length + 1) [] s node)
      ⟨[], []⟩) := by
  have hfold : ∀ (front : List String) (s : Search), (∀ x ∈ front, x ∈ g.nodes) →
      g.Searches [] front s (front.foldl
        (fun s node => if node ∈ s.done then s else g.searchFrom (g.nodes.length + 1) [] s node)
        s) := by
    intro front
    induction front with
    | nil => exact fun s _ => .nil [] s
    | cons next front ihf =>
      intro s hfront
      obtain ⟨hnext, hrest⟩ := List.forall_mem_cons.1 hfront
      rw [List.foldl_cons]
      split
      · next hdone => exact (Searches.of_done hdone).cons (ihf s hrest)
      · next hnew =>
        exact (searches_searchFrom h _ [] s next hnext
          ⟨.singleton next, List.nodup_singleton next⟩ hnew
          (Nat.lt_succ_of_le (length_unvisited_le_nodes _))).cons (ihf _ hrest)
  exact hfold _ _ fun x hx => Names.mem_ofList.1 hx

/-- **What the search finds are cycles**, each turned so that it starts with its least member. -/
theorem isCycle_of_mem_cycles (h : g.WellFormed) (hc : c ∈ g.cycles) :
    IsCycle g.DependsOn c ∧ LeastFirst c := by
  rw [cycles_eq_byName h] at hc
  exact ((searches_cycles h).sound c hc).resolve_left List.not_mem_nil

/-- **No node leads back to itself past all links that were found.** -/
theorem not_transGen_unclosed (h : g.WellFormed) {x : String} : ¬ Relation.TransGen
    (fun a b => g.DependsOn a b ∧ ¬ ∃ d ∈ g.cycles, (a, b) ∈ links d) x x := by
  intro hxx
  rw [cycles_eq_byName h] at hxx
  have hs := searches_cycles h
  have hx : g.Reaches x x := Relation.TransGen.mono (fun _ _ hab => hab.1) _ _ hxx
  have hdone := hs.enters x (Names.mem_ofList.2 (h.nodes_of_reaches hx).1)
  refine (hs.finished trivial).not_transGen_self (hdone.resolve_right ?_) hxx
  rintro ⟨_, ⟨⟩, -⟩

/-- **Every cycle has a link in common with one that is found.** -/
theorem exists_link_of_isCycle (h : g.WellFormed) (hc : IsCycle g.DependsOn c) :
    ∃ d ∈ g.cycles, ∃ link ∈ links c, link ∈ links d := by
  by_contra hnone
  push Not at hnone
  obtain ⟨x, hx⟩ := List.exists_mem_of_ne_nil c hc.ne_nil
  refine not_transGen_unclosed h (transGen_of_links (fun link hlink => ?_) hx hx)
  exact ⟨hc.depends link hlink, fun ⟨d, hd, hin⟩ => hnone d hd link hlink hin⟩

/-- **The search finds nothing exactly when no node reaches itself.** -/
theorem cycles_eq_nil_iff (h : g.WellFormed) : g.cycles = [] ↔ g.Acyclic := by
  refine ⟨fun hnil a haa => ?_, fun hac => List.eq_nil_iff_forall_not_mem.2 fun c hc => ?_⟩
  · refine not_transGen_unclosed h (Relation.TransGen.mono (fun _ _ hab => ⟨hab, ?_⟩) _ _ haa)
    rintro ⟨d, hd, -⟩
    rw [hnil] at hd
    exact List.not_mem_nil hd
  · have hcycle := (isCycle_of_mem_cycles h hc).1
    obtain ⟨x, hx⟩ := List.exists_mem_of_ne_nil c hcycle.ne_nil
    exact hac x (hcycle.transGen hx hx)

/-! ## Each cycle once -/

/-- An insertion keeps the cycles in order, each of them once. -/
theorem sorted_insertCycle {found : List (List String)} (h : found.Pairwise (· < ·))
    (cycle : List String) : (insertCycle cycle found).Pairwise (· < ·) := by
  induction found with
  | nil => simp [insertCycle]
  | cons c rest ih =>
    obtain ⟨hfirst, hrest⟩ := List.pairwise_cons.1 h
    simp only [insertCycle]
    split
    · exact h
    · next hne =>
      split
      · next hlt =>
        refine List.pairwise_cons.2 ⟨fun other hin => ?_, h⟩
        rcases List.mem_cons.1 hin with rfl | hin
        · exact hlt
        · exact lt_trans hlt (hfirst other hin)
      · next hlt =>
        refine List.pairwise_cons.2 ⟨fun other hin => ?_, ih hrest⟩
        rcases mem_insertCycle.1 hin with rfl | hin
        · exact lt_of_le_of_ne (not_lt.1 hlt) (Ne.symm hne)
        · exact hfirst other hin

/-- **A visit keeps the cycles in order** — by induction on the fuel, and on the dependencies. -/
theorem sorted_visitForCycles (fuel : Nat) (stack : List Nat) (v : CycleSearch) (i : Nat)
    (h : v.cycles.Pairwise (· < ·)) :
    (g.visitForCycles fuel stack v i).cycles.Pairwise (· < ·) := by
  induction fuel generalizing stack v i with
  | zero => exact h
  | succ fuel ih =>
    refine List.foldlRecOn (motive := fun v : CycleSearch => v.cycles.Pairwise (· < ·))
      (g.next i) _ h fun v hv j _ => ?_
    split
    · exact ih _ v j hv
    · exact sorted_insertCycle hv _
    · exact hv

/-- **The cycles are found in order**, -/
theorem sorted_cycles (g : Graph) : g.cycles.Pairwise (· < ·) := by
  refine List.foldlRecOn (motive := fun v : CycleSearch => v.cycles.Pairwise (· < ·))
    g.numbers _ List.Pairwise.nil fun v hv i _ => ?_
  split
  · exact sorted_visitForCycles _ _ v i hv
  · exact hv

/-- **…none of them twice.** -/
theorem nodup_cycles (g : Graph) : g.cycles.Nodup := g.sorted_cycles.imp fun hlt => ne_of_lt hlt

end InterfaceGen.Graph
