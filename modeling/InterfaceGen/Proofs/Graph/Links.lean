import InterfaceGen.Graph
import InterfaceGen.Proofs.Table
import Mathlib.Data.List.Chain
import Mathlib.Data.List.Forall2
import Mathlib.Data.List.Rotate
import Mathlib.Logic.Relation

/-!
# Proofs/Graph/Links — a cycle is a list whose last member depends on its first

The links of a list lead from each member to the next and from the last one to the first, so they
do not say where the list starts: turning it keeps them. A cycle is a list without repetition whose
links are dependencies. Turned so that its least member comes first, it is the only one among its
rotations that starts so. Main statements: `isRotated_rotate`, `eq_of_isRotated` and
`exists_isCycle_iff`.
-/

namespace InterfaceGen.Graph

variable {r : String → String → Prop} {c d : List String} {a b x y : String}

/-! ## Links -/

/-- Each member of a list with the next one, and the last one with the first. -/
def links (c : List String) : List (String × String) := c.zip (c.rotate 1)

theorem mem_of_mem_links (h : (a, b) ∈ links c) : a ∈ c ∧ b ∈ c :=
  ⟨(List.of_mem_zip h).1, List.mem_rotate.1 (List.of_mem_zip h).2⟩

/-- **Turning a list keeps its links.** -/
theorem mem_links_of_isRotated (h : c ~r d) {link : String × String} :
    link ∈ links c ↔ link ∈ links d := by
  obtain ⟨n, rfl⟩ := h
  have hturned : links (c.rotate n) = (links c).rotate n := by
    rw [links, links, List.zip_eq_zipWith, List.zip_eq_zipWith,
      List.zipWith_rotate_distrib _ _ _ _ (List.length_rotate c 1).symm, List.rotate_rotate,
      List.rotate_rotate, Nat.add_comm]
  rw [hturned, List.mem_rotate]

/-- The links of a list are the steps of the closed walk along it. -/
theorem forall_links_iff {rest : List String} :
    (∀ link ∈ links (x :: rest), r link.1 link.2) ↔ List.IsChain r (x :: rest ++ [x]) := by
  rw [List.isChain_cons_append_singleton_iff_forall₂, List.forall₂_iff_zip, links,
    List.rotate_cons_succ, List.rotate_zero]
  simp

/-- The last member is linked to the first one. -/
theorem closing_mem_links (hlast : c.getLast? = some a) (hfirst : c.head? = some b) :
    (a, b) ∈ links c := by
  obtain ⟨front, rfl⟩ := List.getLast?_eq_some_iff.1 hlast
  rw [mem_links_of_isRotated (List.isRotated_concat a front)]
  cases front with
  | nil =>
    obtain rfl : a = b := by simpa using hfirst
    simp [links]
  | cons y front =>
    obtain rfl : y = b := by simpa using hfirst
    simp [links]

/-- **Along its links every member of a list leads to every member.** -/
theorem transGen_of_links (h : ∀ link ∈ links c, r link.1 link.2) (hx : x ∈ c) (hy : y ∈ c) :
    Relation.TransGen r x y := by
  obtain ⟨front, back, rfl⟩ := List.append_of_mem hx
  have hturned : (front ++ x :: back) ~r (x :: (back ++ front)) := List.isRotated_append
  have hchain : List.IsChain (Relation.TransGen r) (x :: (back ++ front) ++ [x]) :=
    (forall_links_iff.1 fun link hlink =>
      h link ((mem_links_of_isRotated hturned).2 hlink)).imp fun _ _ hab => .single hab
  have hfirst := (List.pairwise_cons.1 (List.isChain_iff_pairwise.1 hchain)).1
  refine hfirst y (List.mem_append.2 ?_)
  rcases List.mem_cons.1 (hturned.mem_iff.1 hy) with rfl | hy
  · exact .inr (List.mem_singleton.2 rfl)
  · exact .inl hy

/-! ## Cycles -/

/-- Pairwise distinct nodes, at least one, each of which depends on the next and the last one on the
first. -/
structure IsCycle (depends : String → String → Prop) (c : List String) : Prop where
  ne_nil : c ≠ []
  nodup : c.Nodup
  depends : ∀ link ∈ links c, depends link.1 link.2

namespace IsCycle

theorem of_isRotated (h : IsCycle r c) (hcd : c ~r d) : IsCycle r d where
  ne_nil hd := h.ne_nil (List.isRotated_nil_iff.1 (hd ▸ hcd))
  nodup := hcd.nodup_iff.1 h.nodup
  depends link hlink := h.depends link ((mem_links_of_isRotated hcd).2 hlink)

/-- Any two members of a cycle lead to each other. -/
theorem transGen (h : IsCycle r c) (hx : x ∈ c) (hy : y ∈ c) : Relation.TransGen r x y :=
  transGen_of_links h.depends hx hy

end IsCycle

/-! ## Starting with the least member -/

/-- What is left of a list when everything before a member is dropped starts with that member. -/
theorem exists_dropWhile_ne (h : a ∈ c) : ∃ back, c.dropWhile (· ≠ a) = a :: back := by
  induction c with
  | nil => cases h
  | cons b c ih =>
    by_cases hb : b = a
    · exact ⟨c, by simp [hb]⟩
    · obtain ⟨back, hback⟩ := ih ((List.mem_cons.1 h).resolve_left (Ne.symm hb))
      exact ⟨back, by rw [List.dropWhile_cons_of_pos (by simpa using hb), hback]⟩

/-- The first member is the least one. -/
def LeastFirst (c : List String) : Prop := ∀ first ∈ c.head?, ∀ x ∈ c, first ≤ x

theorem least_mem (n : String) (rest : List String) : least n rest ∈ n :: rest := by
  induction rest generalizing n with
  | nil => exact List.mem_singleton.2 rfl
  | cons m rest ih =>
    rw [least]
    split
    · exact List.mem_cons_of_mem _ (ih m)
    · rcases List.mem_cons.1 (ih n) with h | h
      · exact List.mem_cons.2 (.inl h)
      · exact List.mem_cons_of_mem _ (List.mem_cons_of_mem _ h)

theorem least_le (n : String) (rest : List String) : ∀ x ∈ n :: rest, least n rest ≤ x := by
  induction rest generalizing n with
  | nil => exact fun x hx => (List.mem_singleton.1 hx) ▸ le_refl _
  | cons m rest ih =>
    intro x hx
    rw [least]
    split
    · next hmn =>
      rcases List.mem_cons.1 hx with rfl | hx
      · exact (ih m m List.mem_cons_self).trans hmn.le
      · exact ih m x hx
    · next hmn =>
      rcases List.mem_cons.1 hx with rfl | hx
      · exact ih x x List.mem_cons_self
      · rcases List.mem_cons.1 hx with rfl | hx
        · exact (ih n n List.mem_cons_self).trans (not_lt.1 hmn)
        · exact ih n x (List.mem_cons_of_mem _ hx)

/-- **A turned cycle has the same members in the same round.** -/
theorem isRotated_rotate (c : List String) : rotate c ~r c := by
  cases c with
  | nil => exact .refl _
  | cons n rest =>
    rw [rotate]
    exact List.isRotated_append.trans (by rw [List.takeWhile_append_dropWhile])

/-- **…and starts with its least one.** -/
theorem leastFirst_rotate (c : List String) : LeastFirst (rotate c) := by
  intro first hfirst x hx
  rw [(isRotated_rotate c).mem_iff] at hx
  cases c with
  | nil => cases hx
  | cons n rest =>
    obtain ⟨back, hback⟩ := exists_dropWhile_ne (least_mem n rest)
    rw [rotate, hback] at hfirst
    obtain rfl : least n rest = first := by simpa using hfirst
    exact least_le n rest x hx

/-- **Of the rotations of a cycle only one starts with the least member.** -/
theorem eq_of_isRotated (h : c ~r d) (hnodup : c.Nodup) (hc : LeastFirst c) (hd : LeastFirst d) :
    c = d := by
  cases c with
  | nil => exact List.isRotated_nil_iff'.1 h
  | cons x rest =>
    obtain ⟨n, hn, hturned⟩ := List.isRotated_iff_mod.1 h
    rcases Nat.lt_or_eq_of_le hn with hlt | rfl
    · have hfirst : d.head? = (x :: rest)[n]? := hturned ▸ List.head?_rotate hlt
      rw [List.getElem?_eq_getElem hlt] at hfirst
      have hin : (x :: rest)[n] ∈ x :: rest := List.getElem_mem hlt
      have hle := hc x rfl _ hin
      have hge := hd _ hfirst x (h.mem_iff.1 List.mem_cons_self)
      have hfirst : (x :: rest)[n] = (x :: rest)[0] := hge.antisymm hle
      rw [← hturned, hnodup.getElem_inj_iff.1 hfirst, List.rotate_zero]
    · rw [← hturned, List.rotate_length]

/-! ## A cycle through a node -/

/-- **A path leads to a node without meeting another one twice** — whenever it comes back to its
start, it is cut there. -/
theorem exists_nodup_path (h : Relation.ReflTransGen r a b) : ∃ path : List String,
    path.IsChain r ∧ path.Nodup ∧ path.head? = some a ∧ path.getLast? = some b := by
  induction h using Relation.ReflTransGen.head_induction_on with
  | refl => exact ⟨[b], .singleton b, List.nodup_singleton b, rfl, rfl⟩
  | @head a c hac _ ih =>
    obtain ⟨path, hchain, hnodup, hfirst, hlast⟩ := ih
    by_cases ha : a ∈ path
    · obtain ⟨front, back, rfl⟩ := List.append_of_mem ha
      refine ⟨a :: back, hchain.suffix (List.suffix_append _ _),
        hnodup.sublist (List.sublist_append_right _ _), rfl, ?_⟩
      rwa [List.getLast?_append_of_ne_nil _ (List.cons_ne_nil a back)] at hlast
    · refine ⟨a :: path, List.isChain_cons.2 ⟨fun y hy => ?_, hchain⟩,
        List.nodup_cons.2 ⟨ha, hnodup⟩, rfl, ?_⟩
      · rw [hfirst] at hy
        exact Option.mem_some.1 hy ▸ hac
      · rw [List.getLast?_cons, hlast, Option.getD_some]

/-- **A node lies on a cycle exactly when it leads back to itself.** -/
theorem exists_isCycle_iff : (∃ c, IsCycle r c ∧ x ∈ c) ↔ Relation.TransGen r x x := by
  refine ⟨fun ⟨c, hc, hx⟩ => hc.transGen hx hx, fun h => ?_⟩
  obtain ⟨b, hxb, hbx⟩ := Relation.TransGen.head'_iff.1 h
  obtain ⟨path, hchain, hnodup, hfirst, hlast⟩ := exists_nodup_path hbx
  obtain ⟨rest, rfl⟩ := List.head?_eq_some_iff.1 hfirst
  refine ⟨b :: rest, ⟨List.cons_ne_nil b rest, hnodup, forall_links_iff.2 ?_⟩,
    List.mem_of_getLast? hlast⟩
  refine List.isChain_append.2 ⟨hchain, .singleton b, fun u hu v hv => ?_⟩
  rw [hlast] at hu
  obtain rfl := Option.mem_some.1 hu
  obtain rfl : b = v := Option.mem_some.1 hv
  exact hxb

end InterfaceGen.Graph
