import Mathlib.Data.List.Forall2
import Mathlib.Data.String.Basic

/-!
# Proofs/Lists — lists that agree item by item, and lists in the order of a key

Declarations are compared and bound item by item. Such an agreement is turned around and chained
where its items allow it, it says of each item what it agrees with, and what is common to the items
is common to the lists. What is sorted by a key is sorted by an order.
-/

namespace InterfaceGen

variable {α β γ : Type} {l : List α}

/-- Turning an agreement of lists around, item by item. -/
theorem forall₂_swap_of_mem {r : α → β → Prop} {s : β → α → Prop} {m : List β}
    (h : ∀ x ∈ l, ∀ y ∈ m, r x y → s y x) (hlm : List.Forall₂ r l m) : List.Forall₂ s m l := by
  induction hlm with
  | nil => exact .nil
  | @cons x y l m hxy _ ih =>
    refine .cons (h x List.mem_cons_self y List.mem_cons_self hxy) (ih fun x hx y hy => ?_)
    exact h x (List.mem_cons_of_mem _ hx) y (List.mem_cons_of_mem _ hy)

/-- Chaining two agreements of lists, item by item. -/
theorem forall₂_trans_of_mem {r : α → α → Prop} {m n : List α}
    (h : ∀ x ∈ l, ∀ y z, r x y → r y z → r x z) (hlm : List.Forall₂ r l m)
    (hmn : List.Forall₂ r m n) : List.Forall₂ r l n := by
  induction hlm generalizing n with
  | nil => exact hmn
  | @cons x y l m hxy _ ih =>
    cases hmn with
    | cons hyz hmn =>
      refine .cons (h x List.mem_cons_self y _ hxy hyz) (ih (fun x hx => ?_) hmn)
      exact h x (List.mem_cons_of_mem _ hx)

variable {r : α → β → Prop} {m : List β}

/-- What agrees with the items of a list agrees with items that are the same. -/
theorem forall₂_of_same {same : α → α → Prop} {k : List α}
    (h : ∀ x y z, same x y → r x z → r y z) (hlk : List.Forall₂ same l k)
    (hlm : List.Forall₂ r l m) : List.Forall₂ r k m := by
  induction hlk generalizing m with
  | nil => exact hlm
  | cons hxy _ ih =>
    cases hlm with
    | cons hxz hlm => exact .cons (h _ _ _ hxy hxz) (ih hlm)

/-- Each item agrees with one of the other list. -/
theorem exists_of_forall₂ (h : List.Forall₂ r l m) : ∀ y ∈ m, ∃ x ∈ l, r x y := by
  induction h with
  | nil => exact fun y hy => absurd hy List.not_mem_nil
  | @cons x y l m hxy _ ih =>
    intro z hz
    rcases List.mem_cons.1 hz with rfl | hz
    · exact ⟨x, List.mem_cons_self, hxy⟩
    · obtain ⟨w, hw, hwz⟩ := ih z hz
      exact ⟨w, List.mem_cons_of_mem _ hw, hwz⟩

/-- What some items of a list give agrees with the items they agree with. -/
theorem exists_sublist_of_forall₂ {s : α → γ → Prop} {f : β → Option γ}
    (h : ∀ x y z, r x y → f y = some z → s x z) (hlm : List.Forall₂ r l m) :
    ∃ k, k.Sublist l ∧ List.Forall₂ s k (m.filterMap f) := by
  induction hlm with
  | nil => exact ⟨[], List.Sublist.refl _, .nil⟩
  | @cons x y l m hxy _ ih =>
    obtain ⟨k, hsub, hk⟩ := ih
    cases hy : f y with
    | none => exact ⟨k, hsub.cons x, by rwa [List.filterMap_cons_none hy]⟩
    | some z =>
      refine ⟨x :: k, hsub.cons_cons x, ?_⟩
      rw [List.filterMap_cons_some hy]
      exact .cons (h x y z hxy hy) hk

/-- What two agreeing lists have in common item by item they have in common as lists. -/
theorem map_eq_of_forall₂ {f : α → γ} {g : β → γ} (h : ∀ x y, r x y → f x = g y)
    (hlm : List.Forall₂ r l m) : l.map f = m.map g := by
  rw [← List.forall₂_eq_eq_eq, List.forall₂_map_left_iff, List.forall₂_map_right_iff]
  exact hlm.imp h

/-! ## Sorting by a key -/

section Key

variable (key : α → String)

/-- Sorting by a key goes by an order that is transitive… -/
theorem trans_key (a b c : α) (hab : (!decide (key b < key a)) = true)
    (hbc : (!decide (key c < key b)) = true) : (!decide (key c < key a)) = true := by
  simp only [Bool.not_eq_true', decide_eq_false_iff_not, not_lt] at hab hbc ⊢
  exact le_trans hab hbc

/-- …and total. -/
theorem total_key (a b : α) : (!decide (key b < key a) || !decide (key a < key b)) = true := by
  simp only [Bool.or_eq_true, Bool.not_eq_true', decide_eq_false_iff_not, not_lt]
  exact le_total (key a) (key b)

end Key

end InterfaceGen
