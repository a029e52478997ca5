import InterfaceGen.Model.Draft

/-!
# Proofs/Path — the order of paths is total and transitive

Components are ordered by their place first and by their names second, paths by their components and
documents by their paths; each of these is a lexicographic combination of orders that are total and
transitive. So the documents of a merge are taken in path order. Main statement:
`Loaded.pairwise_sorted`.
-/

namespace InterfaceGen

/-- The name of a component, as far as it has one of its own. -/
def Component.text : Component → String
  | .normal name => name
  | _ => ""

theorem Component.compare_eq : Component.compare =
    compareLex (compareOn Component.rank) (compareOn Component.text) := by
  funext a b
  cases a <;> cases b <;> rfl

instance : Std.TransCmp Component.compare := by
  rw [Component.compare_eq]
  infer_instance

theorem Path.compareComponents_eq : compareComponents = List.compareLex Component.compare := by
  funext as bs
  induction as generalizing bs with
  | nil => cases bs <;> rfl
  | cons a as ih =>
    cases bs with
    | nil => rfl
    | cons b bs =>
      rw [List.compareLex_cons_cons, compareComponents, ← ih]
      cases a.compare b <;> rfl

instance : Std.TransCmp Path.compareComponents := by
  rw [Path.compareComponents_eq]
  infer_instance

/-- An order carries over to what is compared by some part of it. -/
theorem transCmp_on {α β : Type} {cmp : β → β → Ordering} [Std.TransCmp cmp] (f : α → β) :
    Std.TransCmp fun a b => cmp (f a) (f b) where
  eq_swap {a b} := (Std.OrientedCmp.eq_swap : cmp (f a) (f b) = _)
  isLE_trans {a b _} := (Std.TransCmp.isLE_trans : (cmp (f a) (f b)).isLE = true → _)

instance : Std.TransCmp Path.compare := transCmp_on Path.components

namespace Loaded

theorem compare_eq : Loaded.compare = compareLex (fun a b => Path.compare a.path b.path)
    (compareOn fun l => originRank l.origin) := rfl

instance : Std.TransCmp fun a b : Loaded => Path.compare a.path b.path := transCmp_on Loaded.path

instance : Std.TransCmp Loaded.compare := by
  rw [compare_eq]
  infer_instance

theorem decide_compare (a b : Loaded) :
    decide (a.compare b ≠ .gt) = true ↔ (a.compare b).isLE = true := by
  cases a.compare b <;> decide

/-- Sorting asks for an order that is transitive… -/
theorem trans_compare (a b c : Loaded) (hab : decide (a.compare b ≠ .gt) = true)
    (hbc : decide (b.compare c ≠ .gt) = true) : decide (a.compare c ≠ .gt) = true := by
  rw [decide_compare] at *
  exact Std.TransCmp.isLE_trans hab hbc

/-- …and total. -/
theorem total_compare (a b : Loaded) :
    (decide (a.compare b ≠ .gt) || decide (b.compare a ≠ .gt)) = true := by
  have hswap : a.compare b = (b.compare a).swap := Std.OrientedCmp.eq_swap
  rw [Bool.or_eq_true, decide_compare, decide_compare, hswap]
  cases b.compare a <;> decide

/-- Documents are taken in the order of their paths and origins. -/
theorem pairwise_isLE_sorted (documents : List Loaded) :
    (sorted documents).Pairwise fun a b => (a.compare b).isLE = true :=
  (List.pairwise_mergeSort trans_compare total_compare documents).imp (decide_compare _ _).1

/-- **Documents are taken in path order.** -/
theorem pairwise_sorted (documents : List Loaded) :
    (sorted documents).Pairwise fun a b => Path.compare a.path b.path ≠ .gt := by
  refine (pairwise_isLE_sorted documents).imp fun {a b} hab hgt => ?_
  rw [compare_eq, compareLex, hgt] at hab
  cases hab

end Loaded

end InterfaceGen
