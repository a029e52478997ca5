import InterfaceGen.Model.Merge
import InterfaceGen.Proofs.Graph.Reach
import InterfaceGen.Proofs.Spelling

/-!
# Proofs/Inheritance — the inheritance graph is the extends relation of the types

Its nodes are qualified names instead of keys. Names of types hold no dot, so two keys with one
qualified name are the same, and a cycle of names is a cycle of keys. Main statement:
`acyclic_inheritanceGraph_iff`.
-/

namespace InterfaceGen

/-- Among some types, the one with the key `a` extends the type with the key `b`. -/
def Extends (types : List TypeDef) (a b : TypeKey) : Prop :=
  ∃ t ∈ types, t.key = a ∧ t.parent = some b

/-- Neither the types nor those they extend have a dot in their names. -/
def Undotted (types : List TypeDef) : Prop :=
  ∀ a b, Extends types a b → '.' ∉ a.name.toList ∧ '.' ∉ b.name.toList

/-- A type recorded with the one it extends. -/
def Graph.addType (g : Graph) (t : TypeDef) : Graph :=
  match t.parent with
  | some parent => g.addDependency t.key.shown parent.shown
  | none => g

theorem inheritanceGraph_eq (modules : Table ModuleDef) :
    inheritanceGraph modules =
      (modules.values.flatMap (·.types.values)).foldl Graph.addType Graph.empty := rfl

variable {g : Graph} {types : List TypeDef} {a b : String}

theorem wellFormed_addTypes (h : g.WellFormed) (types : List TypeDef) :
    (types.foldl Graph.addType g).WellFormed := by
  refine List.foldlRecOn types _ h fun g hg t _ => ?_
  unfold Graph.addType
  split
  · exact hg.addDependency _ _
  · exact hg

theorem dependsOn_addTypes : (types.foldl Graph.addType g).DependsOn a b ↔
    g.DependsOn a b ∨ ∃ k p, Extends types k p ∧ a = k.shown ∧ b = p.shown := by
  induction types generalizing g with
  | nil => simp [Extends]
  | cons t types ih =>
    have hstep : (g.addType t).DependsOn a b ↔
        g.DependsOn a b ∨ ∃ p, t.parent = some p ∧ a = t.key.shown ∧ b = p.shown := by
      unfold Graph.addType
      cases t.parent with
      | none => simp
      | some p => simp [Graph.DependsOn, Graph.mem_successors_addDependency, or_comm]
    rw [List.foldl_cons, ih, hstep]
    constructor
    · rintro ((hg | ⟨p, hp, ha, hb⟩) | ⟨k, p, ⟨u, hu, hk, hp⟩, ha, hb⟩)
      · exact .inl hg
      · exact .inr ⟨t.key, p, ⟨t, List.mem_cons_self, rfl, hp⟩, ha, hb⟩
      · exact .inr ⟨k, p, ⟨u, List.mem_cons_of_mem _ hu, hk, hp⟩, ha, hb⟩
    · rintro (hg | ⟨k, p, ⟨u, hu, rfl, hp⟩, ha, hb⟩)
      · exact .inl (.inl hg)
      · rcases List.mem_cons.1 hu with rfl | hu
        · exact .inl (.inr ⟨p, hp, ha, hb⟩)
        · exact .inr ⟨u.key, p, ⟨u, hu, rfl, hp⟩, ha, hb⟩

theorem wellFormed_inheritanceGraph (modules : Table ModuleDef) :
    (inheritanceGraph modules).WellFormed :=
  wellFormed_addTypes Graph.wellFormed_empty _

theorem dependsOn_inheritanceGraph {modules : Table ModuleDef} :
    (inheritanceGraph modules).DependsOn a b ↔
      ∃ k p, Extends (modules.values.flatMap (·.types.values)) k p ∧ a = k.shown ∧ b = p.shown := by
  rw [inheritanceGraph_eq, dependsOn_addTypes]
  exact or_iff_right List.not_mem_nil

/-- A path of names is a path of keys — two steps meet in one name, which is that of one key. -/
theorem exists_keys_of_transGen {depends : String → String → Prop}
    (hdepends : ∀ a b, depends a b → ∃ k p, Extends types k p ∧ a = k.shown ∧ b = p.shown)
    (hdots : Undotted types) (h : Relation.TransGen depends a b) :
    ∃ k p, a = k.shown ∧ b = p.shown ∧ Relation.TransGen (Extends types) k p ∧
      '.' ∉ k.name.toList ∧ '.' ∉ p.name.toList := by
  induction h with
  | single hab =>
    obtain ⟨k, p, hkp, ha, hb⟩ := hdepends _ _ hab
    exact ⟨k, p, ha, hb, .single hkp, hdots k p hkp⟩
  | tail _ hbc ih =>
    obtain ⟨k, p, ha, hb, hkp, hk, hp⟩ := ih
    obtain ⟨p', q, hpq, hb', hc⟩ := hdepends _ _ hbc
    obtain ⟨hp', hq⟩ := hdots p' q hpq
    obtain rfl := TypeKey.shown_injective hp hp' (hb.symm.trans hb')
    exact ⟨k, q, ha, hc, .tail hkp hpq, hk, hq⟩

/-- **The inheritance graph has no cycle exactly when no type extends itself**, through others or
directly. -/
theorem acyclic_inheritanceGraph_iff {modules : Table ModuleDef}
    (hdots : Undotted (modules.values.flatMap (·.types.values))) :
    (inheritanceGraph modules).Acyclic ↔
      ∀ k, ¬ Relation.TransGen (Extends (modules.values.flatMap (·.types.values))) k k := by
  constructor
  · intro h k hk
    refine h k.shown (Relation.TransGen.lift TypeKey.shown (fun a b hab => ?_) k k hk)
    exact dependsOn_inheritanceGraph.2 ⟨a, b, hab, rfl, rfl⟩
  · intro h a ha
    obtain ⟨k, p, hak, hap, hkp, hk, hp⟩ :=
      exists_keys_of_transGen (fun _ _ => dependsOn_inheritanceGraph.1) hdots ha
    obtain rfl := TypeKey.shown_injective hk hp (hak.symm.trans hap)
    exact h k hkp

end InterfaceGen
