import InterfaceGen.Proofs.Rebuild

/-!
# Proofs/Qualified — a type is found again under its qualified spelling, wherever it can be named

Printing qualifies every reference, so that reading needs no rule of preference: the spelling is
parsed to the expression of the type, and that is resolved in every module which may name the
references of the type. A resolved type has such references only, and no container of `void`; so it
is found again from the module where it was resolved. Main statement: `readBack_spelling`.
-/

namespace InterfaceGen

namespace Scope

variable {s : Scope} {module text reference location : String} {t : DataType}

/-- What the type refers to is declared, in the module itself or in one that is reachable from
it. -/
def Offers (s : Scope) (module : String) (t : DataType) : Prop :=
  ∀ k ∈ t.references,
    (s.kindOf k).isSome = true ∧ (k.module = module ∨ k.module ∈ s.closureOf module)

/-- **The expression of a type is resolved to the type** — by recursion on the type; nothing but
the qualified names is looked up. -/
theorem resolve_expr (h : s.Offers module t) :
    s.resolve module t.expr reference location = .ok t := by
  induction t with
  | primitive p => rfl
  | reference k =>
    obtain ⟨hdeclared, hseen⟩ := h k (List.mem_singleton.2 rfl)
    have hselects : s.listed.Selects module (some k.module) k.name k :=
      .qualified hseen ((s.declares_listed k).1 hdeclared)
    exact map_eq_ok_iff.2 ⟨k, resolveQualified_iff.2 hselects, rfl⟩
  | sequence t ih => exact map_eq_ok_iff.2 ⟨t, ih h, rfl⟩
  | set t ih => exact map_eq_ok_iff.2 ⟨t, ih h, rfl⟩
  | map t ih => exact map_eq_ok_iff.2 ⟨t, ih h, rfl⟩

theorem resolveSpelling_spelling (hnamed : t.Named) (hvoid : t.NoVoidElement)
    (h : s.Offers module t) : s.resolveSpelling module t.spelling location = .ok t := by
  rw [resolveSpelling, DataType.parse_spelling hnamed hvoid]
  exact resolve_expr h

/-- **A module may name what is resolved in it.** -/
theorem offers_of_resolveSpelling (h : s.resolveSpelling module text location = .ok t) :
    s.Offers module t := by
  obtain ⟨e, -, hdenotes⟩ := writes_of_resolveSpelling h
  exact fun k hk => (hdenotes.visible k hk).imp_left (s.declares_listed k).2

end Scope

/-- The spelling of the type stands for the type. -/
structure DataType.ReadBack (t : DataType) : Prop where
  /-- It is parsed to the type with every reference qualified, -/
  parse : TypeExpr.parse t.spelling = .ok t.expr
  /-- and resolved to the type in every module that may name the references. -/
  resolve : ∀ (s : Scope) (module location : String), s.Offers module t →
    s.resolveSpelling module t.spelling location = .ok t

/-- **A type with readable names and no container of `void` is read back from its spelling**; and
where all declared names are readable, so is every type that a spelling is resolved to. -/
theorem readBack_spelling :
    (∀ t : DataType, t.Named → t.NoVoidElement → t.ReadBack) ∧
      ∀ s : Scope, s.listed.Named → ∀ module text location t,
        s.resolveSpelling module text location = .ok t →
          ∀ again, s.resolveSpelling module t.spelling again = .ok t := by
  constructor
  · exact fun t hnamed hvoid => ⟨DataType.parse_spelling hnamed hvoid,
      fun s module location h => Scope.resolveSpelling_spelling hnamed hvoid h⟩
  · intro s hnames module text location t h again
    have hoffers := Scope.offers_of_resolveSpelling h
    have hnamed : t.Named := fun k hk => hnames k ((s.declares_listed k).1 (hoffers k hk).1)
    exact Scope.resolveSpelling_spelling hnamed (Scope.writes_of_resolveSpelling h).noVoidElement
      hoffers

/-! ## Points of a module with a dot in its name -/

/-- A module `app` that reaches the module `core.sub`. -/
def dottedScope : Scope where
  types := [("app", [("Main", .register)]), ("core.sub", [("Point", .register)])]
  closures := [("app", ["core.sub"]), ("core.sub", [])]

/-- Maps of sequences of points. -/
def pointLists : DataType := .map (.sequence (.reference ⟨"core.sub", "Point"⟩))

theorem named_dottedScope : dottedScope.listed.Named := by
  rintro ⟨module, name⟩ ⟨d, hd⟩
  obtain ⟨types, htypes, hkind⟩ := Option.bind_eq_some_iff.1
    (show dottedScope.kindOf ⟨module, name⟩ = some d from hd)
  have hmodule := Table.mem_of_find? htypes
  have hname := Table.mem_of_find? hkind
  simp only [dottedScope, List.mem_cons, Prod.mk.injEq, List.not_mem_nil, or_false] at hmodule
  rcases hmodule with ⟨rfl, rfl⟩ | ⟨rfl, rfl⟩
  · simp only [List.mem_singleton, Prod.mk.injEq] at hname
    obtain ⟨rfl, -⟩ := hname
    exact ⟨by decide, by decide⟩
  · simp only [List.mem_singleton, Prod.mk.injEq] at hname
    obtain ⟨rfl, -⟩ := hname
    exact ⟨by decide, by decide⟩

/-- What is written ` Point [] <>` in the module `app` is found again as `core.sub.Point[]<>`. -/
theorem readBack_spelling_pointLists :
    pointLists.spelling = "core.sub.Point[]<>" ∧
      dottedScope.resolveSpelling "app" " Point [] <>" "f" = .ok pointLists ∧
      dottedScope.resolveSpelling "app" pointLists.spelling "g" = .ok pointLists ∧
      pointLists.ReadBack := by
  have hresolved : dottedScope.resolveSpelling "app" " Point [] <>" "f" = .ok pointLists := by
    decide +kernel
  refine ⟨by decide, hresolved, ?_, readBack_spelling.1 pointLists ?_ ?_⟩
  · exact readBack_spelling.2 dottedScope named_dottedScope _ _ _ _ hresolved _
  · rintro k (_ | ⟨_, ⟨⟩⟩)
    exact ⟨by decide, by decide⟩
  · exact ⟨rfl, rfl, trivial⟩

end InterfaceGen
