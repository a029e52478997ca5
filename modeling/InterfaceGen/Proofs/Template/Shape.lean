import InterfaceGen.Generation.Filters
import Mathlib.Data.List.Basic

/-!
# Proofs/Template/Shape — what is known of the values that a template reads

A shape tells how much of a value a template can rely on: that it is a string, that it can be
spelled as a type, that it is a list of values of one shape, or that it has certain members. An
environment gives shapes to some paths. It stays true inside a loop as far as the loop's own names
do not hide a path. Main statements: `Shape.Fits.follow`, `Env.Fits.find?`, `Env.Fits.enter`.
-/

namespace InterfaceGen.Template

/-! ## Shapes of values -/

/-- What is known of a value. -/
inductive Shape where
  | any
  | text
  /-- A value that `type_name` spells. -/
  | type
  | list (item : Shape)
  /-- An object with a member of a shape, and what else is known of the object. -/
  | member (name : String) (of rest : Shape)
  /-- Null, or a value of a shape. -/
  | nullable (of : Shape)
  deriving Repr

namespace Shape

/-- An object with some members. -/
def record (members : List (String × Shape)) : Shape :=
  members.foldr (fun (name, of) rest => .member name of rest) .any

/-- A value is what its shape says. -/
def Fits : Shape → Json → Prop
  | .any, _ => True
  | .text, v => ∃ s, v = .str s
  | .type, v => ∀ d, ∃ s, Filters.spellValue d v = .ok s
  | .list item, v => ∃ items, v = .arr items ∧ ∀ w ∈ items, item.Fits w
  | .member name of rest, v => (∃ w, v.get? name = some w ∧ of.Fits w) ∧ rest.Fits v
  | .nullable of, v => v = .null ∨ of.Fits v

/-- The shape at the end of some segments; none if nothing is known there. -/
def follow? : Shape → List String → Option Shape
  | shape, [] => some shape
  | .member name of rest, segment :: segments =>
    if segment = name then of.follow? segments else rest.follow? (segment :: segments)
  | _, _ :: _ => none

/-- The shape of a value that counts as true. -/
def whenTrue : Shape → Shape
  | .nullable of => of
  | shape => shape

variable {shape : Shape} {v : Json}

/-- **An object fits a record exactly if each of the members fits.** -/
theorem fits_record {members : List (String × Shape)} : (record members).Fits v ↔
    ∀ p ∈ members, ∃ w, v.get? p.1 = some w ∧ p.2.Fits w := by
  induction members with
  | nil => simp [record, Fits]
  | cons p members ih =>
    rw [List.forall_mem_cons, ← ih]
    rfl

theorem Fits.whenTrue (h : shape.Fits v) (hv : truthy v = true) : shape.whenTrue.Fits v := by
  cases shape with
  | nullable of =>
    rcases h with rfl | h
    · cases hv
    · exact h
  | _ => exact h

/-- **A value has at the end of a path what its shape has there.** -/
theorem Fits.follow {segments : List String} {found : Shape} (h : shape.Fits v)
    (hfound : shape.follow? segments = some found) :
    ∃ w, Template.follow? v segments = some w ∧ found.Fits w := by
  fun_induction follow? shape segments generalizing v with
  | case1 shape =>
    obtain rfl := Option.some.inj hfound
    exact ⟨v, rfl, h⟩
  | case2 of rest segment segments ih =>
    obtain ⟨⟨w, hw, hof⟩, -⟩ := h
    obtain ⟨x, hx, hfits⟩ := ih hof hfound
    have hstep : step? v segment = some w := by
      cases v with
      | obj members => exact hw
      | _ => cases hw
    exact ⟨x, by rw [Template.follow?, hstep, Option.bind_some, hx], hfits⟩
  | case3 name of rest segment segments _ ih => exact ih h.2 hfound
  | case4 => cases hfound

end Shape

/-! ## Paths in a scope -/

/-- The value at the end of some segments. -/
def Scope.at? (s : Scope) (segments : List String) : Option Json :=
  Scope.findIn s.globals segments (s.inner :: s.outer)

theorem Scope.find?_eq (s : Scope) (path : String) :
    s.find? path = s.at? (Text.pieces '.' path) := rfl

section Append

variable {first : String} (segments rest : List String)

/-- The names of a loop are followed like any value, other than how far the loop is. -/
theorem Loop.find?_append (l : Loop) (hfirst : first ≠ "loop") :
    l.find? (first :: segments ++ rest) = (l.find? (first :: segments)).bind (follow? · rest) := by
  have hplain : ∀ path, l.find? (first :: path) = if first = l.value then
      follow? l.currentValue path else if l.key = some first ∧ path.isEmpty then
        some (.str l.currentKey) else none := by
    intro path
    rw [Loop.find?.eq_def]
    split <;> simp_all
  rw [List.cons_append, hplain, hplain]
  split
  · rw [follow?_append]
  · cases segments with
    | cons segment segments => simp
    | nil =>
      cases rest with
      | nil => simp [follow?]
      | cons segment rest =>
        rw [List.nil_append, if_neg (by simp)]
        split <;> rfl

/-- What a frame has at a path can be followed further, and what it lacks is not there either. -/
theorem Frame.find?_append (f : Frame) (hfirst : first ≠ "loop") :
    (∀ v w, f.find? (first :: segments) = some v → follow? v rest = some w →
      f.find? (first :: segments ++ rest) = some w) ∧
    (f.find? (first :: segments) = none → f.find? (first :: segments ++ rest) = none) := by
  have hassigned : (f.assigned.lookup first).bind (follow? · (segments ++ rest)) =
      ((f.assigned.lookup first).bind (follow? · segments)).bind (follow? · rest) := by
    simp only [follow?_append, Option.bind_assoc]
  have hloop : f.loop.bind (·.find? (first :: segments ++ rest)) =
      (f.loop.bind (·.find? (first :: segments))).bind (follow? · rest) := by
    simp only [Loop.find?_append _ _ _ hfirst, Option.bind_assoc]
  simp only [Frame.find?, List.cons_append] at hloop ⊢
  rw [hassigned, hloop]
  cases (f.assigned.lookup first).bind (follow? · segments) with
  | some x =>
    refine ⟨fun v w hv hw => ?_, fun hnone => absurd hnone (Option.some_ne_none x)⟩
    obtain rfl := Option.some.inj hv
    rw [Option.bind_some, hw, Option.some_or]
  | none =>
    rw [Option.bind_none, Option.none_or, Option.none_or]
    refine ⟨fun v w hv hw => by rw [hv, Option.bind_some, hw], fun hv => by rw [hv]; rfl⟩

/-- **What a path leads to can be followed further**, unless the path asks how far a loop is. -/
theorem Scope.at?_append {s : Scope} {v w : Json} (hfirst : first ≠ "loop")
    (hv : s.at? (first :: segments) = some v) (hw : follow? v rest = some w) :
    s.at? (first :: segments ++ rest) = some w := by
  rw [at?] at hv ⊢
  generalize s.inner :: s.outer = frames at hv ⊢
  induction frames with
  | nil =>
    simp only [findIn] at hv
    simp only [List.cons_append, findIn, follow?_append, ← Option.bind_assoc]
    rw [hv, Option.bind_some, hw]
  | cons f frames ih =>
    rw [findIn] at hv ⊢
    obtain ⟨hsome, hnone⟩ := f.find?_append segments rest hfirst
    cases hf : f.find? (first :: segments) with
    | some x =>
      rw [hf, Option.some_or] at hv
      obtain rfl := Option.some.inj hv
      rw [hsome x w hf hw, Option.some_or]
    | none =>
      rw [hf, Option.none_or] at hv
      rw [hnone hf, Option.none_or, ih hv]

end Append

/-! ## Environments -/

/-- What is known of the values at some paths. -/
abbrev Env := List (List String × Shape)

namespace Env

/-- A scope has at the paths what the environment says. -/
def Fits (env : Env) (s : Scope) : Prop :=
  ∀ p ∈ env, ∃ v, s.at? p.1 = some v ∧ p.2.Fits v

/-- What is known at a path, followed from the first entry that leads there. -/
def at? (env : Env) (segments : List String) : Option Shape :=
  env.findSome? fun (front, shape) =>
    if front = segments then some shape
    else if front.head?.any (· ≠ "loop") then
      (front.isPrefixOf? segments).bind shape.follow?
    else none

/-- What is known at a dotted path. -/
def find? (env : Env) (path : String) : Option Shape := env.at? (Text.pieces '.' path)

/-- The environment inside a loop over values of a shape. -/
def enter (env : Env) (value : String) (item : Shape) : Env :=
  ([value], item) :: (["loop", "first"], .any) ::
    env.filter fun p => p.1.head? ≠ some value ∧ p.1.head? ≠ some "loop"

variable {env : Env} {s : Scope}

theorem fits_cons {segments : List String} {shape : Shape} : Fits ((segments, shape) :: env) s ↔
    (∃ v, s.at? segments = some v ∧ shape.Fits v) ∧ Fits env s :=
  List.forall_mem_cons

/-- **A scope has at a path what is known of it.** -/
theorem Fits.at? (h : env.Fits s) {segments : List String} {shape : Shape}
    (hshape : env.at? segments = some shape) : ∃ v, s.at? segments = some v ∧ shape.Fits v := by
  obtain ⟨⟨front, known⟩, hmem, hfound⟩ := List.exists_of_findSome?_eq_some hshape
  obtain ⟨v, hv, hfits⟩ := h _ hmem
  simp only at hfound hv hfits
  split at hfound
  · next heq =>
    obtain rfl := Option.some.inj hfound
    exact ⟨v, heq ▸ hv, hfits⟩
  · split at hfound
    · next hfirst =>
      obtain ⟨rest, hrest, hknown⟩ := Option.bind_eq_some_iff.1 hfound
      obtain rfl := List.isPrefixOf?_eq_some_iff_append_eq.1 hrest
      obtain ⟨w, hw, hthere⟩ := hfits.follow hknown
      cases front with
      | nil => cases hfirst
      | cons first front =>
        exact ⟨w, Scope.at?_append front rest (by simpa using hfirst) hv hw, hthere⟩
    · cases hfound

theorem Fits.find? (h : env.Fits s) {path : String} {shape : Shape}
    (hshape : env.find? path = some shape) : ∃ v, s.find? path = some v ∧ shape.Fits v :=
  h.at? hshape

/-- An embedded file sees what the file that embeds it sees. -/
theorem Fits.embed (h : env.Fits s) (file : String) : env.Fits (s.embed file) := by
  have hat : ∀ segments, (s.embed file).at? segments = s.at? segments := by
    intro segments
    rw [Scope.at?, Scope.embed, Scope.enter, Scope.findIn]
    cases segments <;> rfl
  exact fun p hp => by rw [hat]; exact h p hp

/-- **Inside a loop the loop's own names are known, and all else that they do not hide.** -/
theorem Fits.enter (h : env.Fits s) {l : Loop} {item : Shape} (hkey : l.key = none)
    (hitem : item.Fits l.currentValue) : (env.enter l.value item).Fits (s.enter ⟨[], some l⟩) := by
  have hat : ∀ segments, (s.enter ⟨[], some l⟩).at? segments =
      (l.find? segments).or (s.at? segments) := by
    intro segments
    rw [Scope.at?, Scope.enter, Scope.findIn]
    cases segments <;> rfl
  rw [Env.enter, fits_cons, fits_cons]
  refine ⟨⟨_, ?_, hitem⟩, ⟨.bool (l.index == 0), ?_, trivial⟩, fun p hp => ?_⟩
  · rw [hat, Loop.find?.eq_def]
    simp [follow?]
  · rw [hat]
    rfl
  · obtain ⟨hp, hplain⟩ := List.mem_filter.1 hp
    obtain ⟨hvalue, hloop⟩ := of_decide_eq_true hplain
    obtain ⟨v, hv, hfits⟩ := h p hp
    have hnone : l.find? p.1 = none := by
      rw [Loop.find?.eq_def]
      split <;> simp_all
    exact ⟨v, by rw [hat, hnone, Option.none_or, hv], hfits⟩

end Env

end InterfaceGen.Template
