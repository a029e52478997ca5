import InterfaceGen.Proofs.Grammar
import InterfaceGen.Proofs.References

/-!
# Proofs/OwnNames — a bare name means the module's own type, unless a primitive has that name

The name of a type is an identifier, and nothing keeps it from being the name of a primitive. Where
it is not, a field or a return that is written with this name alone is bound to the own type,
whatever the imported modules declare. Where it is, the text is read as the primitive before any
type is looked up. Main statements: `ownNames_of_merge` and, for a type called `int`,
`not_ownNames_primitiveNamed`.
-/

namespace InterfaceGen

/-! ## Bare names -/

/-- The text is the name, with nothing but white space around it. -/
def Bare (name text : String) : Prop := ∃ front back : String,
  Text.isBlankText front = true ∧ Text.isBlankText back = true ∧ text = front ++ name ++ back

/-- **Trimming a bare name leaves the name.** -/
theorem Bare.trim_eq {name text : String} (h : Bare name text) (hname : isIdentifier name = true) :
    Text.trim text.toList = name.toList := by
  obtain ⟨front, back, hfront, hback, rfl⟩ := h
  obtain ⟨⟨first, hfirst, hf⟩, last, hlast, hl⟩ := exists_ends hname
  have hstart : Text.trimStart (front ++ name ++ back).toList = name.toList ++ back.toList := by
    rw [String.toList_append, String.toList_append, List.append_assoc, Text.trimStart]
    refine Text.dropWhile_isBlank_append hfront ?_ (isBlank_of_isIdentifierRest hf)
    rw [List.head?_append, hfirst, Option.some_or]
  have hend : (back.toList.reverse ++ name.toList.reverse).dropWhile Text.isBlank =
      name.toList.reverse :=
    Text.dropWhile_isBlank_append (List.all_reverse.trans hback) hlast
      (isBlank_of_isIdentifierRest hl)
  rw [Text.trim, hstart, Text.trimEnd, List.reverse_append, hend, List.reverse_reverse]

/-- **A bare name is parsed as the primitive of that name, or else as a name.** -/
theorem Bare.parse_eq {name text : String} (h : Bare name text)
    (hname : isIdentifier name = true) :
    TypeExpr.parse text = .ok (match Primitive.ofName? name with
      | some p => .primitive p
      | none => .named none name) := by
  have hparse : ∀ {e}, TypeExpr.Base name.toList e → TypeExpr.parse text = .ok e := fun hbase => by
    rw [TypeExpr.parse, h.trim_eq hname]
    exact (TypeExpr.Derivation.Tree.base hbase).parseEnd
  cases hp : Primitive.ofName? name with
  | some p =>
    rw [Primitive.eq_name_of_ofName? hp] at hparse
    exact hparse (.primitive p)
  | none =>
    have hprimitive := Primitive.ofName?_eq_none_iff.1 hp
    rw [hparse (.own hname fun p heq => hprimitive p (String.toList_inj.1 heq)),
      String.ofList_toList]

/-! ## The own types of a module -/

/-- What the bare name of a type is bound to: the type itself, unless a primitive has its name. Void
is no type. -/
structure TypeDef.NamedBare (own : TypeDef) (bound : Option DataType) : Prop where
  itself : Primitive.ofName? own.name = none → bound = some (.reference own.key)
  primitive : ∀ p, Primitive.ofName? own.name = some p →
    bound = if p = .void then none else some (.primitive p)

/-- Wherever a field or a return is written with nothing but the name of a type of the same module,
what it is bound to is as described. -/
structure Model.OwnNames (m : Model) (documents : List Loaded)
    (described : TypeDef → Option DataType → Prop) : Prop where
  /-- Properties, parameters and fields of events, -/
  fields : ∀ t ∈ m.types, ∀ l ∈ documents, l.document.name = t.module →
    ∀ d ∈ l.document.declarations, d.name = t.name →
      List.Forall₂ (fun f b => ∀ own ∈ m.types, own.module = t.module → Bare own.name f.type →
        described own (some b.dataType)) d.fields t.fields
  /-- and what methods return. -/
  results : ∀ t ∈ m.types, ∀ l ∈ documents, l.document.name = t.module →
    ∀ d ∈ l.document.declarations, d.name = t.name →
      List.Forall₂ (fun r b => ∀ own ∈ m.types, own.module = t.module → ∀ written,
        r = some written → Bare own.name written.type → described own b) d.results t.results

namespace Namespace

variable {ns : Namespace} {own : TypeDef} {text : String}

/-- **The bare name of a declared type is bound to the type, unless a primitive has that name.** -/
theorem namedBare_of_writes {x : DataType} (hwrites : ns.Writes own.module text x)
    (hbare : Bare own.name text) (hname : isIdentifier own.name = true)
    (hdecl : ns.declares own.key) : own.NamedBare (if x.isVoid then none else some x) := by
  have hparse := hbare.parse_eq hname
  constructor
  · intro hnone
    rw [hnone] at hparse
    rw [hwrites.unique ⟨_, hparse, .named (.own hdecl)⟩]
    rfl
  · intro p hp
    rw [hp] at hparse
    rw [hwrites.unique ⟨_, hparse, .primitive p⟩]
    cases p <;> rfl

theorem namedBare_of_bindsField {f : FieldDecl} {b : Field} (hb : ns.BindsField own.module f b)
    (hbare : Bare own.name f.type) (hname : isIdentifier own.name = true)
    (hdecl : ns.declares own.key) : own.NamedBare (some b.dataType) := by
  have h := namedBare_of_writes hb.type hbare hname hdecl
  rwa [hb.notVoid] at h

theorem namedBare_of_bindsReturn {r : ReturnDecl} {bound : Option DataType}
    (hb : ns.BindsReturn own.module (some r) bound) (hbare : Bare own.name r.type)
    (hname : isIdentifier own.name = true) (hdecl : ns.declares own.key) :
    own.NamedBare bound := by
  cases hb with
  | void type => exact namedBare_of_writes type hbare hname hdecl
  | value type notVoid =>
    have h := namedBare_of_writes type hbare hname hdecl
    rwa [notVoid] at h

end Namespace

/-- **Complete drafts are built to a model with the own types of each module.** -/
theorem Drafts.Complete.ownNames {drafts : Drafts} {docs documents : List Loaded} {o : Overlay}
    (h : Complete drafts docs) (hdocs : ∀ l ∈ documents, l ∈ docs) :
    (drafts.model o).OwnNames documents TypeDef.NamedBare := by
  have hown : ∀ own ∈ (drafts.model o).types,
      (Loaded.namespaceOf docs).declares own.key ∧ isIdentifier own.name = true := fun own ht => by
    have hdecl := h.lookup_iff_declares.1 ⟨own, h.gathers.mem_types_iff.1 ht⟩
    exact ⟨hdecl, h.isIdentifier_of_declares hdecl⟩
  constructor
  · intro t ht l hl hm d hd hn
    have hbinds := h.bindsBody (h.gathers.mem_types_iff.1 ht) (hdocs l hl) hm hd hn
    refine hbinds.forall₂_fields.imp fun f b hb own hmem hmodule hbare => ?_
    rw [show t.key.module = own.module from hmodule.symm] at hb
    exact Namespace.namedBare_of_bindsField hb hbare (hown own hmem).2 (hown own hmem).1
  · intro t ht l hl hm d hd hn
    have hbinds := h.bindsBody (h.gathers.mem_types_iff.1 ht) (hdocs l hl) hm hd hn
    refine hbinds.forall₂_results.imp fun r b hb own hmem hmodule written hr hbare => ?_
    rw [show t.key.module = own.module from hmodule.symm, hr] at hb
    exact Namespace.namedBare_of_bindsReturn hb hbare (hown own hmem).2 (hown own hmem).1

/-- **In a merged model a bare name means the own type of the module**, unless a primitive has that
name. -/
theorem ownNames_of_merge {o : Overlay} {documents : List Loaded} {m : Model}
    (h : merge o documents = .ok m) : m.OwnNames documents TypeDef.NamedBare := by
  obtain ⟨hcomplete, rfl⟩ := complete_of_merge h
  exact hcomplete.ownNames fun _ => Loaded.mem_sorted.2

/-! ## A type with the name of a primitive -/

/-- A structure whose properties are written with the names of the document's types. -/
def primitiveNamedP : ComplexTypeDecl :=
  { sampleBase with
    name := "P"
    properties := [⟨"x", none, "int", false, none⟩, ⟨"y", none, " P ", false, none⟩] }

/-- A document with that structure and an alias for strings that is called `int`. -/
def primitiveNamed : List Loaded :=
  [⟨"d0.kmd.json", .local, { sampleCore with
    name := "m"
    aliases := [⟨"int", none, "String"⟩]
    complexTypes := [primitiveNamedP] }⟩]

/-- What is written `P` is bound to the type, and what is written `int` to the primitive. -/
theorem merge_primitiveNamed : ∃ m P int, merge Overlay.empty primitiveNamed = .ok m ∧
    m.types = [P, int] ∧ P.key = ⟨"m", "P"⟩ ∧ int.key = ⟨"m", "int"⟩ ∧
      P.fields.map (·.dataType) = [.primitive .int, .reference ⟨"m", "P"⟩] := by
  have hany : (merge Overlay.empty primitiveNamed).toOption.any (fun m =>
      decide (m.types.map (fun t => (t.key, t.fields.map (·.dataType))) =
        [(⟨"m", "P"⟩, [.primitive .int, .reference ⟨"m", "P"⟩]), (⟨"m", "int"⟩, [])])) = true := by
    rw [merge, show Loaded.sorted primitiveNamed = primitiveNamed from List.mergeSort_singleton _]
    decide +kernel
  obtain ⟨m, hm, hbound⟩ := exists_of_any_toOption hany
  obtain ⟨P, _, htypes, hP, hrest⟩ := List.map_eq_cons_iff.1 (of_decide_eq_true hbound)
  obtain ⟨int, _, rfl, hint, hnil⟩ := List.map_eq_cons_iff.1 hrest
  rw [List.map_eq_nil_iff] at hnil
  exact ⟨m, P, int, hm, hnil ▸ htypes, (Prod.mk.inj hP).1, (Prod.mk.inj hint).1, (Prod.mk.inj hP).2⟩

theorem ownNames_of_merge_primitiveNamed : ∃ m, merge Overlay.empty primitiveNamed = .ok m ∧
    m.OwnNames primitiveNamed TypeDef.NamedBare := by
  obtain ⟨m, _, _, hm, -⟩ := merge_primitiveNamed
  exact ⟨m, hm, ownNames_of_merge hm⟩

/-- **The alias is not what its name means.** -/
theorem not_ownNames_primitiveNamed : ∃ m, merge Overlay.empty primitiveNamed = .ok m ∧
    ¬ m.OwnNames primitiveNamed fun own bound => bound = some (.reference own.key) := by
  obtain ⟨m, P, int, hm, htypes, hP, hint, hfields⟩ := merge_primitiveNamed
  refine ⟨m, hm, fun hnames => ?_⟩
  obtain ⟨hmoduleP, hnameP⟩ := TypeKey.mk.inj hP
  obtain ⟨hmodule, hname⟩ := TypeKey.mk.inj hint
  obtain ⟨x, _, hx, hprimitive, -⟩ := List.map_eq_cons_iff.1 hfields
  have hmemP : P ∈ m.types := htypes ▸ List.mem_cons_self
  have hmem : int ∈ m.types := htypes ▸ List.mem_cons_of_mem _ List.mem_cons_self
  have hforall := hnames.fields P hmemP _ (List.mem_singleton.2 rfl) hmoduleP.symm
    (.complex primitiveNamedP) (List.mem_cons_of_mem _ List.mem_cons_self) hnameP.symm
  rw [hx] at hforall
  cases hforall with
  | cons hbinds _ =>
    have hbare : Bare int.name "int" := ⟨"", "", rfl, rfl, by rw [hname]; rfl⟩
    have hreference := hbinds int hmem (hmodule.trans hmoduleP.symm) hbare
    rw [hprimitive] at hreference
    cases hreference

end InterfaceGen
