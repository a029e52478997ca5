import InterfaceGen.Proofs.Validity
import Mathlib.Data.Fintype.Card
import Mathlib.Data.Fintype.EquivFin
import Mathlib.Data.Fintype.Sets

/-!
# Proofs/References — every key in a model leads to the type that the documents mean

A model that was merged has no dangling key: each one, at any depth of any position, is found in the
model, in a module that the referring one sees, and is what the rule selects for the written text.
Parents are of the same kind as their children, and following them ends. Main statement:
`resolved_of_merge`.
-/

namespace InterfaceGen

/-! ## Where a type holds keys -/

namespace TypeDef

/-- The fields of a type: properties, parameters and fields of events. -/
def fields (t : TypeDef) : List Field :=
  match t.body with
  | .complex _ properties => properties
  | .remote _ _ constructor methods events =>
    (constructor.map (·.params)).getD [] ++ methods.flatMap (·.params) ++
      events.flatMap (·.properties)
  | _ => []

/-- The types that the methods of a type return. -/
def returns (t : TypeDef) : List DataType :=
  match t.body with
  | .remote _ _ _ methods _ => methods.filterMap (·.returnType)
  | _ => []

/-- What each method of a type returns, if it returns anything. -/
def results (t : TypeDef) : List (Option DataType) :=
  match t.body with
  | .remote _ _ _ methods _ => methods.map (·.returnType)
  | _ => []

theorem mem_returns_iff {t : TypeDef} {x : DataType} : x ∈ t.returns ↔ some x ∈ t.results := by
  rw [returns, results]
  split
  · rw [List.mem_filterMap, List.mem_map]
  · exact iff_of_false List.not_mem_nil List.not_mem_nil

/-- The types at all positions of a type. -/
def dataTypes (t : TypeDef) : List DataType := t.fields.map (·.dataType) ++ t.returns

/-- The keys at all positions of a type: its parent, those in the types of its members, at any
depth, and the owners of its events. -/
def references (t : TypeDef) : List TypeKey :=
  t.parent.toList ++ t.dataTypes.flatMap (·.references) ++ t.events.map (·.owner)

end TypeDef

/-- What each method of a declaration returns, if it says so. -/
def Declaration.results : Declaration → List (Option ReturnDecl)
  | .remote r => r.methods.map (·.result)
  | _ => []

namespace Namespace

variable {ns : Namespace} {key : TypeKey} {d : Declaration} {t : TypeDef}

/-- **The fields of a type bind those of its declaration, one after the other.** -/
theorem BindsBody.forall₂_fields (hb : ns.BindsBody key d t.body) :
    List.Forall₂ (ns.BindsField key.module) d.fields t.fields := by
  obtain ⟨name, module, origin, doc, body⟩ := t
  cases hb with
  | «alias» _ _ => exact .nil
  | enum _ _ fields =>
    rw [Declaration.fields, fields]
    exact .nil
  | complex _ _ fields => exact fields
  | @remote r _ constructor _ _ _ create call emit =>
    have hcreate : List.Forall₂ (ns.BindsField key.module)
        ((r.constructor.map (·.params)).getD []) ((constructor.map (·.params)).getD []) := by
      generalize r.constructor = declared at create
      cases create with
      | none => exact .nil
      | some params => exact params
    have hcall : List.Forall₂ (ns.BindsField key.module) (r.methods.flatMap (·.params)) _ :=
      List.rel_flatMap call fun _ _ hm => hm.params
    have hemit : List.Forall₂ (ns.BindsField key.module) (r.events.flatMap (·.properties)) _ :=
      List.rel_flatMap emit fun _ _ he => he.properties
    exact List.rel_append (List.rel_append hcreate hcall) hemit

/-- **Every field of a type binds a field that its declaration writes.** -/
theorem BindsBody.fields (hb : ns.BindsBody key d t.body) :
    ∀ f ∈ t.fields, ∃ g ∈ d.fields, ns.BindsField key.module g f :=
  exists_of_forall₂ hb.forall₂_fields

/-- **What the methods of a type return binds what those of its declaration do.** -/
theorem BindsBody.forall₂_results (hb : ns.BindsBody key d t.body) :
    List.Forall₂ (ns.BindsReturn key.module) d.results t.results := by
  obtain ⟨name, module, origin, doc, body⟩ := t
  cases hb with
  | «alias» _ _ => exact .nil
  | enum _ _ _ => exact .nil
  | complex _ _ _ => exact .nil
  | remote _ _ call _ => exact List.rel_map (fun _ _ hm => hm.result) call

/-- **Every type at a position is written there.** -/
theorem BindsBody.writes (hb : ns.BindsBody key d t.body) :
    ∀ x ∈ t.dataTypes, ∃ text, ns.Writes key.module text x := by
  intro x hx
  rcases List.mem_append.1 hx with hx | hx
  · obtain ⟨f, hf, rfl⟩ := List.mem_map.1 hx
    obtain ⟨g, -, hbinds⟩ := hb.fields f hf
    exact ⟨g.type, hbinds.type⟩
  · obtain ⟨_, -, hresult⟩ := exists_of_forall₂ hb.forall₂_results _ (TypeDef.mem_returns_iff.1 hx)
    cases hresult with
    | @value r _ type _ => exact ⟨r.type, type⟩

/-- The events of a type are its own. -/
theorem BindsBody.owner (hb : ns.BindsBody key d t.body) : ∀ e ∈ t.events, e.owner = key := by
  obtain ⟨name, module, origin, doc, body⟩ := t
  intro e he
  cases hb with
  | «alias» _ _ => cases he
  | enum _ _ _ => cases he
  | complex _ _ _ => cases he
  | remote _ _ _ emit =>
    obtain ⟨_, -, hbinds⟩ := exists_of_forall₂ emit e he
    exact hbinds.owner

/-- **Every key in a type is declared where its module sees it.** -/
theorem BindsBody.visible (hb : ns.BindsBody key d t.body) (hkey : ns.declares key) :
    ∀ r ∈ t.references,
      ns.declares r ∧ (r.module = key.module ∨ ns.reaches key.module r.module) := by
  have hwrites : ∀ {text x}, ns.Writes key.module text x → ∀ r ∈ x.references,
      ns.declares r ∧ (r.module = key.module ∨ ns.reaches key.module r.module) :=
    fun ⟨_, _, hdenotes⟩ => hdenotes.visible
  intro r hr
  simp only [TypeDef.references, List.mem_append, Option.mem_toList, List.mem_flatMap,
    List.mem_map] at hr
  rcases hr with (hr | ⟨x, hx, hr⟩) | ⟨e, he, rfl⟩
  · have hparent := hb.parent
    rw [Option.mem_def.1 hr] at hparent
    generalize d.parent = parent at hparent
    cases hparent with
    | some hbinds => exact hwrites hbinds.type r (List.mem_singleton.2 rfl)
  · obtain ⟨text, htext⟩ := hb.writes x hx
    exact hwrites htext r hr
  · rw [hb.owner e he]
    exact ⟨hkey, .inl rfl⟩

end Namespace

/-! ## Lineages -/

/-- The keys from a type to the last one it extends, through all between them. -/
inductive Model.Lineage (m : Model) : TypeKey → List TypeKey → Prop where
  | root {k : TypeKey} {t : TypeDef} (type : m.lookup k = some t) (top : t.parent = none) :
      Lineage m k [k]
  | child {k p : TypeKey} {t : TypeDef} {rest : List TypeKey} (type : m.lookup k = some t)
      (parent : t.parent = some p) (next : Lineage m p rest) : Lineage m k (k :: rest)

namespace Model

variable {m : Model} {k : TypeKey} {chain : List TypeKey}

/-- The type with the key `a` extends the one with the key `b`. -/
def Extends (m : Model) (a b : TypeKey) : Prop := ∃ t, m.lookup a = some t ∧ t.parent = some b

/-- A lineage holds nothing but its start and what that extends. -/
theorem Lineage.extends (h : m.Lineage k chain) :
    ∀ x ∈ chain, x = k ∨ Relation.TransGen m.Extends k x := by
  induction h with
  | root _ _ => exact fun x hx => .inl (List.mem_singleton.1 hx)
  | child type parent _ ih =>
    intro x hx
    have hstep : m.Extends _ _ := ⟨_, type, parent⟩
    rcases List.mem_cons.1 hx with rfl | hx
    · exact .inl rfl
    · rcases ih x hx with rfl | hpx
      · exact .inr (.single hstep)
      · exact .inr (.head hstep hpx)

/-- **Without a cycle, no key comes twice in a lineage.** -/
theorem Lineage.nodup (hacyclic : ∀ k, ¬ Relation.TransGen m.Extends k k) (h : m.Lineage k chain) :
    chain.Nodup := by
  induction h with
  | root _ _ => exact List.nodup_singleton _
  | child type parent next ih =>
    refine List.nodup_cons.2 ⟨fun hk => ?_, ih⟩
    have hstep : m.Extends _ _ := ⟨_, type, parent⟩
    rcases next.extends _ hk with heq | hpk
    · exact hacyclic _ (.single (heq ▸ hstep))
    · exact hacyclic _ (.head hstep hpk)

/-- **Without a cycle, every type has a lineage** — there are finitely many types, and each step
leads to one that was not met before. -/
theorem exists_lineage (hacyclic : ∀ k, ¬ Relation.TransGen m.Extends k k)
    (hclosed : ∀ a b, m.Extends a b → ∃ u, m.lookup b = some u) {keys : List TypeKey}
    (hkeys : ∀ k t, m.lookup k = some t → k ∈ keys) {k : TypeKey} {t : TypeDef}
    (ht : m.lookup k = some t) : ∃ chain, m.Lineage k chain := by
  have hwf : WellFounded fun b a : {k // k ∈ keys} => Relation.TransGen m.Extends a.1 b.1 := by
    have : IsTrans {k // k ∈ keys} fun b a => Relation.TransGen m.Extends a.1 b.1 :=
      ⟨fun _ _ _ hab hbc => hbc.trans hab⟩
    have : Std.Irrefl fun b a : {k // k ∈ keys} => Relation.TransGen m.Extends a.1 b.1 :=
      ⟨fun a => hacyclic a.1⟩
    exact Finite.wellFounded_of_trans_of_irrefl _
  suffices hall : ∀ a : {k // k ∈ keys}, ∀ t, m.lookup a.1 = some t →
      ∃ chain, m.Lineage a.1 chain from hall ⟨k, hkeys k t ht⟩ t ht
  intro a
  induction a using hwf.induction with
  | _ a ih =>
    intro t ht
    cases hp : t.parent with
    | none => exact ⟨_, .root ht hp⟩
    | some p =>
      have hstep : m.Extends a.1 p := ⟨t, ht, hp⟩
      obtain ⟨u, hu⟩ := hclosed _ _ hstep
      obtain ⟨rest, hrest⟩ := ih ⟨p, hkeys p u hu⟩ (.single hstep) u hu
      exact ⟨_, .child ht hp hrest⟩

end Model

/-! ## The keys of a merged model -/

/-- The keys of a model lead where its documents say. -/
structure Model.Resolved (m : Model) (documents : List Loaded) : Prop where
  /-- A type is found under its own key. -/
  types : ∀ t ∈ m.types, m.lookup t.key = some t
  /-- Every key in a type leads to a type… -/
  closed : ∀ t ∈ m.types, ∀ r ∈ t.references, ∃ u, m.lookup r = some u
  /-- …in the same module, or in one that is reached by imports. -/
  visible : ∀ t ∈ m.types, ∀ r ∈ t.references,
    r.module = t.module ∨ Relation.TransGen (Loaded.Imports documents) t.module r.module
  /-- Every type is declared by a document of its module… -/
  declared : ∀ t ∈ m.types, ∃ l ∈ documents, l.document.name = t.module ∧
    ∃ d ∈ l.document.declarations, d.name = t.name
  /-- …and has at each position what the rule selects for the text that each such declaration
  writes there. -/
  bound : ∀ t ∈ m.types, ∀ l ∈ documents, l.document.name = t.module →
    ∀ d ∈ l.document.declarations, d.name = t.name →
      (Loaded.namespaceOf documents).BindsBody t.key d t.body
  /-- A parent is of the same kind as its child. -/
  parents : ∀ t ∈ m.types, ∀ p, t.parent = some p → ∃ u, m.lookup p = some u ∧ u.kind = t.kind
  /-- Following parents ends, and meets no type twice. -/
  lineages : ∀ t ∈ m.types, ∃ chain, m.Lineage t.key chain ∧ chain.Nodup
  fields : ∀ t ∈ m.types, ∀ f ∈ t.fields, f.dataType.isVoid = false
  elements : ∀ t ∈ m.types, ∀ x ∈ t.dataTypes, x.NoVoidElement

/-- Neither order nor repetition of documents matters to what their keys mean. -/
theorem Model.Resolved.congr {m : Model} {documents others : List Loaded}
    (hr : m.Resolved documents) (h : ∀ l, l ∈ documents ↔ l ∈ others) : m.Resolved others where
  types := hr.types
  closed := hr.closed
  visible := Loaded.imports_congr h ▸ hr.visible
  declared t ht := by
    obtain ⟨l, hl, hd⟩ := hr.declared t ht
    exact ⟨l, (h l).1 hl, hd⟩
  bound t ht l hl := Loaded.namespaceOf_congr h ▸ hr.bound t ht l ((h l).2 hl)
  parents := hr.parents
  lineages := hr.lineages
  fields := hr.fields
  elements := hr.elements

namespace Drafts.Complete

variable {drafts : Drafts} {docs : List Loaded} {o : Overlay} {t : TypeDef}

/-- A type is built from a declaration, and binds it. -/
theorem exists_bindsBody (h : Complete drafts docs) (ht : t ∈ (drafts.model o).types) :
    ∃ l ∈ docs, l.document.name = t.module ∧ ∃ d ∈ l.document.declarations, d.name = t.name ∧
      (Loaded.namespaceOf docs).BindsBody t.key d t.body := by
  have hlookup := h.gathers.mem_types_iff.1 ht
  obtain ⟨l, hl, hm, d, hd, hn⟩ := h.exists_declaration hlookup
  exact ⟨l, hl, hm, d, hd, hn, h.bindsBody hlookup hl hm hd hn⟩

/-- Every key in a type of the model is declared where its module sees it. -/
theorem visible (h : Complete drafts docs) (ht : t ∈ (drafts.model o).types) :
    ∀ r ∈ t.references, (Loaded.namespaceOf docs).declares r ∧
      (r.module = t.module ∨ Relation.TransGen (Loaded.Imports docs) t.module r.module) := by
  obtain ⟨l, hl, hm, d, hd, hn, hbinds⟩ := h.exists_bindsBody ht
  exact hbinds.visible (Loaded.declares_namespaceOf.2 ⟨l, hl, hm, d, hd, hn⟩)

/-- The parent of a type is in the model, and of the same kind. -/
theorem exists_parent (h : Complete drafts docs) (ht : t ∈ (drafts.model o).types) {p : TypeKey}
    (hp : t.parent = some p) : ∃ u, (drafts.model o).lookup p = some u ∧ u.kind = t.kind := by
  have hlookup := h.gathers.mem_types_iff.1 ht
  obtain ⟨l, hl, hm, d, hd, hn, hbinds⟩ := h.exists_bindsBody ht
  obtain ⟨_, -, hparent⟩ := h.parent_of_lookup hlookup hp hl hm hd hn
  obtain ⟨l', hl', hm', e, he, hn', hkind⟩ := hparent.kind
  obtain ⟨u, hu, hbinds'⟩ := h.exists_lookup o hl' hm' he hn'
  exact ⟨u, hu, hbinds'.kind_eq hbinds hkind⟩

/-- A model extends what its documents extend. -/
theorem extends_model (h : Complete drafts docs) :
    (drafts.model o).Extends = Loaded.Extends docs := by
  funext a b
  rw [← propext (h.extends_iff (o := o))]
  refine propext ⟨?_, ?_⟩
  · rintro ⟨t, ht, hp⟩
    obtain ⟨-, -, -, hkey, -⟩ := h.declOf_of_lookup ht
    exact ⟨t, h.gathers.mem_types_iff.2 (hkey ▸ ht), hkey, hp⟩
  · rintro ⟨t, ht, rfl, hp⟩
    exact ⟨t, h.gathers.mem_types_iff.1 ht, hp⟩

/-- Every type has a lineage, in which no key comes twice. -/
theorem exists_lineage (h : Complete drafts docs)
    (hacyclic : ∀ k, ¬ Relation.TransGen (Loaded.Extends docs) k k)
    (ht : t ∈ (drafts.model o).types) :
    ∃ chain, (drafts.model o).Lineage t.key chain ∧ chain.Nodup := by
  rw [← h.extends_model (o := o)] at hacyclic
  have hkeys : ∀ k u, (drafts.model o).lookup k = some u →
      k ∈ (drafts.model o).types.map (·.key) := fun k u hu => by
    obtain ⟨-, -, -, hkey, -⟩ := h.declOf_of_lookup hu
    exact List.mem_map.2 ⟨u, h.gathers.mem_types_iff.2 (hkey ▸ hu), hkey⟩
  have hclosed : ∀ a b, (drafts.model o).Extends a b → ∃ u, (drafts.model o).lookup b = some u := by
    rintro a b ⟨u, hu, hp⟩
    obtain ⟨-, -, -, hkey, -⟩ := h.declOf_of_lookup hu
    obtain ⟨v, hv, -⟩ := h.exists_parent (h.gathers.mem_types_iff.2 (hkey ▸ hu)) hp
    exact ⟨v, hv⟩
  obtain ⟨chain, hchain⟩ :=
    Model.exists_lineage hacyclic hclosed hkeys (h.gathers.mem_types_iff.1 ht)
  exact ⟨chain, hchain, hchain.nodup hacyclic⟩

/-- **Complete drafts are built to a model whose keys lead where the documents say.** -/
theorem resolved (h : Complete drafts docs)
    (hacyclic : ∀ k, ¬ Relation.TransGen (Loaded.Extends docs) k k) :
    (drafts.model o).Resolved docs where
  types t ht := h.gathers.mem_types_iff.1 ht
  closed t ht r hr := h.lookup_iff_declares.2 (h.visible ht r hr).1
  visible t ht r hr := (h.visible ht r hr).2
  declared t ht := by
    obtain ⟨l, hl, hm, d, hd, hn, -⟩ := h.exists_bindsBody ht
    exact ⟨l, hl, hm, d, hd, hn⟩
  bound t ht l hl hm d hd hn := h.bindsBody (h.gathers.mem_types_iff.1 ht) hl hm hd hn
  parents t ht p hp := h.exists_parent ht hp
  lineages t ht := h.exists_lineage hacyclic ht
  fields t ht f hf := by
    obtain ⟨_, -, -, _, -, -, hbinds⟩ := h.exists_bindsBody ht
    obtain ⟨_, -, hfield⟩ := hbinds.fields f hf
    exact hfield.notVoid
  elements t ht x hx := by
    obtain ⟨_, -, -, _, -, -, hbinds⟩ := h.exists_bindsBody ht
    obtain ⟨text, htext⟩ := hbinds.writes x hx
    exact htext.noVoidElement

end Drafts.Complete

/-- **Every key in a merged model leads to the type that the documents mean.** -/
theorem resolved_of_merge {o : Overlay} {documents : List Loaded} {m : Model}
    (h : merge o documents = .ok m) : m.Resolved documents := by
  obtain ⟨hcomplete, rfl⟩ := complete_of_merge h
  obtain ⟨-, -, -, -, hlineage, -⟩ := merge_eq_ok_iff.1 h
  have hresolved := hcomplete.resolved (o := o) (hcomplete.cycles_eq_nil_iff.1 hlineage)
  exact hresolved.congr fun _ => Loaded.mem_sorted

/-- The keys of the sample's model lead where the sample says. -/
theorem resolved_of_merge_sample :
    ∃ m, merge Overlay.empty sample = .ok m ∧ m.Resolved sample := by
  obtain ⟨m, hm⟩ := exists_merge_sample
  exact ⟨m, hm, resolved_of_merge hm⟩

end InterfaceGen
