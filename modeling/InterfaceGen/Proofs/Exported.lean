import InterfaceGen.Proofs.Collect
import InterfaceGen.Proofs.Model
import InterfaceGen.Proofs.Rebuild

/-!
# Proofs/Exported — the document a module is written back as has nothing wrong with it

Its header is made of what clean headers said, and each of its declarations has the names of one
that had no problems; the sections of the document hold the types of the module, each once. So what
is collected of it is known to the last field. Main statement: `Drafts.Complete.first_toLoaded`.
-/

namespace InterfaceGen

/-! ## Declarations -/

namespace TypeDef

variable {ns : Namespace} {key : TypeKey} {t : TypeDef} {d : Declaration}

@[simp] theorem name_toDecl (t : TypeDef) : t.toDecl.name = t.name := by
  obtain ⟨name, module, origin, doc, body⟩ := t
  cases body <;> rfl

/-- A type is written back as a declaration of the kind it was declared with. -/
theorem kind_toDecl (hb : ns.BindsBody key d t.body) : t.toDecl.kind = d.kind := by
  obtain ⟨name, module, origin, doc, body⟩ := t
  cases hb with
  | «alias» _ _ => rfl
  | enum format _ _ => simp [toDecl, Declaration.kind, format]
  | complex format _ _ => simp [toDecl, Declaration.kind, format]
  | remote _ _ _ _ => rfl

/-- Fields are written back under their names. -/
theorem names_toDecl {module : String} {fs : List FieldDecl} {bs : List Field}
    (hb : ns.BindsFields module fs bs) :
    (bs.map Field.toDecl).map (·.name) = fs.map (·.name) := by
  rw [List.map_map]
  exact (map_eq_of_forall₂ (fun f b hfb => hfb.name.symm) hb).symm

theorem fieldProblems_toDecl {module : String} {fs : List FieldDecl} {bs : List Field}
    (hb : ns.BindsFields module fs bs) (what : String) :
    fieldProblems what (bs.map Field.toDecl) = fieldProblems what fs := by
  rw [fieldProblems, fieldProblems, names_toDecl hb]

theorem methodProblems_toDecl {m : MethodDecl} {o : Operation} (hb : ns.BindsMethod key.module m o)
    (owner : String) :
    RemoteClassDecl.methodProblems owner o.toDecl = RemoteClassDecl.methodProblems owner m := by
  simp only [RemoteClassDecl.methodProblems, Operation.toDecl, hb.name,
    fieldProblems_toDecl hb.params]

theorem eventProblems_toDecl {e : EventDecl} {b : Event} (hb : ns.BindsEvent key e b)
    (owner : String) :
    RemoteClassDecl.eventProblems owner b.toDecl = RemoteClassDecl.eventProblems owner e := by
  simp only [RemoteClassDecl.eventProblems, Event.toDecl, hb.name,
    fieldProblems_toDecl hb.properties]

/-- A remote class written back has the problems of the one that was declared. -/
theorem remoteProblems_toDecl {r written : RemoteClassDecl} {constructor : Option Constructor}
    {methods : List Operation} {events : List Event} (hname : written.name = r.name)
    (hconstructor : written.constructor = constructor.map Constructor.toDecl)
    (hmethods : written.methods = methods.map Operation.toDecl)
    (hevents : written.events = events.map Event.toDecl)
    (create : Option.Rel (fun c b => ns.BindsFields key.module c.params b.params)
      r.constructor constructor)
    (call : List.Forall₂ (ns.BindsMethod key.module) r.methods methods)
    (emit : List.Forall₂ (ns.BindsEvent key) r.events events) : written.problems = r.problems := by
  have hcreate : written.constructorProblems = r.constructorProblems := by
    unfold RemoteClassDecl.constructorProblems
    rw [hconstructor, hname]
    generalize r.constructor = declared at create ⊢
    cases create with
    | some hparams => exact fieldProblems_toDecl hparams _
    | none => rfl
  have hmethodNames : written.methods.map (·.name) = r.methods.map (·.name) := by
    rw [hmethods, List.map_map]
    exact (map_eq_of_forall₂ (fun m o hmo => hmo.name.symm) call).symm
  have heventNames : written.events.map (·.name) = r.events.map (·.name) := by
    rw [hevents, List.map_map]
    exact (map_eq_of_forall₂ (fun e b heb => heb.name.symm) emit).symm
  have hcall : written.methods.map (RemoteClassDecl.methodProblems r.name) =
      r.methods.map (RemoteClassDecl.methodProblems r.name) := by
    rw [hmethods, List.map_map]
    exact (map_eq_of_forall₂ (r := ns.BindsMethod key.module)
      (fun m o hmo => (methodProblems_toDecl hmo r.name).symm) call).symm
  have hemit : written.events.map (RemoteClassDecl.eventProblems r.name) =
      r.events.map (RemoteClassDecl.eventProblems r.name) := by
    rw [hevents, List.map_map]
    exact (map_eq_of_forall₂ (r := ns.BindsEvent key)
      (fun e b heb => (eventProblems_toDecl heb r.name).symm) emit).symm
  simp only [RemoteClassDecl.problems, List.flatMap_def, hname, hcreate, hmethodNames,
    heventNames, hcall, hemit]

/-- **A type is written back without problems** — they concern nothing but names and values, which
are those of its declaration. -/
theorem problems_toDecl (hb : ns.BindsBody key d t.body) (hn : t.name = d.name)
    (hd : d.problems = []) : t.toDecl.problems = [] := by
  obtain ⟨hname, hbody⟩ := List.append_eq_nil_iff.1 hd
  refine List.append_eq_nil_iff.2 ⟨by rw [name_toDecl, hn]; exact hname, ?_⟩
  obtain ⟨name, module, origin, doc, body⟩ := t
  obtain rfl : name = d.name := hn
  cases hb with
  | @«alias» a target _ notVoid =>
    simp only [toDecl, Declaration.bodyProblems, AliasDecl.problems,
      Primitive.ofName?_trimmed]
  | @enum c format _ _ =>
    simp only [Declaration.bodyProblems, ComplexTypeDecl.problems, format,
      ComplexTypeDecl.enumProblems, List.append_eq_nil_iff] at hbody
    simp only [toDecl, Declaration.bodyProblems, ComplexTypeDecl.problems,
      ComplexTypeDecl.enumProblems, List.append_eq_nil_iff]
    exact ⟨⟨hbody.1.1, rfl⟩, hbody.2⟩
  | @complex c _ _ format _ fields =>
    simp only [Declaration.bodyProblems, ComplexTypeDecl.problems, format,
      ComplexTypeDecl.registerProblems, List.append_eq_nil_iff] at hbody
    simp only [toDecl, Declaration.bodyProblems, ComplexTypeDecl.problems,
      ComplexTypeDecl.registerProblems, fieldProblems_toDecl fields, List.append_eq_nil_iff]
    exact ⟨rfl, hbody.2⟩
  | remote _ create call emit =>
    rw [← hbody]
    exact remoteProblems_toDecl rfl rfl rfl rfl create call emit

end TypeDef

/-! ## Sections of a document -/

/-- **The sections of a document hold the types of its module**, each once. -/
theorem ModuleDef.declarations_toDocument (md : ModuleDef) :
    md.toDocument.declarations.Perm (md.types.values.map TypeDef.toDecl) := by
  have hperm : ∀ decls : List Declaration,
      ((decls.filterMap Declaration.alias?).map Declaration.alias ++
        (decls.filterMap Declaration.complex?).map Declaration.complex ++
        (decls.filterMap Declaration.remote?).map Declaration.remote).Perm decls := by
    intro decls
    induction decls with
    | nil => exact .nil
    | cons d decls ih =>
      cases d with
      | «alias» a => exact ih.cons _
      | complex c =>
        simp only [List.append_assoc] at ih ⊢
        exact List.perm_middle.trans (ih.cons _)
      | remote r => exact List.perm_middle.trans (ih.cons _)
  exact hperm _

/-- A module written back as a document, with its origin, at the path given to it. -/
def ModuleDef.toLoaded (path : String → String) (md : ModuleDef) : Loaded :=
  ⟨path md.name, md.origin, md.toDocument⟩

/-- What is collected of a type that is written back. -/
def TypeDef.toDraft (path : String) (origin : Origin) (t : TypeDef) : DeclDraft :=
  ⟨t.toDecl, path, origin, true⟩

/-- What is collected of a module that is written back; imports are collected by name. -/
def ModuleDef.toDraft (path : String → String) (imports : Table Import) (md : ModuleDef) :
    ModuleDraft where
  version := md.version
  doc := md.doc
  origin := md.origin
  imports := imports
  code := md.code
  types := md.types.map fun e => (e.1, e.2.toDraft (path md.name) md.origin)
  documents := [path md.name]

namespace Drafts.Complete

variable {drafts : Drafts} {docs : List Loaded} {o : Overlay} {path : String → String}
  {name : String} {md : ModuleDef} {draft : ModuleDraft} {k : TypeKey} {t : TypeDef}

/-- A type is written back without problems. -/
theorem problems_toDecl (h : Complete drafts docs) (ht : (drafts.model o).lookup k = some t) :
    t.toDecl.problems = [] := by
  obtain ⟨d, -, hproblems, hname, hbinds⟩ := h.bindsBody_declOf ht
  exact TypeDef.problems_toDecl hbinds hname hproblems

/-! ## Headers -/

/-- Every type that is declared has a qualified name that is read as one. -/
theorem named (h : Complete drafts docs) : (Loaded.namespaceOf docs).Named := by
  intro k hk
  obtain ⟨l, hl, hm, -⟩ := Loaded.declares_namespaceOf.1 hk
  obtain ⟨draft, hdraft⟩ := Table.has_iff.1 ((h.gathers.has k.module).2 ⟨l, hl, hm⟩)
  have hclean := (h.agrees _ _ hdraft).headers l (Loaded.mem_ofModule.2 ⟨hl, hm⟩)
  obtain ⟨hname, -⟩ := Document.headerProblems_eq_nil_iff.1 hclean
  exact ⟨hm ▸ hname, h.isIdentifier_of_declares hk⟩

/-- **A module is written back with a clean header** — what it says was said in clean headers. -/
theorem headerProblems_toDocument (h : Complete drafts docs)
    (hmd : (drafts.model o).modules.find? name = some md) (hobject : md.code.isObject = true) :
    md.toDocument.headerProblems = [] := by
  obtain ⟨draft, hdraft, rfl⟩ := draft_of_module hmd
  have hg := h.gathers.modules _ _ hdraft
  have hheader : ∀ l ∈ Loaded.ofModule name docs, isModuleName name = true ∧
      Text.isBlankText l.document.version = false ∧
      ∀ i ∈ l.document.imports, Document.importProblems name i = [] := by
    intro l hl
    have hclean := (h.agrees _ _ hdraft).headers l hl
    obtain ⟨-, rfl⟩ := Loaded.mem_ofModule.1 hl
    obtain ⟨hname, hversion, himports, -⟩ := Document.headerProblems_eq_nil_iff.1 hclean
    exact ⟨hname, hversion, himports⟩
  obtain ⟨l, hl, hversion⟩ := hg.version
  obtain ⟨hname, hblank, -⟩ := hheader l hl
  rw [hversion] at hblank
  refine Document.headerProblems_eq_nil_iff.2 ⟨hname, hblank, fun i hi => ?_, .inr hobject⟩
  obtain ⟨⟨n, i⟩, he, rfl⟩ := List.mem_map.1 hi
  obtain ⟨-, hwritten⟩ := hg.imports.kept n i (hg.imports.sorted.mem_iff.1 he)
  obtain ⟨l, hl, hi⟩ := List.mem_flatMap.1 hwritten
  exact (hheader l hl).2.2 i hi

/-! ## Drafts -/

/-- The declarations of a module written back are those of its types… -/
theorem mem_declarations_iff (h : Complete drafts docs)
    (hmd : (drafts.model o).modules.find? name = some md) {d : Declaration} :
    d ∈ md.toDocument.declarations ↔ ∃ t, md.types.find? d.name = some t ∧ t.toDecl = d := by
  rw [md.declarations_toDocument.mem_iff, List.mem_map]
  constructor
  · rintro ⟨t, ht, rfl⟩
    obtain ⟨⟨n, t⟩, he, rfl⟩ := List.mem_map.1 ht
    have hfind := (h.gathers.sorted_types hmd).mem_iff.1 he
    obtain ⟨-, hkey⟩ := h.gathers.lookup_of_types hmd hfind
    obtain rfl : t.name = n := congrArg TypeKey.name hkey
    exact ⟨t, by rwa [TypeDef.name_toDecl], rfl⟩
  · rintro ⟨t, ht, hd⟩
    exact ⟨t, List.mem_map.2 ⟨_, Table.mem_of_find? ht, rfl⟩, hd⟩

/-- …and of different names. -/
theorem nodup_declarations (h : Complete drafts docs)
    (hmd : (drafts.model o).modules.find? name = some md) :
    (md.toDocument.declarations.map (·.name)).Nodup := by
  have hnames : (md.types.values.map TypeDef.toDecl).map (·.name) = md.types.keys := by
    simp only [Table.values, Table.keys, List.map_map]
    refine List.map_congr_left fun e he => ?_
    obtain ⟨-, hkey⟩ := h.gathers.lookup_of_types hmd ((h.gathers.sorted_types hmd).mem_iff.1 he)
    exact (TypeDef.name_toDecl _).trans (congrArg TypeKey.name hkey)
  rw [(md.declarations_toDocument.map _).nodup_iff, hnames]
  exact (h.gathers.sorted_types hmd).nodup_keys

/-- **What is collected of the declarations of a module written back**, without a report. -/
theorem absorbAll_toDocument (h : Complete drafts docs)
    (hmd : (drafts.model o).modules.find? name = some md) (path : String → String) :
    DeclDraft.absorbAll (md.toLoaded path) [] md.toDocument.declarations =
      (md.types.map fun e => (e.1, e.2.toDraft (path md.name) md.origin), []) := by
  have hclean : ∀ d ∈ md.toDocument.declarations, d.problems = [] := by
    intro d hd
    obtain ⟨t, ht, rfl⟩ := (h.mem_declarations_iff hmd).1 hd
    exact h.problems_toDecl (h.gathers.lookup_of_types hmd ht).1
  have hkept : ∀ t : TypeDef, t.toDecl.problems = [] →
      DeclDraft.first (md.toLoaded path) t.toDecl = t.toDraft (path md.name) md.origin := by
    intro t ht
    rw [DeclDraft.first, ht]
    rfl
  have hfresh : ∀ d ∈ md.toDocument.declarations,
      Table.find? d.name ([] : Table DeclDraft) = none := fun _ _ => rfl
  have hnodup := h.nodup_declarations hmd
  refine Prod.ext ?_ (DeclDraft.absorbAll_eq_nil hfresh hnodup hclean)
  refine (DeclDraft.gathers_nil.absorbAll _ _).sorted.ext
    ((h.gathers.sorted_types hmd).map fun _ t => t.toDraft (path md.name) md.origin) fun n => ?_
  rw [Table.find?_map fun _ (t : TypeDef) => t.toDraft (path md.name) md.origin]
  refine Option.ext fun k => (DeclDraft.find?_absorbAll_iff hfresh hnodup).trans ?_
  rw [Table.find?_nil, Option.map_eq_some_iff]
  constructor
  · rintro (hk | ⟨d, hd, rfl, rfl⟩)
    · cases hk
    · obtain ⟨t, ht, htd⟩ := (h.mem_declarations_iff hmd).1 hd
      exact ⟨t, ht, htd ▸ (hkept t (htd ▸ hclean d hd)).symm⟩
  · rintro ⟨t, ht, rfl⟩
    obtain ⟨hlookup, hkey⟩ := h.gathers.lookup_of_types hmd ht
    have hn : t.toDecl.name = n := (TypeDef.name_toDecl t).trans (congrArg TypeKey.name hkey)
    exact .inr ⟨t.toDecl, (h.mem_declarations_iff hmd).2 ⟨t, hn ▸ ht, rfl⟩, hn,
      (hkept t (h.problems_toDecl hlookup)).symm⟩

/-- **What is collected of a module written back**, without a report. -/
theorem first_toLoaded (h : Complete drafts docs) (hdraft : drafts.find? name = some draft)
    (hmd : (drafts.model o).modules.find? name = some md) (hobject : md.code.isObject = true)
    (hdistinct : md.code.Distinct) (path : String → String) :
    Drafts.first (md.toLoaded path) = (md.toDraft path draft.imports, []) := by
  have himports := (h.gathers.modules _ _ hdraft).imports
  have hadded : ModuleDraft.addImports [] md.toDocument.imports = draft.imports := by
    obtain ⟨_, hdraft', rfl⟩ := draft_of_module hmd
    cases hdraft.symm.trans hdraft'
    exact ModuleDraft.addImports_values himports.sorted fun n i hi => (himports.kept n i hi).1
  have hcode : (if md.code.isObject then (Json.obj []).merge md.code else .obj []) = md.code := by
    rw [if_pos hobject]
    generalize md.code = code at hobject hdistinct
    cases hdistinct with
    | obj hkeys _ => rw [Json.merge, Json.nil_mergeMembers hkeys]
    | _ => cases hobject
  have horigin : md.origin.combine md.origin = md.origin := by cases md.origin <;> rfl
  refine Prod.ext ?_ (ModuleDraft.absorb_eq_nil_iff.2 ⟨?_, ?_⟩)
  · simp only [Drafts.first, ModuleDraft.absorb, ModuleDef.toDraft, ModuleDraft.mk.injEq]
    exact ⟨rfl, rfl, horigin, hadded, hcode,
      congrArg Prod.fst (h.absorbAll_toDocument hmd path), rfl⟩
  · exact ModuleDraft.versionsConflict_eq_false_iff.2 rfl
  · exact congrArg Prod.snd (h.absorbAll_toDocument hmd path)

end Drafts.Complete

end InterfaceGen
