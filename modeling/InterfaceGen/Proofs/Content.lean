import InterfaceGen.Proofs.Similar
import InterfaceGen.Proofs.Validity

/-!
# Proofs/Content — documents of the same content are merged to models that are alike

Paths, order and repetition are not content: two lists of documents have the same content if each
document of the one is in the other, with the same origin. Then both fit together or neither does;
and if they do, whichever declaration of a type is kept, it is the same as the one kept on the other
side. So the drafts are similar, and the models are alike. Main statement:
`merge_alike_of_sameContent`.
-/

namespace InterfaceGen

/-! ## Problems of declarations that are the same -/

theorem FieldDecl.names_of_same {fs gs : List FieldDecl}
    (h : List.Forall₂ (same · · = true) fs gs) : fs.map (·.name) = gs.map (·.name) :=
  map_eq_of_forall₂ (fun _ _ hfg => (same_iff.1 hfg).1) h

theorem fieldProblems_of_same {what : String} {fs gs : List FieldDecl}
    (h : List.Forall₂ (FieldDecl.same · · = true) fs gs) :
    fieldProblems what fs = fieldProblems what gs := by
  rw [fieldProblems, fieldProblems, FieldDecl.names_of_same h]

theorem ComplexTypeDecl.problems_of_same {a b : ComplexTypeDecl}
    (h : (Declaration.complex a).same (.complex b) = true) : a.problems = b.problems := by
  obtain ⟨hname, -, hformat, hparent, hproperties, hvalues⟩ := Declaration.same_complex_iff.1 h
  have hempty : a.properties.isEmpty = b.properties.isEmpty := by
    rw [Bool.eq_iff_iff, List.isEmpty_iff, List.isEmpty_iff, ← List.length_eq_zero_iff,
      ← List.length_eq_zero_iff, hproperties.length_eq]
  simp only [problems, enumProblems, registerProblems, hname, hformat, hparent, hvalues, hempty,
    fieldProblems_of_same hproperties]

theorem RemoteClassDecl.problems_of_same {a b : RemoteClassDecl}
    (h : (Declaration.remote a).same (.remote b) = true) : a.problems = b.problems := by
  obtain ⟨hname, -, -, -, hctor, hmethods, hevents⟩ := Declaration.same_remote_iff.1 h
  have hcreate : a.constructorProblems = b.constructorProblems := by
    simp only [constructorProblems, hname]
    generalize a.constructor = create, b.constructor = create' at hctor
    cases hctor with
    | none => rfl
    | some hsame => exact fieldProblems_of_same (ConstructorDecl.same_iff.1 hsame).2
  have hcall : a.methods.map (·.name) = b.methods.map (·.name) ∧
      a.methods.map (methodProblems b.name) = b.methods.map (methodProblems b.name) := by
    refine ⟨map_eq_of_forall₂ (fun _ _ hmn => (MethodDecl.same_iff.1 hmn).1) hmethods,
      map_eq_of_forall₂ (fun m n hmn => ?_) hmethods⟩
    obtain ⟨hm, -, hparams, -⟩ := MethodDecl.same_iff.1 hmn
    rw [methodProblems, methodProblems, hm, fieldProblems_of_same hparams]
  have hemit : a.events.map (·.name) = b.events.map (·.name) ∧
      a.events.map (eventProblems b.name) = b.events.map (eventProblems b.name) := by
    refine ⟨map_eq_of_forall₂ (fun _ _ hef => (EventDecl.same_iff.1 hef).1) hevents,
      map_eq_of_forall₂ (fun e f hef => ?_) hevents⟩
    obtain ⟨he, -, hproperties⟩ := EventDecl.same_iff.1 hef
    rw [eventProblems, eventProblems, he, fieldProblems_of_same hproperties]
  rw [problems, problems, hcreate, hname, List.flatMap_def, List.flatMap_def, List.flatMap_def,
    List.flatMap_def, hcall.1, hcall.2, hemit.1, hemit.2]

/-- **Declarations that are the same have the same problems.** -/
theorem Declaration.problems_of_same {a b : Declaration} (h : a.same b = true) :
    a.problems = b.problems := by
  have hbody : a.bodyProblems = b.bodyProblems := ?_
  · rw [problems, problems, name_eq_of_same h, hbody]
  cases a with
  | «alias» d =>
    cases b with
    | «alias» e => rw [same_alias_iff.1 h]
    | _ => simp [same] at h
  | complex d =>
    cases b with
    | complex e => exact ComplexTypeDecl.problems_of_same h
    | _ => simp [same] at h
  | remote d =>
    cases b with
    | remote e => exact RemoteClassDecl.problems_of_same h
    | _ => simp [same] at h

/-! ## Content -/

namespace Document

/-- Whether two documents are the same; JSON values compare as JSON. -/
def same (a b : Document) : Bool :=
  a.name = b.name && a.version = b.version && a.doc = b.doc && a.imports = b.imports &&
    a.code.same b.code && sameList Declaration.same a.declarations b.declarations &&
    a.origin = b.origin

variable {a b : Document}

theorem same_iff : a.same b = true ↔ a.name = b.name ∧ a.version = b.version ∧ a.doc = b.doc ∧
    a.imports = b.imports ∧ a.code.same b.code = true ∧
    List.Forall₂ (Declaration.same · · = true) a.declarations b.declarations ∧
    a.origin = b.origin := by
  simp [same, sameList_iff, and_assoc]

/-- Documents that are the same have the same problems in their headers. -/
theorem headerProblems_of_same (h : a.same b = true) : a.headerProblems = b.headerProblems := by
  obtain ⟨hname, hversion, -, himports, hcode, -, -⟩ := same_iff.1 h
  have hkind : a.code.isNull = b.code.isNull ∧ a.code.isObject = b.code.isObject := by
    generalize a.code = v, b.code = w at hcode
    cases v <;> cases w <;> first | exact ⟨rfl, rfl⟩ | simp [Json.same] at hcode
  simp only [headerProblems, hname, hversion, himports, hkind.1, hkind.2]

theorem Distinct.same_refl (h : a.Distinct) : a.same a = true :=
  same_iff.2 ⟨rfl, rfl, rfl, rfl, h.code.same_refl,
    List.forall₂_same.2 fun d hd => (h.declarations d hd).same_refl, rfl⟩

/-- A declaration is also in a document that is the same. -/
theorem exists_same (h : a.same b = true) {d : Declaration} (hd : d ∈ a.declarations) :
    ∃ e ∈ b.declarations, d.same e = true := by
  obtain ⟨-, -, -, -, -, hdecls, -⟩ := same_iff.1 h
  exact exists_of_forall₂ hdecls.flip d hd

end Document

namespace Loaded

/-- Two documents are the same and have the same origin, at whatever paths they are. -/
structure Same (k l : Loaded) : Prop where
  origin : k.origin = l.origin
  document : k.document.same l.document = true

/-- Every document of the first list is in the second one, at some path. -/
def Within (documents others : List Loaded) : Prop := ∀ k ∈ documents, ∃ l ∈ others, k.Same l

/-- The lists hold the same documents with the same origins, at whatever paths, in whatever order
and however often. -/
def SameContent (documents others : List Loaded) : Prop :=
  Within documents others ∧ Within others documents

/-- No default value in a document has a key twice. -/
def DistinctDefaults (documents : List Loaded) : Prop :=
  ∀ l ∈ documents, ∀ d ∈ l.document.declarations, d.Distinct

variable {documents others : List Loaded} {k l : Loaded}

theorem Same.name (h : k.Same l) : k.document.name = l.document.name :=
  (Document.same_iff.1 h.document).1

theorem SameContent.symm (h : SameContent documents others) : SameContent others documents :=
  ⟨h.2, h.1⟩

theorem SameContent.sorted (h : SameContent documents others) :
    SameContent (sorted documents) (sorted others) := by
  simp only [SameContent, Within, mem_sorted]
  exact h

theorem Within.ofModule (h : Within documents others) (name : String) :
    Within (ofModule name documents) (ofModule name others) := by
  intro k hk
  obtain ⟨hk, hname⟩ := mem_ofModule.1 hk
  obtain ⟨l, hl, hkl⟩ := h k hk
  exact ⟨l, mem_ofModule.2 ⟨hl, hkl.name ▸ hname⟩, hkl⟩

/-- Every declaration written in the first documents is written in the others. -/
theorem Within.written (h : Within documents others) :
    ∀ w ∈ written documents, ∃ v ∈ written others,
      w.1.origin = v.1.origin ∧ w.2.same v.2 = true := by
  rintro ⟨k, d⟩ hw
  obtain ⟨hk, hd⟩ := mem_written.1 hw
  obtain ⟨l, hl, hkl⟩ := h k hk
  obtain ⟨e, he, hde⟩ := Document.exists_same hkl.document hd
  exact ⟨(l, e), mem_written.2 ⟨hl, he⟩, hkl.origin, hde⟩

/-- **Documents that are all among some that fit together fit together themselves.** -/
theorem Within.consistent (h : Within documents others) (hc : Consistent others)
    (hdistinct : DistinctDefaults documents) (hdistinct' : DistinctDefaults others) :
    Consistent documents where
  headers k hk := by
    obtain ⟨l, hl, hkl⟩ := h k hk
    rw [Document.headerProblems_of_same hkl.document, hc.headers l hl]
  problems k hk d hd := by
    obtain ⟨l, hl, hkl⟩ := h k hk
    obtain ⟨e, he, hde⟩ := Document.exists_same hkl.document hd
    rw [Declaration.problems_of_same hde, hc.problems l hl e he]
  versions k hk k' hk' hname := by
    obtain ⟨l, hl, hkl⟩ := h k hk
    obtain ⟨l', hl', hkl'⟩ := h k' hk'
    have hversion := hc.versions l hl l' hl' (by rw [← hkl.name, hname, hkl'.name])
    rwa [← (Document.same_iff.1 hkl.document).2.1, ← (Document.same_iff.1 hkl'.document).2.1]
      at hversion
  declarations k hk k' hk' hname d hd d' hd' hdd' := by
    obtain ⟨l, hl, hkl⟩ := h k hk
    obtain ⟨l', hl', hkl'⟩ := h k' hk'
    obtain ⟨e, he, hde⟩ := Document.exists_same hkl.document hd
    obtain ⟨e', he', hde'⟩ := Document.exists_same hkl'.document hd'
    have hee' := hc.declarations l hl l' hl' (by rw [← hkl.name, hname, hkl'.name]) e he e' he'
      (by rw [← Declaration.name_eq_of_same hde, hdd', Declaration.name_eq_of_same hde'])
    have hed' := (hdistinct k' hk' d' hd').same_symm (hdistinct' l' hl' e' he') hde'
    have hd := hdistinct k hk d hd
    exact hd.same_trans (hd.same_trans hde hee') hed'

end Loaded

/-! ## Drafts of the same content -/

theorem Origin.eq_of_isLocal {a b : Origin} (h : a.isLocal = true ↔ b.isLocal = true) : a = b := by
  cases a <;> cases b <;> simp_all [isLocal]

/-- Two optional values that are there or not together agree if they do when they are there. -/
theorem rel_of_isSome {α β : Type} {r : α → β → Prop} {a : Option α} {b : Option β}
    (h : a.isSome = b.isSome) (hr : ∀ x y, a = some x → b = some y → r x y) : Option.Rel r a b := by
  cases a <;> cases b <;> simp_all

namespace DeclDraft.Gathers

variable {types types' : Table DeclDraft} {docs others : List Loaded} {name : String}
  {k k' : DeclDraft}

theorem has_of_within (hg : Gathers types (Loaded.written docs))
    (hg' : Gathers types' (Loaded.written others)) (h : Loaded.Within docs others)
    (hhas : types.has name = true) : types'.has name = true := by
  obtain ⟨w, hw, hn⟩ := (hg.has name).1 hhas
  obtain ⟨v, hv, -, hwv⟩ := h.written w hw
  exact (hg'.has name).2 ⟨v, hv, Declaration.name_eq_of_same hwv ▸ hn⟩

theorem isLocal_of_within (hg : Gathers types (Loaded.written docs))
    (ha' : Agrees types' (Loaded.written others)) (h : Loaded.Within docs others)
    (hk : types.find? name = some k) (hk' : types'.find? name = some k')
    (hlocal : k.origin.isLocal = true) : k'.origin.isLocal = true := by
  obtain ⟨-, -, -, hfrom⟩ := hg.kept name k hk
  obtain ⟨w, hw, hl, rfl⟩ := hfrom hlocal
  obtain ⟨v, hv, horigin, hwv⟩ := h.written w hw
  rw [Declaration.name_eq_of_same hwv] at hk'
  exact (ha'.same v hv k' hk').2 (horigin ▸ hl)

/-- **Whichever declaration of a name is kept, it is the same.** -/
theorem same_of_within (hg : Gathers types (Loaded.written docs))
    (hg' : Gathers types' (Loaded.written others)) (ha' : Agrees types' (Loaded.written others))
    (h : Loaded.Within docs others) (hdistinct : Loaded.DistinctDefaults docs)
    (hdistinct' : Loaded.DistinctDefaults others) (hk : types.find? name = some k)
    (hk' : types'.find? name = some k') : k.decl.same k'.decl = true := by
  obtain ⟨rfl, ⟨⟨l, d⟩, hw, rfl⟩, -, -⟩ := hg.kept name k hk
  obtain ⟨⟨l', e⟩, hv, -, hde⟩ := h.written _ hw
  obtain ⟨-, ⟨⟨l'', e'⟩, hv', heq⟩, -, -⟩ := hg'.kept _ k' hk'
  rw [Declaration.name_eq_of_same hde] at hk'
  have hdistinct_of : ∀ {docs : List Loaded}, Loaded.DistinctDefaults docs →
      ∀ {l d}, (l, d) ∈ Loaded.written docs → d.Distinct := fun hdocs _ _ hmem =>
    hdocs _ (Loaded.mem_written.1 hmem).1 _ (Loaded.mem_written.1 hmem).2
  have hkept : k'.decl.Distinct := heq ▸ hdistinct_of hdistinct' hv'
  rcases (ha'.same _ hv k' hk').1 with hsame | hsame
  · exact hsame ▸ hde
  · exact (hdistinct_of hdistinct hw).same_trans hde
      (hkept.same_symm (hdistinct_of hdistinct' hv) hsame)

/-- Declarations of the same content are kept alike. -/
theorem alike (hg : Gathers types (Loaded.written docs)) (ha : Agrees types (Loaded.written docs))
    (hg' : Gathers types' (Loaded.written others)) (ha' : Agrees types' (Loaded.written others))
    (h : Loaded.SameContent docs others) (hdistinct : Loaded.DistinctDefaults docs)
    (hdistinct' : Loaded.DistinctDefaults others) : Table.Alike Similar types types' := by
  refine hg.sorted.alike hg'.sorted fun name => rel_of_isSome ?_ fun k k' hk hk' => ?_
  · exact Bool.eq_iff_iff.2 ⟨hg.has_of_within hg' h.1, hg'.has_of_within hg h.2⟩
  · have hsame := hg.same_of_within hg' ha' h.1 hdistinct hdistinct' hk hk'
    obtain ⟨-, -, hwf, -⟩ := hg.kept name k hk
    obtain ⟨-, -, hwf', -⟩ := hg'.kept name k' hk'
    refine ⟨hsame, Origin.eq_of_isLocal ?_, ?_⟩
    · exact ⟨hg.isLocal_of_within ha' h.1 hk hk', hg'.isLocal_of_within ha h.2 hk' hk⟩
    · rw [hwf, hwf', Declaration.problems_of_same hsame]

end DeclDraft.Gathers

namespace ModuleDraft.Gathers

variable {draft draft' : ModuleDraft} {docs others : List Loaded}

theorem isLocal_of_within (hg : draft.Gathers docs) (hg' : draft'.Gathers others)
    (h : Loaded.Within docs others) (hlocal : draft.origin.isLocal = true) :
    draft'.origin.isLocal = true := by
  obtain ⟨k, hk, hl⟩ := hg.origin.1 hlocal
  obtain ⟨l, hl', hkl⟩ := h k hk
  exact hg'.origin.2 ⟨l, hl', hkl.origin ▸ hl⟩

theorem imports_of_within (hg : draft.Gathers docs) (hg' : draft'.Gathers others)
    (h : Loaded.Within docs others) {name : String} (hhas : draft.imports.has name = true) :
    draft'.imports.has name = true := by
  obtain ⟨i, hi, hn⟩ := (hg.imports.has name).1 hhas
  obtain ⟨k, hk, hi⟩ := List.mem_flatMap.1 hi
  obtain ⟨l, hl, hkl⟩ := h k hk
  rw [(Document.same_iff.1 hkl.document).2.2.2.1] at hi
  exact (hg'.imports.has name).2 ⟨i, List.mem_flatMap.2 ⟨l, hl, hi⟩, hn⟩

/-- Documents of the same content make similar drafts of their module. -/
theorem similar (hg : draft.Gathers docs) (ha : draft.Agrees docs) (hg' : draft'.Gathers others)
    (ha' : draft'.Agrees others) (h : Loaded.SameContent docs others)
    (hdistinct : Loaded.DistinctDefaults docs) (hdistinct' : Loaded.DistinctDefaults others) :
    draft.Similar draft' where
  origin := Origin.eq_of_isLocal ⟨hg.isLocal_of_within hg' h.1, hg'.isLocal_of_within hg h.2⟩
  imports := by
    refine hg.imports.sorted.alike hg'.imports.sorted fun name =>
      rel_of_isSome ?_ fun i j hi hj => ?_
    · exact Bool.eq_iff_iff.2 ⟨hg.imports_of_within hg' h.1, hg'.imports_of_within hg h.2⟩
    · rw [(hg.imports.kept name i hi).1, (hg'.imports.kept name j hj).1]
  types := hg.types.alike ha.types hg'.types ha'.types h hdistinct hdistinct'

end ModuleDraft.Gathers

namespace Drafts.Gathers

variable {drafts drafts' : Drafts} {docs others : List Loaded}

theorem has_of_within (hg : Gathers drafts docs) (hg' : Gathers drafts' others)
    (h : Loaded.Within docs others) {name : String} (hhas : drafts.has name = true) :
    drafts'.has name = true := by
  obtain ⟨k, hk, hn⟩ := (hg.has name).1 hhas
  obtain ⟨l, hl, hkl⟩ := h k hk
  exact (hg'.has name).2 ⟨l, hl, hkl.name ▸ hn⟩

/-- **Documents of the same content are collected to similar drafts.** -/
theorem similar (hg : Gathers drafts docs) (ha : Agrees drafts docs) (hg' : Gathers drafts' others)
    (ha' : Agrees drafts' others) (h : Loaded.SameContent docs others)
    (hdistinct : Loaded.DistinctDefaults docs) (hdistinct' : Loaded.DistinctDefaults others) :
    Similar drafts drafts' := by
  refine hg.sorted.alike hg'.sorted fun name => rel_of_isSome ?_ fun x y hx hy => ?_
  · exact Bool.eq_iff_iff.2 ⟨hg.has_of_within hg' h.1, hg'.has_of_within hg h.2⟩
  · refine (hg.modules name x hx).similar (ha name x hx) (hg'.modules name y hy) (ha' name y hy)
      ⟨h.1.ofModule name, h.2.ofModule name⟩ (fun l hl => ?_) fun l hl => ?_
    · exact hdistinct l (Loaded.mem_ofModule.1 hl).1
    · exact hdistinct' l (Loaded.mem_ofModule.1 hl).1

end Drafts.Gathers

/-! ## Merging -/

/-- If some documents are merged, so are others of the same content, to a model that is alike. -/
theorem Loaded.SameContent.exists_merge {o : Overlay} {documents others : List Loaded} {m : Model}
    (h : SameContent documents others) (hdistinct : DistinctDefaults documents)
    (hdistinct' : DistinctDefaults others) (hm : merge o documents = .ok m) :
    ∃ n, merge o others = .ok n ∧ m.Alike n := by
  have hsorted : ∀ {docs : List Loaded}, DistinctDefaults docs →
      DistinctDefaults (Loaded.sorted docs) := fun hdocs l hl => hdocs l (mem_sorted.1 hl)
  obtain ⟨hcollected, hknown, hcycles, hbuilt, hlineage, rfl⟩ := merge_eq_ok_iff.1 hm
  have hconsistent := h.sorted.2.consistent
    ((Drafts.collect_eq_nil_iff (hsorted hdistinct)).1 hcollected) (hsorted hdistinct')
    (hsorted hdistinct)
  have hcollected' := Drafts.collect_eq_nil hconsistent
  have hsimilar : (drafts documents).Similar (drafts others) :=
    (Drafts.gathers_collect _).similar (Drafts.agrees_collect hcollected)
      (Drafts.gathers_collect _) (Drafts.agrees_collect hcollected') h.sorted (hsorted hdistinct)
      (hsorted hdistinct')
  rw [hsimilar.importGraph_eq] at hknown hcycles
  rw [hsimilar.finish_eq] at hbuilt
  rw [inheritanceGraph_congr (hsimilar.modules_alike o)] at hlineage
  exact ⟨_, merge_eq_ok_iff.2 ⟨hcollected', hknown, hcycles, hbuilt, hlineage, rfl⟩,
    hsimilar.alike o⟩

/-- **Documents of the same content are merged to models that are alike, or not merged at all**,
whatever their paths are, in whatever order they come and however often each of them does. Default
values are objects without repeated keys, as every object is that is read. -/
theorem merge_alike_of_sameContent (o : Overlay) {documents others : List Loaded}
    (h : Loaded.SameContent documents others) (hdistinct : Loaded.DistinctDefaults documents)
    (hdistinct' : Loaded.DistinctDefaults others) :
    ((∃ m, merge o documents = .ok m) ↔ ∃ n, merge o others = .ok n) ∧
      ∀ m n, merge o documents = .ok m → merge o others = .ok n → m.Alike n := by
  refine ⟨⟨fun ⟨m, hm⟩ => ?_, fun ⟨n, hn⟩ => ?_⟩, fun m n hm hn => ?_⟩
  · obtain ⟨n, hn, -⟩ := h.exists_merge hdistinct hdistinct' hm
    exact ⟨n, hn⟩
  · obtain ⟨m, hm, -⟩ := h.symm.exists_merge hdistinct' hdistinct hn
    exact ⟨m, hm⟩
  · obtain ⟨n', hn', halike⟩ := h.exists_merge hdistinct hdistinct' hm
    cases hn.symm.trans hn'
    exact halike

/-- The sample with its files moved, turned around, and one of them twice. -/
def movedSample : List Loaded :=
  [⟨"a/core.json", .local, sampleCore⟩, ⟨"b/app.json", .local, sampleApp⟩,
    ⟨"c/core.json", .imported, sampleDependency⟩, ⟨"d/core.json", .imported, sampleDependency⟩]

theorem sameContent_movedSample : Loaded.SameContent sample movedSample := by
  obtain ⟨hdependency, happ, hcore⟩ : sampleDependency.same sampleDependency = true ∧
      sampleApp.same sampleApp = true ∧ sampleCore.same sampleCore = true := by
    have h := distinct_sample
    simp only [sample, List.forall_mem_cons] at h
    exact ⟨h.1.same_refl, h.2.1.same_refl, h.2.2.1.same_refl⟩
  simp only [Loaded.SameContent, Loaded.Within, sample, movedSample, List.forall_mem_cons,
    List.exists_mem_cons_iff, List.not_mem_nil, false_imp_iff, implies_true, and_true]
  exact ⟨⟨.inr (.inr (.inl ⟨rfl, hdependency⟩)), .inr (.inl ⟨rfl, happ⟩), .inl ⟨rfl, hcore⟩⟩,
    .inr (.inr (.inl ⟨rfl, hcore⟩)), .inr (.inl ⟨rfl, happ⟩), .inl ⟨rfl, hdependency⟩,
    .inl ⟨rfl, hdependency⟩⟩

/-- The moved sample is merged to a model like that of the sample. -/
theorem merge_alike_of_sameContent_sample : ∃ m n, merge Overlay.empty sample = .ok m ∧
    merge Overlay.empty movedSample = .ok n ∧ m.Alike n := by
  have hdistinct : Loaded.DistinctDefaults sample := fun l hl =>
    (distinct_sample l hl).declarations
  have hdistinct' : Loaded.DistinctDefaults movedSample := by
    have h := hdistinct
    simp only [Loaded.DistinctDefaults, sample, movedSample, List.forall_mem_cons] at h ⊢
    exact ⟨h.2.2.1, h.2.1, h.1, h.1, h.2.2.2⟩
  obtain ⟨hiff, halike⟩ :=
    merge_alike_of_sameContent Overlay.empty sameContent_movedSample hdistinct hdistinct'
  obtain ⟨m, hm⟩ := exists_merge_sample
  obtain ⟨n, hn⟩ := hiff.1 ⟨m, hm⟩
  exact ⟨m, n, hm, hn, halike m n hm hn⟩

end InterfaceGen
