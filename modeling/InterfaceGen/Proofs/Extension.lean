import InterfaceGen.Proofs.Path
import InterfaceGen.Proofs.Validity

/-!
# Proofs/Extension — new modules leave the old ones as they are

Documents of new modules are sorted in among the others and share their import graph, but a module
is collected from its own documents alone, in their own order. No old module reaches a new one, so
the namespace grows only where the old modules do not look: every name they write refers to the same
type as before, and whatever was built is built again. Main statement: `modules_of_merge_append`.
-/

namespace InterfaceGen

/-! ## Sorting a part of a list -/

section Sorting

variable {α : Type} {le : α → α → Bool}

/-- A list is divided in one way into a part where a condition holds and one where it does not. -/
theorem append_inj_of_forall {q : α → Bool} {as bs cs ds : List α} (h : as ++ bs = cs ++ ds)
    (ha : ∀ x ∈ as, q x = true) (hb : ∀ x ∈ bs, q x = false) (hc : ∀ x ∈ cs, q x = true)
    (hd : ∀ x ∈ ds, q x = false) : as = cs ∧ bs = ds := by
  have hfront : ∀ {front back : List α}, (∀ x ∈ front, q x = true) → (∀ x ∈ back, q x = false) →
      (front ++ back).filter q = front := fun hf hk => by
    rw [List.filter_append, List.filter_eq_self.2 hf, List.filter_eq_nil_iff.2 (by simpa using hk),
      List.append_nil]
  have has : as = cs := by rw [← hfront ha hb, h, hfront hc hd]
  exact ⟨has, List.append_cancel_left (has ▸ h)⟩

/-- **A part of a list is sorted as it is among the others.** -/
theorem filter_mergeSort (trans : ∀ a b c, le a b = true → le b c = true → le a c = true)
    (total : ∀ a b, (le a b || le b a) = true) (p : α → Bool) (l : List α) :
    (l.mergeSort le).filter p = (l.filter p).mergeSort le := by
  induction l with
  | nil => simp
  | cons a l ih =>
    -- the first item of a list goes between the smaller ones and the rest
    have hplace : ∀ l : List α, ∃ front back, (a :: l).mergeSort le = front ++ a :: back ∧
        l.mergeSort le = front ++ back ∧ (∀ x ∈ front, (!le a x) = true) ∧
          ∀ x ∈ back, (!le a x) = false := fun l => by
      obtain ⟨front, back, hcons, hl, hfront⟩ := List.mergeSort_cons trans total a l
      have hsorted := List.pairwise_mergeSort trans total (a :: l)
      rw [hcons] at hsorted
      have hback := (List.pairwise_cons.1 (List.pairwise_append.1 hsorted).2.1).1
      exact ⟨front, back, hcons, hl, hfront, fun x hx => by rw [hback x hx]; rfl⟩
    obtain ⟨front, back, hcons, hl, hfront, hback⟩ := hplace l
    rw [hcons, List.filter_append]
    rw [hl, List.filter_append] at ih
    cases hp : p a with
    | false =>
      have hskip : ∀ l : List α, (a :: l).filter p = l.filter p := fun l =>
        List.filter_cons_of_neg (by simp [hp])
      rw [hskip, hskip, ih]
    | true =>
      rw [List.filter_cons_of_pos hp, List.filter_cons_of_pos hp]
      obtain ⟨front', back', hcons', hl', hfront', hback'⟩ := hplace (l.filter p)
      obtain ⟨hfronts, hbacks⟩ := append_inj_of_forall (ih.trans hl')
        (fun x hx => hfront x (List.mem_of_mem_filter hx))
        (fun x hx => hback x (List.mem_of_mem_filter hx)) hfront' hback'
      rw [hcons', hfronts, hbacks]

end Sorting

namespace Loaded

/-- The documents of a module are taken in their own order. -/
theorem ofModule_sorted (name : String) (documents : List Loaded) :
    ofModule name (sorted documents) = sorted (ofModule name documents) :=
  filter_mergeSort trans_compare total_compare _ documents

/-! ## The draft of a module -/

/-- No document of the second list declares a module that one of the first does. -/
def Fresh (documents added : List Loaded) : Prop :=
  ∀ l ∈ added, ¬ Declares documents l.document.name

end Loaded

/-- **A module is collected from its own documents.** -/
theorem Drafts.find?_absorbAll (drafts : Drafts) (docs : List Loaded) (name : String) :
    (drafts.absorbAll docs).1.find? name = (Loaded.ofModule name docs).foldl
      (fun d l => some ((d.getD (ModuleDraft.start l)).absorb l).1) (drafts.find? name) := by
  induction docs generalizing drafts with
  | nil => rfl
  | cons l docs ih =>
    rw [absorbAll, ih, find?_absorb]
    by_cases hn : l.document.name = name
    · subst hn
      simp only [Loaded.ofModule, decide_true, List.filter_cons_of_pos, List.foldl_cons, if_true,
        next]
    · simp only [Loaded.ofModule, hn, Ne.symm hn, decide_false, Bool.false_eq_true,
        not_false_eq_true, List.filter_cons_of_neg, if_false]

/-- Documents of other modules make no difference to a draft. -/
theorem Loaded.find?_drafts_append {documents added : List Loaded} {name : String}
    (h : ∀ l ∈ added, l.document.name ≠ name) :
    (drafts (documents ++ added)).find? name = (drafts documents).find? name := by
  have hnone : ofModule name added = [] :=
    List.filter_eq_nil_iff.2 fun l hl => by simpa using h l hl
  simp only [drafts, Drafts.find?_absorbAll, ofModule_sorted]
  rw [show ofModule name (documents ++ added) = ofModule name documents from by
    rw [ofModule, List.filter_append]; exact (congrArg _ hnone).trans (List.append_nil _)]

/-! ## Namespaces that grow -/

/-- The second namespace declares and reaches the same in the old modules as the first one, and they
reach old modules only. -/
structure Namespace.Grows (ns ns' : Namespace) (old : String → Prop) : Prop where
  kind : ∀ k d, old k.module → (ns'.kind k d ↔ ns.kind k d)
  reaches : ∀ a b, old a → (ns'.reaches a b ↔ ns.reaches a b)
  closed : ∀ a b, old a → ns.reaches a b → old b

namespace Namespace.Grows

variable {ns ns' : Namespace} {old : String → Prop} {module : String}

theorem declares (h : Grows ns ns' old) {k : TypeKey} (hk : old k.module) :
    ns'.declares k ↔ ns.declares k :=
  exists_congr fun d => h.kind k d hk

/-- **A name in an old module selects what it selected.** -/
theorem selects (h : Grows ns ns' old) (hm : old module) {q : Option String} {name : String}
    {k : TypeKey} (hk : ns.Selects module q name k) : ns'.Selects module q name k := by
  cases hk with
  | own declared => exact .own ((h.declares hm).2 declared)
  | @imported _ target missing reached declared only =>
    refine .imported (fun hd => missing ((h.declares hm).1 hd)) ((h.reaches _ _ hm).2 reached)
      ((h.declares (h.closed _ _ hm reached)).2 declared) fun other hr hd => ?_
    have hr := (h.reaches _ _ hm).1 hr
    exact only other hr ((h.declares (h.closed _ _ hm hr)).1 hd)
  | @qualified _ target visible declared =>
    have htarget : old target := visible.elim (fun he => he ▸ hm) (h.closed _ _ hm)
    exact .qualified (visible.imp_right (h.reaches _ _ hm).2) ((h.declares htarget).2 declared)

theorem denotes (h : Grows ns ns' old) (hm : old module) {e : TypeExpr} {t : DataType}
    (ht : ns.Denotes module e t) : ns'.Denotes module e t := by
  induction ht with
  | primitive p => exact .primitive p
  | named selected => exact .named (h.selects hm selected)
  | sequence _ ih => exact .sequence ih
  | set _ ih => exact .set ih
  | map _ ih => exact .map ih

theorem writes (h : Grows ns ns' old) (hm : old module) {text : String} {t : DataType}
    (ht : ns.Writes module text t) : ns'.Writes module text t := by
  obtain ⟨e, he, hd⟩ := ht
  exact ⟨e, he, h.denotes hm hd⟩

/-- What is written in an old module refers to types of old modules. -/
theorem old_of_writes (h : Grows ns ns' old) (hm : old module) {text : String} {k : TypeKey}
    (hk : ns.Writes module text (.reference k)) : old k.module := by
  obtain ⟨e, -, hd⟩ := hk
  obtain ⟨-, hown | hreached⟩ := hd.visible k (List.mem_singleton_self k)
  · exact hown ▸ hm
  · exact h.closed _ _ hm hreached

end Namespace.Grows

/-! ## Types that are built again -/

namespace Scope

/-- What one scope resolves in a module, another one resolves to the same. -/
structure Keeps (s s' : Scope) (module : String) : Prop where
  spelling : ∀ text location t, s.resolveSpelling module text location = .ok t →
    s'.resolveSpelling module text location = .ok t
  parent : ∀ text location kind k, s.resolveParent module text location kind = .ok k →
    s'.resolveParent module text location kind = .ok k

/-- **A scope whose namespace grew keeps what is written in the old modules.** -/
theorem Implements.keeps {s s' : Scope} {ns ns' : Namespace} {old : String → Prop}
    {module : String} (hs : s.Implements ns) (hs' : s'.Implements ns') (h : ns.Grows ns' old)
    (hm : old module) : s.Keeps s' module where
  spelling text location t ht :=
    hs'.resolveSpelling_iff.2 (h.writes hm (hs.resolveSpelling_iff.1 ht))
  parent text location kind k hk := by
    obtain ⟨hwrites, hkind⟩ := hs.resolveParent_iff.1 hk
    exact hs'.resolveParent_iff.2
      ⟨h.writes hm hwrites, (h.kind k kind (h.old_of_writes hm hwrites)).2 hkind⟩

/-- Results without a failure are the same where each value is. -/
theorem map_eq_of_clean {α β : Type} {f g : α → Except Diagnostic β} {as : List α}
    (h : ∀ a b, f a = .ok b → g a = .ok b) (hclean : failures (as.map f) = []) :
    as.map g = as.map f := by
  refine List.map_congr_left fun a ha => ?_
  obtain ⟨b, hb⟩ := failures_map_eq_nil_iff.1 hclean a ha
  rw [h a b hb, hb]

theorem optional_map_eq_of_clean {α β : Type} {f g : α → Except Diagnostic β} {a : Option α}
    (h : ∀ a b, f a = .ok b → g a = .ok b) (hclean : failures (a.map f).toList = []) :
    a.map g = a.map f := by
  refine Option.map_congr fun x hx => ?_
  obtain ⟨b, hb⟩ := failures_optional_eq_nil_iff.1 hclean x hx
  rw [h x b hb, hb]

namespace Keeps

variable {s s' : Scope} {module owner location : String}

theorem buildField (h : s.Keeps s' module) (f : FieldDecl) (b : Field)
    (hb : s.buildField module owner f = .ok b) : s'.buildField module owner f = .ok b := by
  simp only [Scope.buildField] at hb ⊢
  split at hb
  · cases hb
  · next t ht => rw [h.spelling _ _ t ht]; exact hb

theorem buildFields (h : s.Keeps s' module) {fs : List FieldDecl}
    (hclean : failures (s.buildFields module owner fs) = []) :
    s'.buildFields module owner fs = s.buildFields module owner fs :=
  map_eq_of_clean h.buildField hclean

theorem buildParent (h : s.Keeps s' module) {kind : DeclKind} {parent : Option String}
    (hclean : failures (s.buildParent module owner kind parent).toList = []) :
    s'.buildParent module owner kind parent = s.buildParent module owner kind parent :=
  optional_map_eq_of_clean (fun text k hk => h.parent text owner kind k hk) hclean

theorem buildReturn (h : s.Keeps s' module) {m : MethodDecl}
    (hclean : failures (s.buildReturn module location m).toList = []) :
    s'.buildReturn module location m = s.buildReturn module location m :=
  optional_map_eq_of_clean (fun r t ht => h.spelling r.type _ t ht) hclean

theorem buildMethod (h : s.Keeps s' module) {m : MethodDecl}
    (hclean : (s.buildMethod module owner m).2 = []) :
    s'.buildMethod module owner m = s.buildMethod module owner m := by
  obtain ⟨hparams, hresult⟩ := List.append_eq_nil_iff.1 hclean
  simp only [Scope.buildMethod, h.buildFields hparams, h.buildReturn hresult]

theorem buildConstructor (h : s.Keeps s' module) {c : ConstructorDecl}
    (hclean : (s.buildConstructor module owner c).2 = []) :
    s'.buildConstructor module owner c = s.buildConstructor module owner c := by
  have hparams : failures (s.buildFields module (owner ++ " constructor") c.params) = [] := hclean
  simp only [Scope.buildConstructor, h.buildFields hparams]

theorem buildEvent {key : TypeKey} (h : s.Keeps s' key.module) {origin : Origin} {e : EventDecl}
    (hclean : (s.buildEvent key origin owner e).2 = []) :
    s'.buildEvent key origin owner e = s.buildEvent key origin owner e := by
  have hproperties :
      failures (s.buildFields key.module (owner ++ "." ++ e.name) e.properties) = [] := hclean
  simp only [Scope.buildEvent, h.buildFields hproperties]

/-- What is built without a failure is built to the same body. -/
theorem buildBody (h : s.Keeps s' module) {d : DeclDraft}
    (hclean : (s.buildBody module d).2.2 = []) : s'.buildBody module d = s.buildBody module d := by
  obtain ⟨decl, path, origin, wellFormed⟩ := d
  cases decl with
  | «alias» a => rfl
  | complex c =>
    cases hc : c.format with
    | enum => simp only [Scope.buildBody, hc]
    | register =>
      simp only [Scope.buildBody, hc, List.append_eq_nil_iff] at hclean ⊢
      rw [h.buildParent hclean.1, h.buildFields hclean.2]
  | remote r =>
    simp only [Scope.buildBody, Declaration.name, List.append_eq_nil_iff, List.flatMap_eq_nil_iff,
      List.forall_mem_map] at hclean ⊢
    obtain ⟨⟨⟨hparent, hcreate⟩, hcall⟩, hemit⟩ := hclean
    have hctor : r.constructor.map (s'.buildConstructor module (module ++ "." ++ r.name)) =
        r.constructor.map (s.buildConstructor module (module ++ "." ++ r.name)) := by
      refine Option.map_congr fun c hc => h.buildConstructor ?_
      simpa [hc] using hcreate
    have hmethods : r.methods.map (s'.buildMethod module (module ++ "." ++ r.name)) =
        r.methods.map (s.buildMethod module (module ++ "." ++ r.name)) :=
      List.map_congr_left fun m hm => h.buildMethod (hcall m hm)
    have hevents : r.events.map (s'.buildEvent ⟨module, r.name⟩ origin (module ++ "." ++ r.name)) =
        r.events.map (s.buildEvent ⟨module, r.name⟩ origin (module ++ "." ++ r.name)) :=
      List.map_congr_left fun e he => buildEvent h (hemit e he)
    rw [h.buildParent hparent, hctor, hmethods, hevents]

/-- **What is built is built again.** -/
theorem buildType (h : s.Keeps s' module) {d : DeclDraft} {t : TypeDef}
    (ht : s.buildType module d = .ok t) : s'.buildType module d = .ok t := by
  rw [← ht, Scope.buildType, Scope.buildType, h.buildBody (buildType_eq_ok ht).1]

end Keeps

end Scope

/-! ## Documents of new modules -/

namespace Loaded

variable {documents added : List Loaded} {a b : String}

theorem Fresh.imports_iff (h : Fresh documents added) (ha : Declares documents a) :
    Imports (documents ++ added) a b ↔ Imports documents a b := by
  constructor
  · rintro ⟨l, hl, rfl, hi⟩
    obtain hl | hl := List.mem_append.1 hl
    · exact ⟨l, hl, rfl, hi⟩
    · exact absurd ha (h l hl)
  · rintro ⟨l, hl, hi⟩
    exact ⟨l, List.mem_append_left _ hl, hi⟩

/-- **The namespace of some documents grows with new modules**, if they import nothing unknown. -/
theorem Fresh.grows (h : Fresh documents added)
    (hknown : ∀ a b, Imports documents a b → Declares documents b) :
    (namespaceOf documents).Grows (namespaceOf (documents ++ added)) (Declares documents) where
  kind k d hk := by
    constructor
    · rintro ⟨l, hl, hm, hd⟩
      obtain hl | hl := List.mem_append.1 hl
      · exact ⟨l, hl, hm, hd⟩
      · exact absurd (hm ▸ hk) (h l hl)
    · rintro ⟨l, hl, hm, hd⟩
      exact ⟨l, List.mem_append_left _ hl, hm, hd⟩
  reaches a b ha := by
    constructor
    · intro hab
      induction hab using Relation.TransGen.head_induction_on with
      | single hab => exact .single ((h.imports_iff ha).1 hab)
      | head hac _ ih =>
        have hac := (h.imports_iff ha).1 hac
        exact .head hac (ih (hknown _ _ hac))
    · exact Relation.TransGen.mono
        (fun _ _ ⟨l, hl, hi⟩ => ⟨l, List.mem_append_left _ hl, hi⟩) a b
  closed a b _ hab := by
    obtain ⟨c, -, hcb⟩ := Relation.TransGen.tail'_iff.1 hab
    exact hknown c b hcb

end Loaded

/-- **A module is finished to the same when new modules are added.** -/
theorem Drafts.Complete.moduleOf_append {documents added : List Loaded} {o : Overlay}
    {name : String} {draft : ModuleDraft}
    (h : (Loaded.drafts documents).Complete (Loaded.sorted documents))
    (h' : (Loaded.drafts (documents ++ added)).Complete (Loaded.sorted (documents ++ added)))
    (hknown : ∀ a b, Loaded.Imports documents a b → Loaded.Declares documents b)
    (hfresh : Loaded.Fresh documents added)
    (hdraft : (Loaded.drafts documents).find? name = some draft) :
    (Loaded.drafts (documents ++ added)).moduleOf o name draft =
      (Loaded.drafts documents).moduleOf o name draft := by
  have hsorted : ∀ l : List Loaded, Loaded.namespaceOf (Loaded.sorted l) = Loaded.namespaceOf l :=
    fun l => Loaded.namespaceOf_congr fun _ => Loaded.mem_sorted
  have hold : Loaded.Declares documents name := by
    obtain ⟨l, hl, hn⟩ := (h.gathers.has name).1 (Table.has_iff.2 ⟨draft, hdraft⟩)
    exact ⟨l, Loaded.mem_sorted.1 hl, hn⟩
  have hkeeps := (hsorted _ ▸ h.scope).keeps (hsorted _ ▸ h'.scope) (hfresh.grows hknown) hold
  have htypes : buildTypes (Loaded.drafts (documents ++ added)).ownScope name draft =
      buildTypes (Loaded.drafts documents).ownScope name draft := by
    refine List.map_congr_left fun e he => ?_
    have hkept := (h.gathers.modules _ _ hdraft).types.sorted.mem_iff.1 (List.mem_of_mem_filter he)
    obtain ⟨t, ht⟩ := h.built ⟨name, e.1⟩ e.2 (Option.bind_eq_some_iff.2 ⟨draft, hdraft, hkept⟩)
    exact congrArg (Prod.mk e.1) ((hkeeps.buildType ht).trans ht.symm)
  rw [moduleOf, moduleOf, htypes]

/-- **New modules change nothing in the old ones**: if documents of new modules are added to some
that are merged, and all of them are merged, then every module is found as it was, with each of its
types, and whatever the new modules declare or import. -/
theorem modules_of_merge_append {o : Overlay} {documents added : List Loaded} {m n : Model}
    (hfresh : Loaded.Fresh documents added) (hm : merge o documents = .ok m)
    (hn : merge o (documents ++ added) = .ok n) :
    (∀ name md, m.modules.find? name = some md → n.modules.find? name = some md) ∧
      ∀ k t, m.lookup k = some t → n.lookup k = some t := by
  obtain ⟨h, rfl⟩ := complete_of_merge hm
  obtain ⟨h', rfl⟩ := complete_of_merge hn
  obtain ⟨-, hunknown, -⟩ := merge_eq_ok_iff.1 hm
  have hknown : ∀ a b, Loaded.Imports documents a b → Loaded.Declares documents b := by
    have hsorted := (h.agrees.unknown_eq_nil_iff h.gathers).1 hunknown
    rw [Loaded.imports_congr fun _ => Loaded.mem_sorted] at hsorted
    intro a b hab
    obtain ⟨l, hl, hb⟩ := hsorted a b hab
    exact ⟨l, Loaded.mem_sorted.1 hl, hb⟩
  have hmodules : ∀ name md, ((Loaded.drafts documents).model o).modules.find? name = some md →
      ((Loaded.drafts (documents ++ added)).model o).modules.find? name = some md := by
    intro name md hmd
    obtain ⟨draft, hdraft, rfl⟩ := Drafts.draft_of_module hmd
    have hother : ∀ l ∈ added, l.document.name ≠ name := fun l hl heq => by
      obtain ⟨k, hk, hname⟩ := (h.gathers.has name).1 (Table.has_iff.2 ⟨draft, hdraft⟩)
      exact hfresh l hl ⟨k, Loaded.mem_sorted.1 hk, hname.trans heq.symm⟩
    rw [← h.moduleOf_append h' hknown hfresh hdraft]
    exact Drafts.module_of_draft ((Loaded.find?_drafts_append hother).trans hdraft)
  refine ⟨hmodules, fun k t ht => ?_⟩
  obtain ⟨md, hmd, ht⟩ := Option.bind_eq_some_iff.1 ht
  exact Option.bind_eq_some_iff.2 ⟨md, hmodules _ md hmd, ht⟩

/-- A module that imports the sample's and declares one of their names again. -/
def sampleExtra : Document where
  name := "extra"
  version := "1.0"
  doc := none
  imports := [⟨"app", "2.0"⟩]
  code := .null
  aliases := []
  complexTypes := [{ sampleBase with parent := some "User" }]
  remoteClasses := []
  origin := none

/-- The sample and one more document. -/
def extendedSample : List Loaded := sample ++ [⟨"src/extra.json", .local, sampleExtra⟩]

theorem exists_merge_extendedSample : ∃ n, merge Overlay.empty extendedSample = .ok n := by
  have hsorted : Loaded.sorted extendedSample = extendedSample :=
    List.mergeSort_of_pairwise (by decide)
  have hany : (merge Overlay.empty extendedSample).toOption.any (fun _ => true) = true := by
    rw [merge, hsorted]
    decide +kernel
  obtain ⟨n, hn, -⟩ := exists_of_any_toOption hany
  exact ⟨n, hn⟩

/-- The sample's modules are as they were, though its new module has a type of a known name. -/
theorem modules_of_merge_append_sample :
    Loaded.Fresh sample [⟨"src/extra.json", .local, sampleExtra⟩] ∧ ∃ m n,
      merge Overlay.empty sample = .ok m ∧ merge Overlay.empty extendedSample = .ok n ∧
        ∀ name md, m.modules.find? name = some md → n.modules.find? name = some md := by
  have hfresh : Loaded.Fresh sample [⟨"src/extra.json", .local, sampleExtra⟩] := by
    simp only [Loaded.Fresh, Loaded.Declares, sample, List.mem_cons, List.not_mem_nil, or_false,
      forall_eq, exists_eq_or_imp, exists_eq_left]
    decide
  obtain ⟨m, hm⟩ := exists_merge_sample
  obtain ⟨n, hn⟩ := exists_merge_extendedSample
  exact ⟨hfresh, m, n, hm, hn, (modules_of_merge_append hfresh hm hn).1⟩

end InterfaceGen
