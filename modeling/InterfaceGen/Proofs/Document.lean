import InterfaceGen.Document.Check
import InterfaceGen.Model.Build
import InterfaceGen.Proofs.Json.Distinct

/-!
# Proofs/Document — the positions of a declaration, and when two declarations are the same

A declaration writes types at its fields, at its returns and after `extends`. Two declarations that
are the same write the same texts at the same positions, whatever the order of keys in their default
values. If no default value has a key twice, sameness is an equivalence: main statements
`Declaration.Distinct.same_refl`, `same_symm`, `same_trans`.
-/

namespace InterfaceGen

/-! ## Positions -/

namespace Declaration

/-- The fields of a declaration: properties, parameters and fields of events. -/
def fields : Declaration → List FieldDecl
  | .alias _ => []
  | .complex c => c.properties
  | .remote r =>
    (r.constructor.map (·.params)).getD [] ++ r.methods.flatMap (·.params) ++
      r.events.flatMap (·.properties)

/-- What the methods of a declaration return, where they say so. -/
def returns : Declaration → List ReturnDecl
  | .remote r => r.methods.filterMap (·.result)
  | _ => []

/-- The type a declaration extends, as it is written. -/
def parent : Declaration → Option String
  | .alias _ => none
  | .complex c => c.parent
  | .remote r => r.parent

/-- The fields of a remote class are those of its constructor, of its methods and of its events. -/
theorem forall_fields_remote_iff {r : RemoteClassDecl} {p : FieldDecl → Prop} :
    (∀ f ∈ (Declaration.remote r).fields, p f) ↔
      (∀ c, r.constructor = some c → ∀ f ∈ c.params, p f) ∧
        (∀ m ∈ r.methods, ∀ f ∈ m.params, p f) ∧ ∀ e ∈ r.events, ∀ f ∈ e.properties, p f := by
  simp only [fields, List.forall_mem_append, List.forall_mem_flatMap, and_assoc]
  refine and_congr_left' ?_
  cases r.constructor <;> simp

theorem forall_returns_remote_iff {r : RemoteClassDecl} {p : ReturnDecl → Prop} :
    (∀ t ∈ (Declaration.remote r).returns, p t) ↔
      ∀ m ∈ r.methods, ∀ t, m.result = some t → p t := by
  simp only [returns, List.mem_filterMap]
  exact ⟨fun h m hm t ht => h t ⟨m, hm, ht⟩, fun h t ⟨m, hm, ht⟩ => h m hm t ht⟩

/-- The name of a well-formed declaration is an identifier. -/
theorem isIdentifier_of_problems {d : Declaration} (h : d.problems = []) :
    isIdentifier d.name = true := by
  by_contra hid
  have hname := (List.append_eq_nil_iff.1 h).1
  rw [if_neg hid] at hname
  cases hname

end Declaration

/-! ## Headers -/

/-- A header is clean if its name and version are, and its imports and its parameters. -/
theorem Document.headerProblems_eq_nil_iff {d : Document} : d.headerProblems = [] ↔
    isModuleName d.name = true ∧ Text.isBlankText d.version = false ∧
      (∀ i ∈ d.imports, importProblems d.name i = []) ∧
      (d.code.isNull = true ∨ d.code.isObject = true) := by
  simp [headerProblems, or_iff_not_imp_left]

/-! ## Default values with distinct keys -/

/-- No default value has a key twice. -/
def FieldDecl.Distinct (f : FieldDecl) : Prop := ∀ v ∈ f.defaultValue, v.Distinct

/-- No default value in the declaration has a key twice. -/
def Declaration.Distinct (d : Declaration) : Prop := ∀ f ∈ d.fields, f.Distinct

/-- No JSON object in the document has a key twice, as is the case for every object that is read. -/
structure Document.Distinct (d : Document) : Prop where
  code : d.code.Distinct
  declarations : ∀ decl ∈ d.declarations, decl.Distinct

/-! ## Sameness, part by part -/

theorem sameList_iff {α : Type} {same : α → α → Bool} {as bs : List α} :
    sameList same as bs = true ↔ List.Forall₂ (same · · = true) as bs := by
  induction as generalizing bs with
  | nil => cases bs <;> simp [sameList]
  | cons a as ih =>
    cases bs with
    | nil => simp [sameList]
    | cons b bs => simp [sameList, ih]

theorem sameOptional_iff {α : Type} {same : α → α → Bool} {a b : Option α} :
    sameOptional same a b = true ↔ Option.Rel (same · · = true) a b := by
  cases a <;> cases b <;> simp [sameOptional]

namespace FieldDecl

variable {a b c : FieldDecl}

theorem same_iff : a.same b = true ↔ a.name = b.name ∧ a.doc = b.doc ∧ a.type = b.type ∧
    a.optional = b.optional ∧ Json.sameOption a.defaultValue b.defaultValue = true := by
  simp [same, and_assoc]

theorem Distinct.same_refl (h : a.Distinct) : a.same a = true := by
  refine same_iff.2 ⟨rfl, rfl, rfl, rfl, ?_⟩
  cases hv : a.defaultValue with
  | none => rfl
  | some v => exact (h v hv).same_refl

theorem Distinct.same_symm (ha : a.Distinct) (hb : b.Distinct) (h : a.same b = true) :
    b.same a = true := by
  obtain ⟨hname, hdoc, htype, hopt, hdef⟩ := same_iff.1 h
  refine same_iff.2 ⟨hname.symm, hdoc.symm, htype.symm, hopt.symm, ?_⟩
  cases hv : a.defaultValue with
  | none => cases hw : b.defaultValue <;> simp_all [Json.sameOption]
  | some v =>
    cases hw : b.defaultValue with
    | none => simp [hv, hw, Json.sameOption] at hdef
    | some w =>
      rw [hv, hw] at hdef
      exact (ha v hv).same_symm (hb w hw) hdef

theorem Distinct.same_trans (ha : a.Distinct) (h : a.same b = true) (h' : b.same c = true) :
    a.same c = true := by
  obtain ⟨hname, hdoc, htype, hopt, hdef⟩ := same_iff.1 h
  obtain ⟨hname', hdoc', htype', hopt', hdef'⟩ := same_iff.1 h'
  refine same_iff.2 ⟨hname.trans hname', hdoc.trans hdoc', htype.trans htype', hopt.trans hopt', ?_⟩
  cases hv : a.defaultValue with
  | none =>
    rw [hv] at hdef
    cases hw : b.defaultValue with
    | none => rwa [hw] at hdef'
    | some w => simp [hw, Json.sameOption] at hdef
  | some v =>
    rw [hv] at hdef
    cases hw : b.defaultValue with
    | none => simp [hw, Json.sameOption] at hdef
    | some w =>
      rw [hw] at hdef hdef'
      cases hu : c.defaultValue with
      | none => simp [hu, Json.sameOption] at hdef'
      | some u =>
        rw [hu] at hdef'
        exact (ha v hv).same_trans hdef hdef'

/-- Fields of one list may be turned around, if all their default values are distinct. -/
theorem same_symm_list {as bs : List FieldDecl} (ha : ∀ f ∈ as, f.Distinct)
    (hb : ∀ f ∈ bs, f.Distinct) (h : List.Forall₂ (same · · = true) as bs) :
    List.Forall₂ (same · · = true) bs as :=
  forall₂_swap_of_mem (fun f hf g hg => (ha f hf).same_symm (hb g hg)) h

theorem same_trans_list {as bs cs : List FieldDecl} (ha : ∀ f ∈ as, f.Distinct)
    (h : List.Forall₂ (same · · = true) as bs) (h' : List.Forall₂ (same · · = true) bs cs) :
    List.Forall₂ (same · · = true) as cs :=
  forall₂_trans_of_mem (fun f hf _ _ => (ha f hf).same_trans) h h'

theorem same_refl_list {as : List FieldDecl} (ha : ∀ f ∈ as, f.Distinct) :
    List.Forall₂ (same · · = true) as as :=
  List.forall₂_same.2 fun f hf => (ha f hf).same_refl

end FieldDecl

namespace MethodDecl

variable {a b c : MethodDecl}

theorem same_iff : a.same b = true ↔ a.name = b.name ∧ a.doc = b.doc ∧
    List.Forall₂ (FieldDecl.same · · = true) a.params b.params ∧ a.result = b.result := by
  simp [same, sameList_iff, and_assoc]

theorem same_refl (h : ∀ f ∈ a.params, f.Distinct) : a.same a = true :=
  same_iff.2 ⟨rfl, rfl, FieldDecl.same_refl_list h, rfl⟩

theorem same_symm (ha : ∀ f ∈ a.params, f.Distinct) (hb : ∀ f ∈ b.params, f.Distinct)
    (h : a.same b = true) : b.same a = true := by
  obtain ⟨hname, hdoc, hparams, hresult⟩ := same_iff.1 h
  exact same_iff.2
    ⟨hname.symm, hdoc.symm, FieldDecl.same_symm_list ha hb hparams, hresult.symm⟩

theorem same_trans (ha : ∀ f ∈ a.params, f.Distinct) (h : a.same b = true)
    (h' : b.same c = true) : a.same c = true := by
  obtain ⟨hname, hdoc, hparams, hresult⟩ := same_iff.1 h
  obtain ⟨hname', hdoc', hparams', hresult'⟩ := same_iff.1 h'
  exact same_iff.2 ⟨hname.trans hname', hdoc.trans hdoc',
    FieldDecl.same_trans_list ha hparams hparams', hresult.trans hresult'⟩

end MethodDecl

namespace ConstructorDecl

variable {a b c : ConstructorDecl}

theorem same_iff : a.same b = true ↔
    a.doc = b.doc ∧ List.Forall₂ (FieldDecl.same · · = true) a.params b.params := by
  simp [same, sameList_iff]

theorem same_refl (h : ∀ f ∈ a.params, f.Distinct) : a.same a = true :=
  same_iff.2 ⟨rfl, FieldDecl.same_refl_list h⟩

theorem same_symm (ha : ∀ f ∈ a.params, f.Distinct) (hb : ∀ f ∈ b.params, f.Distinct)
    (h : a.same b = true) : b.same a = true := by
  obtain ⟨hdoc, hparams⟩ := same_iff.1 h
  exact same_iff.2 ⟨hdoc.symm, FieldDecl.same_symm_list ha hb hparams⟩

theorem same_trans (ha : ∀ f ∈ a.params, f.Distinct) (h : a.same b = true)
    (h' : b.same c = true) : a.same c = true := by
  obtain ⟨hdoc, hparams⟩ := same_iff.1 h
  obtain ⟨hdoc', hparams'⟩ := same_iff.1 h'
  exact same_iff.2 ⟨hdoc.trans hdoc', FieldDecl.same_trans_list ha hparams hparams'⟩

end ConstructorDecl

namespace EventDecl

variable {a b c : EventDecl}

theorem same_iff : a.same b = true ↔ a.name = b.name ∧ a.doc = b.doc ∧
    List.Forall₂ (FieldDecl.same · · = true) a.properties b.properties := by
  simp [same, sameList_iff, and_assoc]

theorem same_refl (h : ∀ f ∈ a.properties, f.Distinct) : a.same a = true :=
  same_iff.2 ⟨rfl, rfl, FieldDecl.same_refl_list h⟩

theorem same_symm (ha : ∀ f ∈ a.properties, f.Distinct) (hb : ∀ f ∈ b.properties, f.Distinct)
    (h : a.same b = true) : b.same a = true := by
  obtain ⟨hname, hdoc, hproperties⟩ := same_iff.1 h
  exact same_iff.2 ⟨hname.symm, hdoc.symm, FieldDecl.same_symm_list ha hb hproperties⟩

theorem same_trans (ha : ∀ f ∈ a.properties, f.Distinct) (h : a.same b = true)
    (h' : b.same c = true) : a.same c = true := by
  obtain ⟨hname, hdoc, hproperties⟩ := same_iff.1 h
  obtain ⟨hname', hdoc', hproperties'⟩ := same_iff.1 h'
  exact same_iff.2 ⟨hname.trans hname', hdoc.trans hdoc',
    FieldDecl.same_trans_list ha hproperties hproperties'⟩

end EventDecl

namespace Declaration

theorem same_alias_iff {a b : AliasDecl} :
    (.alias a : Declaration).same (.alias b) = true ↔ a = b := by
  simp [same]

theorem same_complex_iff {a b : ComplexTypeDecl} : (complex a).same (complex b) = true ↔
    a.name = b.name ∧ a.doc = b.doc ∧ a.format = b.format ∧ a.parent = b.parent ∧
      List.Forall₂ (FieldDecl.same · · = true) a.properties b.properties ∧ a.values = b.values := by
  simp [same, sameList_iff, and_assoc]

theorem same_remote_iff {a b : RemoteClassDecl} : (remote a).same (remote b) = true ↔
    a.name = b.name ∧ a.doc = b.doc ∧ a.parent = b.parent ∧ a.isAbstract = b.isAbstract ∧
      Option.Rel (ConstructorDecl.same · · = true) a.constructor b.constructor ∧
      List.Forall₂ (MethodDecl.same · · = true) a.methods b.methods ∧
      List.Forall₂ (EventDecl.same · · = true) a.events b.events := by
  simp [same, sameList_iff, sameOptional_iff, and_assoc]

/-! ## The same texts at the same positions -/

variable {a b c : Declaration}

theorem kind_of_same (h : a.same b = true) : a.kind = b.kind := by
  cases a <;> cases b <;> simp_all [same, kind]

theorem parent_of_same (h : a.same b = true) : a.parent = b.parent := by
  cases a <;> cases b <;> simp_all [same, parent]

/-- Methods that are the same declare the same returns. -/
theorem returns_of_same (h : a.same b = true) : a.returns = b.returns := by
  cases a with
  | remote d =>
    cases b with
    | remote e =>
      obtain ⟨-, -, -, -, -, hmethods, -⟩ := same_remote_iff.1 h
      have hmap := map_eq_of_forall₂ (f := MethodDecl.result) (g := MethodDecl.result)
        (fun m n hmn => (MethodDecl.same_iff.1 hmn).2.2.2) hmethods
      simpa [returns, List.filterMap_map] using congrArg (List.filterMap id) hmap
    | _ => simp [same] at h
  | _ => cases b <;> simp_all [same, returns]

/-- Fields that are the same are of the same written types. -/
theorem types_of_same (h : a.same b = true) : a.fields.map (·.type) = b.fields.map (·.type) := by
  have hfields : ∀ {as bs : List FieldDecl}, List.Forall₂ (FieldDecl.same · · = true) as bs →
      as.map (·.type) = bs.map (·.type) :=
    map_eq_of_forall₂ fun f g hfg => (FieldDecl.same_iff.1 hfg).2.2.1
  cases a with
  | «alias» d => cases b <;> simp_all [same, fields]
  | complex d =>
    cases b with
    | complex e => exact hfields (same_complex_iff.1 h).2.2.2.2.1
    | _ => simp [same] at h
  | remote d =>
    cases b with
    | remote e =>
      obtain ⟨-, -, -, -, hctor, hmethods, hevents⟩ := same_remote_iff.1 h
      have hm : d.methods.map (fun m => m.params.map (·.type)) =
          e.methods.map fun m => m.params.map (·.type) :=
        map_eq_of_forall₂ (fun m n hmn => hfields (MethodDecl.same_iff.1 hmn).2.2.1) hmethods
      have he : d.events.map (fun m => m.properties.map (·.type)) =
          e.events.map fun m => m.properties.map (·.type) :=
        map_eq_of_forall₂ (fun m n hmn => hfields (EventDecl.same_iff.1 hmn).2.2) hevents
      simp only [fields, List.map_append, List.map_flatMap]
      simp only [List.flatMap_def, hm, he]
      refine congrArg (· ++ _ ++ _) ?_
      generalize d.constructor = create, e.constructor = create' at hctor
      cases hctor with
      | none => rfl
      | some hsame => exact hfields (ConstructorDecl.same_iff.1 hsame).2
    | _ => simp [same] at h

/-! ## An equivalence -/

/-- **A declaration is the same as itself.** -/
theorem Distinct.same_refl (h : a.Distinct) : a.same a = true := by
  cases a with
  | «alias» d => exact same_alias_iff.2 rfl
  | complex d => exact same_complex_iff.2 ⟨rfl, rfl, rfl, rfl, FieldDecl.same_refl_list h, rfl⟩
  | remote d =>
    obtain ⟨hcreate, hcall, hemit⟩ := forall_fields_remote_iff.1 h
    refine same_remote_iff.2 ⟨rfl, rfl, rfl, rfl, ?_, List.forall₂_same.2 fun m hm => ?_,
      List.forall₂_same.2 fun e he => ?_⟩
    · cases hc : d.constructor with
      | none => exact .none
      | some c => exact .some (ConstructorDecl.same_refl (hcreate c hc))
    · exact MethodDecl.same_refl (hcall m hm)
    · exact EventDecl.same_refl (hemit e he)

/-- **Sameness of declarations is symmetric.** -/
theorem Distinct.same_symm (ha : a.Distinct) (hb : b.Distinct) (h : a.same b = true) :
    b.same a = true := by
  cases a with
  | «alias» d =>
    cases b with
    | «alias» e => exact same_alias_iff.2 (same_alias_iff.1 h).symm
    | _ => simp [same] at h
  | complex d =>
    cases b with
    | complex e =>
      obtain ⟨hname, hdoc, hformat, hparent, hprops, hvalues⟩ := same_complex_iff.1 h
      exact same_complex_iff.2 ⟨hname.symm, hdoc.symm, hformat.symm, hparent.symm,
        FieldDecl.same_symm_list ha hb hprops, hvalues.symm⟩
    | _ => simp [same] at h
  | remote d =>
    cases b with
    | remote e =>
      obtain ⟨hcreate, hcall, hemit⟩ := forall_fields_remote_iff.1 ha
      obtain ⟨hcreate', hcall', hemit'⟩ := forall_fields_remote_iff.1 hb
      obtain ⟨hname, hdoc, hparent, habs, hctor, hmethods, hevents⟩ := same_remote_iff.1 h
      refine same_remote_iff.2 ⟨hname.symm, hdoc.symm, hparent.symm, habs.symm, ?_,
        forall₂_swap_of_mem (fun m hm n hn => MethodDecl.same_symm (hcall m hm) (hcall' n hn))
          hmethods,
        forall₂_swap_of_mem (fun m hm n hn => EventDecl.same_symm (hemit m hm) (hemit' n hn))
          hevents⟩
      generalize d.constructor = create, e.constructor = create' at hctor hcreate hcreate'
      cases hctor with
      | none => exact .none
      | some hsame => exact .some (ConstructorDecl.same_symm (hcreate _ rfl) (hcreate' _ rfl) hsame)
    | _ => simp [same] at h

/-- **Sameness of declarations is transitive.** -/
theorem Distinct.same_trans (ha : a.Distinct) (h : a.same b = true) (h' : b.same c = true) :
    a.same c = true := by
  cases a with
  | «alias» d =>
    cases b with
    | «alias» e => exact same_alias_iff.1 h ▸ h'
    | _ => simp [same] at h
  | complex d =>
    cases b with
    | complex e =>
      cases c with
      | complex f =>
        obtain ⟨hname, hdoc, hformat, hparent, hprops, hvalues⟩ := same_complex_iff.1 h
        obtain ⟨hname', hdoc', hformat', hparent', hprops', hvalues'⟩ := same_complex_iff.1 h'
        exact same_complex_iff.2 ⟨hname.trans hname', hdoc.trans hdoc', hformat.trans hformat',
          hparent.trans hparent', FieldDecl.same_trans_list ha hprops hprops',
          hvalues.trans hvalues'⟩
      | _ => simp [same] at h'
    | _ => simp [same] at h
  | remote d =>
    cases b with
    | remote e =>
      cases c with
      | remote f =>
        obtain ⟨hcreate, hcall, hemit⟩ := forall_fields_remote_iff.1 ha
        obtain ⟨hname, hdoc, hparent, habs, hctor, hmethods, hevents⟩ := same_remote_iff.1 h
        obtain ⟨hname', hdoc', hparent', habs', hctor', hmethods', hevents'⟩ :=
          same_remote_iff.1 h'
        refine same_remote_iff.2 ⟨hname.trans hname', hdoc.trans hdoc', hparent.trans hparent',
          habs.trans habs', ?_,
          forall₂_trans_of_mem (fun m hm _ _ => MethodDecl.same_trans (hcall m hm)) hmethods
            hmethods',
          forall₂_trans_of_mem (fun m hm _ _ => EventDecl.same_trans (hemit m hm)) hevents
            hevents'⟩
        generalize d.constructor = create, e.constructor = create', f.constructor = create''
          at hctor hctor' hcreate
        cases hctor with
        | none => exact hctor'
        | some hsame =>
          cases hctor' with
          | some hsame' => exact .some (ConstructorDecl.same_trans (hcreate _ rfl) hsame hsame')
      | _ => simp [same] at h'
    | _ => simp [same] at h

end Declaration

end InterfaceGen
