import InterfaceGen.Document.Check
import Mathlib.Data.List.Nodup

/-!
# Proofs/WellFormed — a declaration is reported for each of its faults, once

What makes a declaration well formed is said of its parts (`Declaration.WellFormed`), and what can
be wrong with it is a list of causes (`Declaration.Fault`): a name is told by the list that it is in
and by its place there, so two occurrences of one name are two faults. Main statement:
`Declaration.problems_tell` — the problems of a declaration are the wordings of the faults it has,
one for each, and there are none exactly when it is well formed.
-/

namespace InterfaceGen

/-! ## Well-formed declarations -/

/-- All names are identifiers, and no name comes twice. -/
structure DistinctIdentifiers (names : List String) : Prop where
  valid : ∀ n ∈ names, isIdentifier n = true
  distinct : names.Nodup

namespace Declaration

/-- What every kind of declaration needs, each for itself. -/
inductive WellFormed : Declaration → Prop where
  /-- An alias stands for a primitive that has values. -/
  | alias {a : AliasDecl} {p : Primitive} (name : isIdentifier a.name = true)
      (target : Primitive.ofName? (Text.trimmed a.type) = some p) (value : p ≠ .void) :
      WellFormed (.alias a)
  /-- An enumeration has values and nothing else. -/
  | enum {c : ComplexTypeDecl} (format : c.format = .enum) (name : isIdentifier c.name = true)
      (inhabited : c.values ≠ []) (values : DistinctIdentifiers c.values)
      (noProperties : c.properties = []) (noParent : c.parent = none) : WellFormed (.complex c)
  /-- A structured type has no values. -/
  | register {c : ComplexTypeDecl} (format : c.format = .register)
      (name : isIdentifier c.name = true) (noValues : c.values = [])
      (properties : DistinctIdentifiers (c.properties.map (·.name))) : WellFormed (.complex c)
  /-- The members of a remote class are told apart list by list. -/
  | remote {r : RemoteClassDecl} (name : isIdentifier r.name = true)
      (constructor : ∀ c ∈ r.constructor, DistinctIdentifiers (c.params.map (·.name)))
      (methods : DistinctIdentifiers (r.methods.map (·.name)))
      (params : ∀ m ∈ r.methods, DistinctIdentifiers (m.params.map (·.name)))
      (events : DistinctIdentifiers (r.events.map (·.name)))
      (properties : ∀ e ∈ r.events, DistinctIdentifiers (e.properties.map (·.name))) :
      WellFormed (.remote r)

end Declaration

/-! ## Faults -/

/-- A list of names in a declaration, with what messages call its members. -/
structure NameList where
  what : String
  names : List String

namespace Declaration

/-- The lists of names in a declaration, in the order in which they are declared. -/
def nameLists : Declaration → List NameList
  | .alias _ => []
  | .complex c =>
    match c.format with
    | .enum => [⟨"enum '" ++ c.name ++ "' value", c.values⟩]
    | .register => [⟨"'" ++ c.name ++ "' property", c.properties.map (·.name)⟩]
  | .remote r =>
    (r.constructor.map fun c =>
        ⟨"'" ++ r.name ++ "' constructor parameter", c.params.map (·.name)⟩).toList ++
      [⟨"'" ++ r.name ++ "' method", r.methods.map (·.name)⟩] ++
      (r.methods.map fun m =>
        ⟨"'" ++ r.name ++ "." ++ m.name ++ "' parameter", m.params.map (·.name)⟩) ++
      [⟨"'" ++ r.name ++ "' event", r.events.map (·.name)⟩] ++
      r.events.map fun e =>
        ⟨"'" ++ r.name ++ "." ++ e.name ++ "' property", e.properties.map (·.name)⟩

/-- One thing that is wrong with a declaration; lists and places in them count from zero. -/
inductive Fault where
  /-- The declared name is no identifier. -/
  | misnamed (owner : String)
  /-- An alias stands for no primitive, or for one without values. -/
  | target (owner written : String)
  /-- An enumeration is empty. -/
  | noValues (owner : String)
  /-- An enumeration has properties or a parent. -/
  | notPlain (owner : String)
  /-- A structured type has values. -/
  | valued (owner : String)
  /-- The name at a place of a list is no identifier. -/
  | invalid (list place : Nat) (what name : String)
  /-- The name at a place of a list is at an earlier one too. -/
  | repeated (list place : Nat) (what name : String)

namespace Fault

/-- The wording of a fault. -/
def message : Fault → String
  | .misnamed owner => "'" ++ owner ++ "' is not a valid type name"
  | .target owner written =>
    "alias '" ++ owner ++ "' must name a primitive type other than void, found '" ++ written ++ "'"
  | .noValues owner => "enum '" ++ owner ++ "' declares no values"
  | .notPlain owner => "enum '" ++ owner ++ "' cannot declare properties or a parent"
  | .valued owner => "structured type '" ++ owner ++ "' cannot declare values"
  | .invalid _ _ what name => what ++ " '" ++ name ++ "' is not a valid identifier"
  | .repeated _ _ what name => what ++ " '" ++ name ++ "' is declared more than once"

/-- The list that a fault is in, if it is about a name in one. -/
def list? : Fault → Option Nat
  | .invalid list .. => some list
  | .repeated list .. => some list
  | _ => none

/-- The place in its list that a fault is at. -/
def place? : Fault → Option Nat
  | .invalid _ place .. => some place
  | .repeated _ place .. => some place
  | _ => none

end Fault

/-- The declaration has the fault. -/
inductive Has : Declaration → Fault → Prop where
  | misnamed {d : Declaration} (invalid : isIdentifier d.name = false) : Has d (.misnamed d.name)
  | target {a : AliasDecl}
      (none : ∀ p, Primitive.ofName? (Text.trimmed a.type) = some p → p = .void) :
      Has (.alias a) (.target a.name a.type)
  | noValues {c : ComplexTypeDecl} (format : c.format = .enum) (empty : c.values = []) :
      Has (.complex c) (.noValues c.name)
  | notPlain {c : ComplexTypeDecl} (format : c.format = .enum)
      (more : c.properties ≠ [] ∨ c.parent ≠ none) : Has (.complex c) (.notPlain c.name)
  | valued {c : ComplexTypeDecl} (format : c.format = .register) (values : c.values ≠ []) :
      Has (.complex c) (.valued c.name)
  | invalid {d : Declaration} {list place : Nat} {l : NameList} {n : String}
      (inList : d.nameLists[list]? = some l) (inPlace : l.names[place]? = some n)
      (invalid : isIdentifier n = false) : Has d (.invalid list place l.what n)
  | repeated {d : Declaration} {list place earlier : Nat} {l : NameList} {n : String}
      (inList : d.nameLists[list]? = some l) (inPlace : l.names[place]? = some n)
      (before : earlier < place) (too : l.names[earlier]? = some n) :
      Has d (.repeated list place l.what n)

end Declaration

/-! ## Faults of a list of names -/

/-- Items made from numbered ones are distinct if they tell the number that they are made from. -/
theorem nodup_flatMap_zipIdx {α β : Type} {l : List α} {f : α × Nat → List β}
    (key : β → Option Nat) (hf : ∀ x, (f x).Nodup) (hkey : ∀ x, ∀ b ∈ f x, key b = some x.2) :
    (l.zipIdx.flatMap f).Nodup := by
  refine List.nodup_flatMap.2 ⟨fun x _ => hf x, ?_⟩
  have hnumbers : (l.zipIdx.map (·.2)).Nodup := by
    rw [List.zipIdx_map_snd]
    exact List.nodup_range'
  refine (List.pairwise_map.1 hnumbers).imp fun {x y} hne b hbx hby => hne ?_
  exact Option.some.inj ((hkey x b hbx).symm.trans (hkey y b hby))

namespace NameList

open Declaration

variable {l : NameList} {list : Nat} {f : Fault}

/-- What is wrong with the name at a place of a list. -/
def faultsAt (l : NameList) (list : Nat) (x : String × Nat) : List Fault :=
  (if isIdentifier x.1 then [] else [.invalid list x.2 l.what x.1]) ++
    (if x.1 ∈ l.names.take x.2 then [.repeated list x.2 l.what x.1] else [])

/-- What is wrong with the names of a list, place by place. -/
def faults (l : NameList) (list : Nat) : List Fault := l.names.zipIdx.flatMap (l.faultsAt list)

theorem mem_faultsAt_iff {x : String × Nat} : f ∈ l.faultsAt list x ↔
    isIdentifier x.1 = false ∧ f = .invalid list x.2 l.what x.1 ∨
      x.1 ∈ l.names.take x.2 ∧ f = .repeated list x.2 l.what x.1 := by
  rw [faultsAt, List.mem_append]
  refine or_congr ?_ ?_
  · cases isIdentifier x.1 <;> simp
  · split <;> simp_all

theorem mem_faults_iff : f ∈ l.faults list ↔ ∃ place n, l.names[place]? = some n ∧
    (isIdentifier n = false ∧ f = .invalid list place l.what n ∨
      (∃ earlier < place, l.names[earlier]? = some n) ∧ f = .repeated list place l.what n) := by
  have htake : ∀ n place, n ∈ l.names.take place ↔
      ∃ earlier < place, l.names[earlier]? = some n := fun n place => by
    rw [List.mem_iff_getElem?]
    refine exists_congr fun earlier => ?_
    rw [List.getElem?_take]
    split
    · next hlt => simp [hlt]
    · next hge => simp [hge]
  simp only [faults, List.mem_flatMap, Prod.exists, List.mem_zipIdx_iff_getElem?, mem_faultsAt_iff,
    htake]
  exact exists_comm

theorem nodup_faults (l : NameList) (list : Nat) : (l.faults list).Nodup := by
  refine nodup_flatMap_zipIdx Fault.place? (fun x => ?_) fun x f hf => ?_
  · rw [faultsAt]
    split <;> split <;> simp
  · rcases mem_faultsAt_iff.1 hf with ⟨-, rfl⟩ | ⟨-, rfl⟩ <;> rfl

theorem list?_of_mem_faults (h : f ∈ l.faults list) : f.list? = some list := by
  obtain ⟨place, n, -, ⟨-, rfl⟩ | ⟨-, rfl⟩⟩ := mem_faults_iff.1 h <;> rfl

/-- **The problems of a list of names are the wordings of its faults**, by induction on the names
that are left; `front` holds those that were checked. -/
theorem nameProblems_eq (l : NameList) (list : Nat) :
    nameProblems l.what [] l.names = (l.faults list).map Fault.message := by
  have hfrom : ∀ rest front, l.names = front ++ rest → nameProblems l.what front.reverse rest =
      ((rest.zipIdx front.length).flatMap (l.faultsAt list)).map Fault.message := by
    intro rest
    induction rest with
    | nil => exact fun _ _ => rfl
    | cons n rest ih =>
      intro front hnames
      have hrest := ih (front ++ [n]) (by rw [hnames, List.append_assoc, List.singleton_append])
      rw [List.reverse_concat, List.length_append, List.length_singleton] at hrest
      have hfront : l.names.take front.length = front := by rw [hnames, List.take_left]
      rw [nameProblems, hrest, List.zipIdx_cons, List.flatMap_cons, List.map_append, faultsAt,
        hfront, List.map_append]
      simp only [List.mem_reverse]
      refine congrArg₂ (· ++ ·) (congrArg₂ (· ++ ·) ?_ ?_) rfl
      · split <;> rfl
      · split <;> rfl
  exact hfrom l.names [] rfl

end NameList

/-- Names are distinct identifiers exactly if their list has no fault. -/
theorem NameList.faults_eq_nil_iff {l : NameList} {list : Nat} :
    l.faults list = [] ↔ DistinctIdentifiers l.names := by
  rw [List.eq_nil_iff_forall_not_mem]
  constructor
  · intro h
    refine ⟨fun n hn => ?_, List.nodup_iff_getElem?_ne_getElem?.2 fun i j hij hj heq => ?_⟩
    · obtain ⟨place, hplace⟩ := List.mem_iff_getElem?.1 hn
      by_contra hinvalid
      exact h _ (mem_faults_iff.2
        ⟨place, n, hplace, .inl ⟨Bool.eq_false_iff.2 hinvalid, rfl⟩⟩)
    · have hj := List.getElem?_eq_getElem hj
      exact h _ (mem_faults_iff.2 ⟨j, _, hj, .inr ⟨⟨i, hij, heq.trans hj⟩, rfl⟩⟩)
  · rintro h f hf
    obtain ⟨place, n, hplace, ⟨hinvalid, -⟩ | ⟨⟨earlier, hlt, hearlier⟩, -⟩⟩ := mem_faults_iff.1 hf
    · rw [h.valid n (List.mem_of_getElem? hplace)] at hinvalid
      cases hinvalid
    · obtain ⟨hbound, -⟩ := List.getElem?_eq_some_iff.1 hplace
      exact List.nodup_iff_getElem?_ne_getElem?.1 h.distinct earlier place hlt hbound
        (hearlier.trans hplace.symm)

/-! ## Faults of a declaration -/

namespace Declaration

variable {d : Declaration} {f : Fault}

/-- What is wrong with a declaration besides its names. -/
def bodyFaults : Declaration → List Fault
  | .alias a =>
    if (Primitive.ofName? (Text.trimmed a.type)).all (· = .void) then [.target a.name a.type]
    else []
  | .complex c =>
    match c.format with
    | .enum =>
      (if c.values = [] then [.noValues c.name] else []) ++
        (if c.properties ≠ [] ∨ c.parent ≠ none then [.notPlain c.name] else [])
    | .register => if c.values ≠ [] then [.valued c.name] else []
  | .remote _ => []

/-- What is wrong with a declaration besides the names in its lists. -/
def ownFaults (d : Declaration) : List Fault :=
  (if isIdentifier d.name then [] else [.misnamed d.name]) ++ d.bodyFaults

/-- What is wrong with a declaration, in the order in which it is reported. -/
def faults (d : Declaration) : List Fault :=
  d.ownFaults ++ d.nameLists.zipIdx.flatMap fun x => x.1.faults x.2

/-- **The problems of a declaration are the wordings of its faults.** -/
theorem problems_eq (d : Declaration) : d.problems = d.faults.map Fault.message := by
  have hlists : (d.nameLists.zipIdx.flatMap fun x => x.1.faults x.2).map Fault.message =
      d.nameLists.flatMap fun l => nameProblems l.what [] l.names := by
    conv_rhs => rw [← List.zipIdx_map_fst 0 d.nameLists, List.flatMap_map]
    rw [List.map_flatMap]
    exact List.flatMap_congr fun x _ => (x.1.nameProblems_eq x.2).symm
  rw [problems, faults, ownFaults, List.append_assoc, List.map_append, List.map_append, hlists]
  refine congrArg₂ (· ++ ·) (by split <;> rfl) ?_
  cases d with
  | «alias» a =>
    simp only [bodyProblems, bodyFaults, AliasDecl.problems, nameLists, List.flatMap_nil,
      List.append_nil]
    rcases Primitive.ofName? (Text.trimmed a.type) with _ | p
    · rfl
    · cases p <;> rfl
  | complex c =>
    cases hc : c.format with
    | enum =>
      simp only [bodyProblems, bodyFaults, ComplexTypeDecl.problems, ComplexTypeDecl.enumProblems,
        nameLists, hc, List.flatMap_singleton, List.map_append]
      refine congrArg₂ (· ++ ·) (congrArg₂ (· ++ ·) ?_ ?_) rfl
      · cases c.values <;> rfl
      · cases c.properties <;> cases c.parent <;> rfl
    | register =>
      simp only [bodyProblems, bodyFaults, ComplexTypeDecl.problems,
        ComplexTypeDecl.registerProblems, fieldProblems, nameLists, hc, List.flatMap_singleton]
      refine congrArg₂ (· ++ ·) ?_ rfl
      cases c.values <;> rfl
  | remote r =>
    simp only [bodyProblems, bodyFaults, RemoteClassDecl.problems, nameLists, List.flatMap_append,
      List.flatMap_map, List.flatMap_singleton, List.map_nil, List.nil_append]
    refine congrArg (· ++ _ ++ _ ++ _ ++ _) ?_
    rw [RemoteClassDecl.constructorProblems]
    cases r.constructor <;> simp [fieldProblems]

/-- What is listed besides the names in lists is had, and is in no list. -/
theorem has_of_mem_ownFaults (h : f ∈ d.ownFaults) : d.Has f ∧ f.list? = none := by
  rcases List.mem_append.1 h with h | h
  · split at h
    · cases h
    · next hname =>
      obtain rfl := List.mem_singleton.1 h
      exact ⟨.misnamed (Bool.eq_false_iff.2 hname), rfl⟩
  · cases d with
    | «alias» a =>
      simp only [bodyFaults, List.mem_ite_nil_right, List.mem_singleton, Option.all_eq_true,
        decide_eq_true_eq] at h
      obtain ⟨hnone, rfl⟩ := h
      exact ⟨.target hnone, rfl⟩
    | complex c =>
      cases hc : c.format with
      | enum =>
        simp only [bodyFaults, hc, List.mem_append, List.mem_ite_nil_right,
          List.mem_singleton] at h
        rcases h with ⟨hempty, rfl⟩ | ⟨hmore, rfl⟩
        · exact ⟨.noValues hc hempty, rfl⟩
        · exact ⟨.notPlain hc hmore, rfl⟩
      | register =>
        simp only [bodyFaults, hc, List.mem_ite_nil_right, List.mem_singleton] at h
        obtain ⟨hvalues, rfl⟩ := h
        exact ⟨.valued hc hvalues, rfl⟩
    | remote r => cases h

/-- **What is listed are the faults that the declaration has.** -/
theorem mem_faults_iff : f ∈ d.faults ↔ d.Has f := by
  constructor
  · intro h
    rcases List.mem_append.1 h with h | h
    · exact (has_of_mem_ownFaults h).1
    · obtain ⟨⟨l, list⟩, hl, hf⟩ := List.mem_flatMap.1 h
      have hl := List.mem_zipIdx_iff_getElem?.1 hl
      obtain ⟨place, n, hn, ⟨hinvalid, rfl⟩ | ⟨⟨earlier, hlt, htoo⟩, rfl⟩⟩ :=
        NameList.mem_faults_iff.1 hf
      · exact .invalid hl hn hinvalid
      · exact .repeated hl hn hlt htoo
  · have hlisted : ∀ {list : Nat} {l : NameList}, d.nameLists[list]? = some l →
        f ∈ l.faults list → f ∈ d.faults := fun hl hf =>
      List.mem_append_right _
        (List.mem_flatMap.2 ⟨(_, _), List.mem_zipIdx_iff_getElem?.2 hl, hf⟩)
    have hown : f ∈ d.bodyFaults → f ∈ d.faults := fun hf =>
      List.mem_append_left _ (List.mem_append_right _ hf)
    intro h
    cases h with
    | misnamed hname => simp [faults, ownFaults, hname]
    | target hnone => exact hown (by simpa [bodyFaults, Option.all_eq_true] using hnone)
    | noValues hformat hempty => exact hown (by simp [bodyFaults, hformat, hempty])
    | notPlain hformat hmore => exact hown (by simp [bodyFaults, hformat, hmore])
    | valued hformat hvalues => exact hown (by simp [bodyFaults, hformat, hvalues])
    | invalid hl hn hinvalid =>
      exact hlisted hl (NameList.mem_faults_iff.2 ⟨_, _, hn, .inl ⟨hinvalid, rfl⟩⟩)
    | repeated hl hn hlt htoo =>
      exact hlisted hl (NameList.mem_faults_iff.2 ⟨_, _, hn, .inr ⟨⟨_, hlt, htoo⟩, rfl⟩⟩)

theorem nodup_ownFaults (d : Declaration) : d.ownFaults.Nodup := by
  have hbody : d.bodyFaults.Nodup ∧ ∀ owner, .misnamed owner ∉ d.bodyFaults := by
    cases d with
    | «alias» a => simp only [bodyFaults]; split <;> simp
    | complex c =>
      simp only [bodyFaults]
      split
      · split <;> split <;> simp
      · split <;> simp
    | remote r => simp [bodyFaults]
  rw [ownFaults]
  split
  · exact hbody.1
  · exact List.nodup_cons.2 ⟨hbody.2 d.name, hbody.1⟩

/-- No fault is listed twice. -/
theorem nodup_faults (d : Declaration) : d.faults.Nodup := by
  refine List.nodup_append.2 ⟨d.nodup_ownFaults, nodup_flatMap_zipIdx Fault.list?
    (fun x => x.1.nodup_faults x.2) fun x f hf => NameList.list?_of_mem_faults hf, ?_⟩
  rintro f hf _ hg rfl
  obtain ⟨x, -, hx⟩ := List.mem_flatMap.1 hg
  have hlist := (has_of_mem_ownFaults hf).2.symm.trans (NameList.list?_of_mem_faults hx)
  cases hlist

theorem faults_eq_nil_iff : d.faults = [] ↔
    d.ownFaults = [] ∧ ∀ l ∈ d.nameLists, DistinctIdentifiers l.names := by
  rw [faults, List.append_eq_nil_iff, List.flatMap_eq_nil_iff]
  refine and_congr_right' ?_
  simp only [NameList.faults_eq_nil_iff, Prod.forall, List.mem_zipIdx_iff_getElem?]
  simp only [List.mem_iff_getElem?]
  exact ⟨fun h l ⟨i, hi⟩ => h l i hi, fun h l i hi => h l ⟨i, hi⟩⟩

/-- **A declaration has no fault exactly if it is well formed.** -/
theorem faults_eq_nil_iff_wellFormed : d.faults = [] ↔ d.WellFormed := by
  have hown : d.ownFaults = [] ↔ isIdentifier d.name = true ∧ d.bodyFaults = [] := by
    simp [ownFaults]
  rw [faults_eq_nil_iff, hown]
  constructor
  · rintro ⟨⟨hname, hbody⟩, hlists⟩
    cases d with
    | «alias» a =>
      cases hp : Primitive.ofName? (Text.trimmed a.type) with
      | none => simp [bodyFaults, hp] at hbody
      | some p => exact .alias hname hp fun hvoid => by simp [bodyFaults, hp, hvoid] at hbody
    | complex c =>
      cases hformat : c.format with
      | enum =>
        simp only [bodyFaults, hformat, List.append_eq_nil_iff, ite_eq_right_iff, List.cons_ne_nil,
          imp_false, not_or, not_not] at hbody
        simp only [nameLists, hformat, List.forall_mem_singleton] at hlists
        exact .enum hformat hname hbody.1 hlists hbody.2.1 hbody.2.2
      | register =>
        simp only [bodyFaults, hformat, ite_eq_right_iff, List.cons_ne_nil, imp_false,
          not_not] at hbody
        simp only [nameLists, hformat, List.forall_mem_singleton] at hlists
        exact .register hformat hname hbody hlists
    | remote r =>
      simp only [nameLists, List.forall_mem_append, List.forall_mem_map, List.forall_mem_singleton,
        Option.mem_toList, Option.map_eq_some_iff] at hlists
      obtain ⟨⟨⟨⟨hconstructor, hmethods⟩, hparams⟩, hevents⟩, hproperties⟩ := hlists
      exact .remote hname (fun c hc => hconstructor _ ⟨c, hc, rfl⟩) hmethods hparams hevents
        hproperties
  · intro h
    cases h with
    | «alias» name target value =>
      exact ⟨⟨name, by simp [bodyFaults, target, value]⟩, by simp [nameLists]⟩
    | enum format name inhabited values noProperties noParent =>
      exact ⟨⟨name, by simp [bodyFaults, format, inhabited, noProperties, noParent]⟩,
        by simpa [nameLists, format] using values⟩
    | register format name noValues properties =>
      exact ⟨⟨name, by simp [bodyFaults, format, noValues]⟩,
        by simpa [nameLists, format] using properties⟩
    | remote name constructor methods params events properties =>
      refine ⟨⟨name, rfl⟩, ?_⟩
      simp only [nameLists, List.forall_mem_append, List.forall_mem_map, List.forall_mem_singleton,
        Option.mem_toList, Option.map_eq_some_iff]
      refine ⟨⟨⟨⟨?_, methods⟩, params⟩, events⟩, properties⟩
      rintro _ ⟨c, hc, rfl⟩
      exact constructor c hc

theorem problems_eq_nil_iff : d.problems = [] ↔ d.WellFormed := by
  rw [problems_eq, List.map_eq_nil_iff, faults_eq_nil_iff_wellFormed]

/-- **A declaration is reported for each of its faults, once.** Its problems are the wordings of
the faults it has, without a repetition among these, and so there are none exactly if it is well
formed. -/
theorem problems_tell (d : Declaration) : (d.problems = [] ↔ d.WellFormed) ∧
    ∃ faults : List Fault, faults.Nodup ∧ (∀ f, f ∈ faults ↔ d.Has f) ∧
      d.problems = faults.map Fault.message :=
  ⟨problems_eq_nil_iff, d.faults, d.nodup_faults, fun _ => mem_faults_iff, d.problems_eq⟩

/-- An occurrence that is no identifier and comes again is told twice. -/
example : (complex ⟨"E", none, .enum, none, [], ["1st", "1st"]⟩).problems =
    ["enum 'E' value '1st' is not a valid identifier",
      "enum 'E' value '1st' is not a valid identifier",
      "enum 'E' value '1st' is declared more than once"] := by decide

end Declaration

end InterfaceGen
