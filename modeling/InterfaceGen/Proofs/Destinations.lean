import InterfaceGen.Generation.Rendering
import InterfaceGen.Proofs.Files.Components
import Mathlib.Data.List.TakeWhile

/-!
# Proofs/Destinations — a destination is accepted exactly if it leads below the output root

A path descends if names are all it is made of. A destination leads to the path that its components
spell without the dots, if that one descends, and then it is accepted; no other destination is. The
destination of a rendered text is its first line without the white space around it, and what follows
the line break is left as it is. Main statements: `destinationPath_eq_ok_iff`, `Job.ofText_eq`.
-/

namespace InterfaceGen

/-! ## Paths that descend -/

namespace Path

/-- A path leads down: names are all it is made of, and there is one. -/
structure Descends (path : String) : Prop where
  ne_nil : components path ≠ []
  names : ∀ c ∈ components path, ∃ name, c = .normal name

/-- A destination leads to a path: to the one that its components spell without the dots, if that
one leads down. -/
structure Resolves (destination path : String) : Prop where
  descends : Descends path
  components_eq : components path = (components destination).filter (· ≠ .current)
  spelling : ofComponents (components path) = path

variable {destination other path : String} {cs names : List Component}

theorem Canonical.follows {name : String} (h : Canonical cs) (hmem : .normal name ∈ cs) :
    (Component.normal name).Follows := by
  cases cs with
  | nil => exact absurd hmem List.not_mem_nil
  | cons c cs =>
    rcases List.mem_cons.1 hmem with rfl | hmem
    · exact h.1.resolve_right (by simp)
    · exact h.2 _ hmem

/-- A path that leads down starts with a name. -/
theorem Descends.lead_eq_nil (h : Descends path) : lead path = [] := by
  refine List.eq_nil_iff_forall_not_mem.2 fun c hc => ?_
  have hmem : c ∈ components path := by
    rw [Path.components_eq]
    exact List.mem_append_left _ hc
  obtain ⟨name, rfl⟩ := h.names c hmem
  rw [lead] at hc
  split at hc
  · simp at hc
  · split at hc
    · simp at hc
    · simp at hc

theorem not_resolves_empty : ¬ Resolves "" path := by
  intro h
  have hne := h.descends.ne_nil
  rw [h.components_eq] at hne
  exact hne (by decide)

/-- A destination leads to one path at most. -/
theorem Resolves.unique (h : Resolves destination path) (hother : Resolves destination other) :
    path = other := by
  rw [← h.spelling, h.components_eq, ← hother.components_eq, hother.spelling]

/-- Paths that destinations lead to are the same only if they are spelled the same. -/
theorem Resolves.same_iff {elsewhere : String} (h : Resolves destination path)
    (hother : Resolves elsewhere other) : same path other = true ↔ path = other := by
  rw [same, decide_eq_true_eq]
  constructor
  · intro heq
    rw [← h.spelling, heq, hother.spelling]
  · exact congrArg components

end Path

/-! ## Destinations -/

section Destinations

variable {destination path : String} {cs names : List Component}

theorem filter_of_destinationNames (h : destinationNames destination cs = .ok names) :
    cs.filter (· ≠ .current) = names := by
  induction cs generalizing names with
  | nil => exact Except.ok.inj h
  | cons c cs ih =>
    cases c with
    | root => exact absurd h (by simp [destinationNames])
    | parent => exact absurd h (by simp [destinationNames])
    | current => exact ih h
    | normal name =>
      rw [destinationNames] at h
      cases hrest : destinationNames destination cs with
      | error fault => exact absurd h (by simp [hrest, Except.map])
      | ok others =>
        rw [hrest] at h
        obtain rfl := Except.ok.inj h
        rw [List.filter_cons_of_pos (by simp), ih hrest]

theorem destinationNames_of_filter
    (h : ∀ c ∈ cs.filter (· ≠ .current), ∃ name, c = .normal name) (destination : String) :
    destinationNames destination cs = .ok (cs.filter (· ≠ .current)) := by
  induction cs with
  | nil => rfl
  | cons c cs ih =>
    by_cases hc : c = .current
    · subst hc
      rw [List.filter_cons_of_neg (by simp)] at h ⊢
      exact ih h
    · rw [List.filter_cons_of_pos (by simpa using hc)] at h ⊢
      obtain ⟨⟨name, rfl⟩, hrest⟩ := List.forall_mem_cons.1 h
      rw [destinationNames, ih hrest]
      rfl

theorem destinationPath_of_names (hnames : destinationNames destination
    (Path.components destination) = .ok names) (hne : names ≠ []) :
    destinationPath destination = .ok (Path.ofComponents names) := by
  simp [destinationPath, hnames, bind, Except.bind, pure, Except.pure, hne]

/-- **A destination is accepted exactly if it leads to a path that leads down**, and it is taken as
that path. -/
theorem destinationPath_eq_ok_iff :
    destinationPath destination = .ok path ↔ Path.Resolves destination path := by
  constructor
  · intro h
    cases hnames : destinationNames destination (Path.components destination) with
    | error fault => exact absurd h (by simp [destinationPath, hnames, bind, Except.bind])
    | ok names =>
      have hne : names ≠ [] := by
        rintro rfl
        exact absurd h (by
          simp [destinationPath, hnames, bind, Except.bind, throw, throwThe, MonadExceptOf.throw])
      have hnormal := destinationNames_normal hnames
      have hfilter := filter_of_destinationNames hnames
      rw [destinationPath_of_names hnames hne] at h
      obtain rfl := Except.ok.inj h
      have hcomponents : Path.components (Path.ofComponents names) = names := by
        refine Path.components_ofComponents (Path.canonical_of_follows fun c hc => ?_)
        obtain ⟨name, rfl⟩ := hnormal c hc
        rw [← hfilter] at hc
        exact (Path.canonical_components destination).follows (List.mem_filter.1 hc).1
      exact ⟨⟨by rwa [hcomponents], by rwa [hcomponents]⟩, by rw [hcomponents, hfilter],
        by rw [hcomponents]⟩
  · intro h
    have hfilter := h.components_eq
    have hnormal := h.descends.names
    have hne := h.descends.ne_nil
    rw [hfilter] at hnormal hne
    rw [destinationPath_of_names (destinationNames_of_filter hnormal destination) hne, ← hfilter,
      h.spelling]

/-- A destination that is refused leads to no path. -/
theorem not_resolves_of_destinationPath {fault : DestinationFault}
    (h : destinationPath destination = .error fault) : ¬ Path.Resolves destination path := by
  rw [← destinationPath_eq_ok_iff, h]
  exact nofun

end Destinations

/-! ## First lines -/

namespace Text

/-- The first line of a text, and what comes after its line break. -/
def FirstLine (text first rest : String) : Prop :=
  '\n' ∉ first.toList ∧ (text = first ++ "\n" ++ rest ∨ text = first ∧ rest = "")

theorem firstLine_of_not_mem {cs : List Char} (h : '\n' ∉ cs) : firstLine cs = (cs, none) := by
  have hdrop : cs.dropWhile (· ≠ '\n') = [] :=
    List.dropWhile_eq_nil_iff.2 fun c hc => decide_eq_true fun heq => h (heq ▸ hc)
  rw [firstLine, hdrop]

theorem firstLine_append {cs : List Char} (h : '\n' ∉ cs) (rest : List Char) :
    firstLine (cs ++ '\n' :: rest) = (cs, some rest) := by
  have hall : ∀ c ∈ cs, decide (c ≠ '\n') = true :=
    fun c hc => decide_eq_true fun heq => h (heq ▸ hc)
  have hdrop : (cs ++ '\n' :: rest).dropWhile (· ≠ '\n') = '\n' :: rest := by
    rw [List.dropWhile_append_of_pos hall, List.dropWhile_cons_of_neg (by simp)]
  have htake : (cs ++ '\n' :: rest).takeWhile (· ≠ '\n') = cs := by
    rw [List.takeWhile_append_of_pos hall, List.takeWhile_cons_of_neg (by simp), List.append_nil]
  rw [firstLine, hdrop, htake]

theorem firstLine_eq {text first rest : String} (h : FirstLine text first rest) :
    String.ofList (firstLine text.toList).1 = first ∧
      String.ofList ((firstLine text.toList).2.getD []) = rest := by
  obtain ⟨hfirst, rfl | ⟨rfl, rfl⟩⟩ := h
  · have hlist : (first ++ "\n" ++ rest).toList = first.toList ++ '\n' :: rest.toList := by simp
    rw [hlist, firstLine_append hfirst]
    exact ⟨String.ofList_toList, String.ofList_toList⟩
  · rw [firstLine_of_not_mem hfirst]
    exact ⟨String.ofList_toList, String.ofList_nil⟩

/-- Every text has a first line. -/
theorem exists_firstLine (text : String) : ∃ first rest, FirstLine text first rest := by
  by_cases h : '\n' ∈ text.toList
  · obtain ⟨front, back, hlist, hfront⟩ := List.eq_append_cons_of_mem h
    refine ⟨String.ofList front, String.ofList back, by rwa [String.toList_ofList], .inl ?_⟩
    exact String.toList_inj.1 (by simp [hlist])
  · exact ⟨text, "", h, .inr ⟨rfl, rfl⟩⟩

/-- **Nothing is left of a text by trimming exactly if it is blank.** -/
theorem trimmed_eq_empty_iff {s : String} : trimmed s = "" ↔ isBlankText s = true := by
  rw [trimmed, String.ofList_eq_empty_iff, trim, trimEnd, List.reverse_eq_nil_iff,
    List.dropWhile_eq_nil_iff, isBlankText, List.all_eq_true]
  simp only [List.mem_reverse, trimStart]
  constructor
  · intro hend c hc
    rw [← List.takeWhile_append_dropWhile (p := isBlank) (l := s.toList)] at hc
    rcases List.mem_append.1 hc with hc | hc
    · exact List.mem_takeWhile_imp hc
    · exact hend c hc
  · exact fun h c hc => h c ((List.dropWhile_sublist _).mem hc)

end Text

/-! ## Rendered texts -/

/-- **A text stands for no file if its first line is blank**, and otherwise for what is below the
first line, at the path that the line leads to. -/
theorem Job.ofText_eq {j : Job} {text first rest : String} (h : Text.FirstLine text first rest) :
    j.ofText text =
      if Text.isBlankText first then .nothing j.template j.entity.words
      else
        match destinationPath (Text.trimmed first) with
        | .error fault => .failed (.render j.template j.entity.words fault.message)
        | .ok path => .produced ⟨path, rest, j.template, j.entity.words⟩ := by
  obtain ⟨hfirst, hrest⟩ := Text.firstLine_eq h
  rw [ofText]
  cases hcut : Text.firstLine text.toList with
  | mk front back =>
    rw [hcut] at hfirst hrest
    obtain rfl := hfirst
    obtain rfl := hrest
    have htrim : Text.trimmed (String.ofList front) = String.ofList (Text.trim front) := by
      rw [Text.trimmed, String.toList_ofList]
    by_cases hblank : String.ofList (Text.trim front) = ""
    · rw [if_pos (Text.trimmed_eq_empty_iff.1 (htrim.trans hblank))]
      exact if_pos hblank
    · rw [if_neg (mt Text.trimmed_eq_empty_iff.2 (by rwa [htrim])), htrim]
      refine (if_neg hblank).trans ?_
      cases destinationPath (String.ofList (Text.trim front)) with
      | error fault => rfl
      | ok path => rfl

/-- The path of a rendered file is an accepted destination. -/
theorem Job.exists_destinationPath_of_ofText {j : Job} {text : String} {f : OutputFile}
    (h : j.ofText text = .produced f) :
    ∃ destination, destinationPath destination = .ok f.path := by
  obtain ⟨first, rest, hline⟩ := Text.exists_firstLine text
  rw [ofText_eq hline] at h
  split at h
  · cases h
  · split at h
    · cases h
    · next path hpath =>
      obtain rfl := JobResult.produced.inj h
      exact ⟨_, hpath⟩

end InterfaceGen
