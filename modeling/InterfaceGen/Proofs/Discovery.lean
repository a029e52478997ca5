import InterfaceGen.Proofs.Arrangement
import InterfaceGen.Proofs.Files.Walking

/-!
# Proofs/Discovery — every path that is found is loaded once, and as local if it can be

The paths found at some locations are a set: no path is in it twice, and neither the order of the
locations nor their repetition shows. Taking the local paths out of the others leaves two sets that
are apart, and each path of both becomes one document or one fault. Other spellings of a path lead
to the same file, so the documents do not depend on which of them is found first. Main statement:
`accounts_ofLocations`.
-/

namespace InterfaceGen

/-! ## Sets of paths -/

namespace Path

variable {path : String} {paths s t : List String} {cs : List Component}

theorem same_iff {a b : String} : same a b = true ↔ components a = components b :=
  decide_eq_true_iff

/-- A set holds a path if it holds its components. -/
theorem exists_same_iff : (∃ p ∈ s, same path p = true) ↔ components path ∈ s.map components := by
  rw [List.mem_map]
  exact exists_congr fun p => and_congr_right' (same_iff.trans eq_comm)

theorem mem_components_insert : cs ∈ (insert path s).map components ↔
    cs = components path ∨ cs ∈ s.map components := by
  induction s with
  | nil => simp [insert]
  | cons p s ih =>
    rw [insert]
    split
    · simp
    · next heq =>
      rw [compare_eq_iff_same, same_iff] at heq
      simp [heq]
    · rw [List.map_cons, List.mem_cons, ih, List.map_cons, List.mem_cons]
      tauto

/-- **A set holds the paths that it is made of**, in one of their spellings. -/
theorem mem_components_ofList : cs ∈ (ofList paths).map components ↔ cs ∈ paths.map components := by
  have hfold : ∀ (paths s : List String),
      cs ∈ (paths.foldl (fun s p => insert p s) s).map components ↔
      cs ∈ paths.map components ∨ cs ∈ s.map components := by
    intro paths
    induction paths with
    | nil => simp
    | cons p paths ih =>
      intro s
      rw [List.foldl_cons, ih, mem_components_insert, List.map_cons, List.mem_cons]
      tauto
  rw [ofList, hfold]
  simp

theorem mem_of_mem_ofList (h : path ∈ ofList paths) : path ∈ paths := by
  have hfold : ∀ (paths s : List String), path ∈ paths.foldl (fun s p => insert p s) s →
      path ∈ paths ∨ path ∈ s := by
    intro paths
    induction paths with
    | nil => exact fun s hs => .inr hs
    | cons p paths ih =>
      intro s hs
      rcases ih _ hs with hpaths | hinsert
      · exact .inl (List.mem_cons_of_mem p hpaths)
      · rcases mem_insert_imp hinsert with rfl | hs
        · exact .inl List.mem_cons_self
        · exact .inr hs
  exact (hfold paths [] h).resolve_right List.not_mem_nil

/-- Paths in a strict order are strictly ordered by their components. -/
theorem pairwise_components (h : s.Pairwise fun p q => compare p q = .lt) :
    (s.map components).Pairwise fun a b => compareComponents a b = .lt :=
  h.map _ fun _ _ hlt => hlt

/-- **Sets of the same paths agree path by path.** -/
theorem forall₂_same (hs : s.Pairwise fun p q => compare p q = .lt)
    (ht : t.Pairwise fun p q => compare p q = .lt)
    (h : ∀ cs, cs ∈ s.map components ↔ cs ∈ t.map components) :
    List.Forall₂ (same · · = true) s t := by
  have hne : ∀ a b : List Component, compareComponents a b = .lt → a ≠ b := fun a b hlt heq => by
    rw [heq, compareComponents_eq_iff.2 rfl] at hlt
    cases hlt
  have hs := pairwise_components hs
  have ht := pairwise_components ht
  have hperm : (s.map components).Perm (t.map components) :=
    (List.perm_ext_iff_of_nodup (hs.imp (hne _ _)) (ht.imp (hne _ _))).2 h
  have heq : s.map components = t.map components := by
    refine hperm.eq_of_pairwise (fun a b _ _ hab hba => ?_) hs ht
    have hswap : compareComponents a b = (compareComponents b a).swap := Std.OrientedCmp.eq_swap
    rw [hswap, hba] at hab
    cases hab
  rw [← List.forall₂_eq_eq_eq, List.forall₂_map_left_iff, List.forall₂_map_right_iff] at heq
  exact heq.imp fun _ _ => same_iff.2

end Path

/-! ## What is found -/

namespace FileSystem

variable {fs : FileSystem} {g : Glob} {location path other : String} {locations : List String}
  {origin : Origin}

/-- A path, in some spelling, is found at one of the locations. -/
def Discovers (fs : FileSystem) (g : Glob) (locations : List String) (path : String) : Prop :=
  ∃ location ∈ locations, ∃ p ∈ (fs.documentsAt g location).1, Path.same path p = true

/-- The paths that are found are those in the set of them. -/
theorem discovers_iff : fs.Discovers g locations path ↔
    Path.components path ∈ (fs.discover g locations).1.map Path.components := by
  rw [discover, Path.mem_components_ofList, ← Path.exists_same_iff]
  simp only [Discovers, List.mem_flatMap, List.mem_map]
  constructor
  · rintro ⟨location, hlocation, p, hp, hsame⟩
    exact ⟨p, ⟨_, ⟨location, hlocation, rfl⟩, hp⟩, hsame⟩
  · rintro ⟨p, ⟨_, ⟨location, hlocation, rfl⟩, hp⟩, hsame⟩
    exact ⟨location, hlocation, p, hp, hsame⟩

/-- **Every path that is found leads somewhere.** -/
theorem exists_locate_of_mem_documentsAt (h : path ∈ (fs.documentsAt g location).1) :
    ∃ l e, fs.locate path = .ok (l, e) := by
  rw [documentsAt] at h
  split at h
  · next hfile =>
    cases List.mem_singleton.1 h
    obtain ⟨l, e, hlocate, -⟩ := leadsTo_iff.1 hfile
    exact ⟨l, e, hlocate⟩
  · split at h
    · obtain ⟨met, hmet, hp⟩ := List.mem_filterMap.1 h
      cases met with
      | error fault => cases hp
      | ok found =>
        simp only [Option.ite_none_right_eq_some, Option.some.injEq] at hp
        obtain ⟨-, rfl⟩ := hp
        obtain ⟨e, hlocate, -⟩ := locate_of_mem_walk hmet
        exact ⟨_, e, hlocate⟩
    · cases h

theorem exists_locate_of_mem_discover (h : path ∈ (fs.discover g locations).1) :
    ∃ l e, fs.locate path = .ok (l, e) := by
  obtain ⟨_, hfound, hpath⟩ := List.mem_flatMap.1 (Path.mem_of_mem_ofList h)
  obtain ⟨location, -, rfl⟩ := List.mem_map.1 hfound
  exact exists_locate_of_mem_documentsAt hpath

/-! ## Attempts -/

/-- What an attempt to load a path comes to: the document in it, or the one thing that is wrong. -/
inductive Loads (fs : FileSystem) (path : String) (origin : Origin) :
    Except Diagnostic Loaded → Prop
  | document {text : String} {d : Document} (read : fs.readText path = .ok text)
      (parsed : Document.parse text = .ok d) : Loads fs path origin (.ok ⟨path, origin, d⟩)
  | unreadable {fault : FileFault} (read : fs.readText path = .error fault) :
      Loads fs path origin (.error (.input path fault.message))
  | malformed {text : String} {fault : Json.Fault} (read : fs.readText path = .ok text)
      (parsed : Document.parse text = .error fault) :
      Loads fs path origin (.error (.parse path fault.message))

theorem loads_loadDocument (fs : FileSystem) (origin : Origin) (path : String) :
    fs.Loads path origin (fs.loadDocument origin path) := by
  rw [loadDocument, readDocument]
  cases hread : fs.readText path with
  | error fault => exact .unreadable hread
  | ok text =>
    dsimp only
    cases hparsed : Document.parse text with
    | error fault => exact .malformed hread hparsed
    | ok d => exact .document hread hparsed

/-- **Spellings of one path hold the same document, or none**, where they lead to something. -/
theorem loadDocument_of_same (h : Path.same path other = true)
    (hpath : ∃ l e, fs.locate path = .ok (l, e)) (hother : ∃ l e, fs.locate other = .ok (l, e)) :
    Option.Rel (fun a b : Loaded => Path.same a.path b.path = true ∧ a.origin = b.origin ∧
        a.document = b.document)
      (fs.loadDocument origin path).toOption (fs.loadDocument origin other).toOption := by
  obtain ⟨l, e, hpath⟩ := hpath
  obtain ⟨m, e', hother⟩ := hother
  obtain ⟨rfl, rfl⟩ := locate_eq_of_same h hpath hother
  have hread : fs.readText path = fs.readText other := by rw [readText, readText, hpath, hother]
  rw [loadDocument, loadDocument, readDocument, readDocument, hread]
  cases fs.readText other with
  | error fault => exact .none
  | ok text =>
    dsimp only
    cases Document.parse text with
    | error fault => exact .none
    | ok d => exact .some ⟨h, rfl, rfl⟩

end FileSystem

/-! ## Loading -/

/-- A loading accounts for the paths that are found at its locations by the attempts it makes, each
with its result. -/
structure Loading.Accounts (l : Loading) (fs : FileSystem) (g : Glob)
    (primary dependencies : List String) (attempts : List (String × Origin))
    (results : List (Except Diagnostic Loaded)) : Prop where
  /-- No path is attempted twice… -/
  once : attempts.Pairwise fun a b => Path.same a.1 b.1 = false
  /-- …and those that are attempted are the ones found. -/
  attempted : ∀ path, (∃ a ∈ attempts, Path.same path a.1 = true) ↔
    fs.Discovers g primary path ∨ fs.Discovers g dependencies path
  /-- Each attempt comes to a document or to one fault. -/
  loads : List.Forall₂ (fun a r => fs.Loads a.1 a.2 r) attempts results
  documents : l.documents = successes results
  /-- Besides the attempts, the locations may be reported, and that there is nothing to generate
  from. -/
  reported : l.reported =
    (primary ++ dependencies).flatMap (fun location => (fs.documentsAt g location).2) ++
      (if attempts.any (·.2.isLocal) then [] else [.noDocuments (listed primary)]) ++
      failures results
  /-- A document is local exactly if its path is found at a primary location. -/
  isLocal : ∀ d ∈ l.documents, d.origin = .local ↔ fs.Discovers g primary d.path
  /-- The local documents come first, and both they and the imported ones in path order. -/
  order : l.documents.Pairwise fun a b => a.origin = .local ∧ b.origin = .imported ∨
    a.origin = b.origin ∧ Path.compare a.path b.path = .lt

namespace Loading

variable {fs : FileSystem} {g : Glob} {primary dependencies : List String}

/-- The paths found at dependencies only. -/
def importedPaths (fs : FileSystem) (g : Glob) (primary dependencies : List String) :
    List String :=
  (fs.discover g dependencies).1.filter fun p => !(fs.discover g primary).1.any (Path.same p)

/-- The paths that are loaded, each as local or as imported. -/
def attempts (fs : FileSystem) (g : Glob) (primary dependencies : List String) :
    List (String × Origin) :=
  (fs.discover g primary).1.map (·, .local) ++
    (importedPaths fs g primary dependencies).map (·, .imported)

theorem documents_eq (fs : FileSystem) (g : Glob) (primary dependencies : List String) :
    (ofLocations fs g primary dependencies).documents =
      successes ((attempts fs g primary dependencies).map fun a => fs.loadDocument a.2 a.1) := by
  rw [attempts, List.map_append, List.map_map, List.map_map]
  rfl

theorem reported_eq (fs : FileSystem) (g : Glob) (primary dependencies : List String) :
    (ofLocations fs g primary dependencies).reported =
      (fs.discover g primary).2 ++ (fs.discover g dependencies).2 ++
        (if (fs.discover g primary).1.isEmpty then [.noDocuments (listed primary)] else []) ++
        failures ((attempts fs g primary dependencies).map fun a => fs.loadDocument a.2 a.1) := by
  rw [attempts, List.map_append, List.map_map, List.map_map]
  rfl

theorem pairwise_discover (fs : FileSystem) (g : Glob) (locations : List String) :
    (fs.discover g locations).1.Pairwise fun p q => Path.compare p q = .lt :=
  Path.pairwise_ofList _

theorem pairwise_importedPaths (fs : FileSystem) (g : Glob) (primary dependencies : List String) :
    (importedPaths fs g primary dependencies).Pairwise fun p q => Path.compare p q = .lt :=
  (pairwise_discover fs g dependencies).filter _

theorem any_same_iff {s : List String} {p : String} :
    s.any (Path.same p) = true ↔ Path.components p ∈ s.map Path.components := by
  rw [List.any_eq_true, Path.exists_same_iff]

/-- **The imported paths are those found at dependencies and not at primary locations.** -/
theorem mem_components_importedPaths {cs : List Component} :
    cs ∈ (importedPaths fs g primary dependencies).map Path.components ↔
      cs ∈ (fs.discover g dependencies).1.map Path.components ∧
        cs ∉ (fs.discover g primary).1.map Path.components := by
  simp only [importedPaths, List.mem_map (f := Path.components), List.mem_filter,
    Bool.not_eq_true', ← Bool.not_eq_true, any_same_iff]
  constructor
  · rintro ⟨p, ⟨hp, hnot⟩, rfl⟩
    exact ⟨⟨p, hp, rfl⟩, hnot⟩
  · rintro ⟨⟨p, hp, rfl⟩, hnot⟩
    exact ⟨p, ⟨hp, hnot⟩, rfl⟩

theorem not_same_of_lt {p q : String} (h : Path.compare p q = .lt) : Path.same p q = false := by
  rw [← Bool.not_eq_true, ← Path.compare_eq_iff_same, h]
  simp

/-- **A path is attempted as local if it is found at a primary location**, and else as imported. -/
theorem mem_attempts_iff {cs : List Component} {origin : Origin} :
    (cs, origin) ∈ (attempts fs g primary dependencies).map (fun a => (Path.components a.1, a.2)) ↔
      (origin = .local ∧ cs ∈ (fs.discover g primary).1.map Path.components) ∨
        origin = .imported ∧ cs ∈ (fs.discover g dependencies).1.map Path.components ∧
          cs ∉ (fs.discover g primary).1.map Path.components := by
  rw [← mem_components_importedPaths]
  simp only [attempts, List.map_append, List.map_map, List.mem_append, List.mem_map,
    Function.comp_apply, Prod.mk.injEq]
  constructor
  · rintro (⟨p, hp, rfl, rfl⟩ | ⟨p, hp, rfl, rfl⟩)
    · exact .inl ⟨rfl, p, hp, rfl⟩
    · exact .inr ⟨rfl, p, hp, rfl⟩
  · rintro (⟨rfl, p, hp, rfl⟩ | ⟨rfl, p, hp, rfl⟩)
    · exact .inl ⟨p, hp, rfl, rfl⟩
    · exact .inr ⟨p, hp, rfl, rfl⟩

/-- **The attempts are in order**: local ones come first, and both in path order. -/
theorem pairwise_attempts (fs : FileSystem) (g : Glob) (primary dependencies : List String) :
    (attempts fs g primary dependencies).Pairwise fun a b =>
      (a.2 = .local ∧ b.2 = .imported ∨ a.2 = b.2 ∧ Path.compare a.1 b.1 = .lt) ∧
        Path.same a.1 b.1 = false := by
  have hpart : ∀ {paths : List String} (origin : Origin),
      paths.Pairwise (fun p q => Path.compare p q = .lt) → (paths.map (·, origin)).Pairwise
        fun a b => (a.2 = .local ∧ b.2 = .imported ∨ a.2 = b.2 ∧ Path.compare a.1 b.1 = .lt) ∧
          Path.same a.1 b.1 = false := fun origin h =>
    h.map _ fun p q hlt => ⟨.inr ⟨rfl, hlt⟩, not_same_of_lt hlt⟩
  refine List.pairwise_append.2 ⟨hpart _ (pairwise_discover fs g primary),
    hpart _ (pairwise_importedPaths fs g primary dependencies), fun a ha b hb => ?_⟩
  obtain ⟨p, hp, rfl⟩ := List.mem_map.1 ha
  obtain ⟨q, hq, rfl⟩ := List.mem_map.1 hb
  refine ⟨.inl ⟨rfl, rfl⟩, ?_⟩
  rw [← Bool.not_eq_true, Path.same_iff]
  intro hsame
  exact (mem_components_importedPaths.1 (List.mem_map_of_mem hq)).2
    (hsame ▸ List.mem_map_of_mem hp)

/-- A path is attempted if its components are. -/
theorem exists_attempt_iff {path : String} :
    (∃ a ∈ attempts fs g primary dependencies, Path.same path a.1 = true) ↔
      ∃ origin, (Path.components path, origin) ∈
        (attempts fs g primary dependencies).map fun a => (Path.components a.1, a.2) := by
  simp only [Path.same_iff, List.mem_map, Prod.mk.injEq]
  constructor
  · rintro ⟨a, ha, hsame⟩
    exact ⟨a.2, a, ha, hsame.symm, rfl⟩
  · rintro ⟨origin, a, ha, hsame, -⟩
    exact ⟨a, ha, hsame.symm⟩

theorem any_isLocal_attempts (fs : FileSystem) (g : Glob) (primary dependencies : List String) :
    (attempts fs g primary dependencies).any (·.2.isLocal) =
      !(fs.discover g primary).1.isEmpty := by
  rw [attempts, List.any_append, List.any_map, List.any_map]
  cases (fs.discover g primary).1 with
  | nil => simp [Function.comp_def, Origin.isLocal]
  | cons p paths => simp [Function.comp_def, Origin.isLocal]

theorem accounts_ofLocations (fs : FileSystem) (g : Glob) (primary dependencies : List String) :
    (ofLocations fs g primary dependencies).Accounts fs g primary dependencies
      (attempts fs g primary dependencies)
      ((attempts fs g primary dependencies).map fun a => fs.loadDocument a.2 a.1) where
  once := (pairwise_attempts fs g primary dependencies).imp And.right
  attempted path := by
    simp only [exists_attempt_iff, mem_attempts_iff, FileSystem.discovers_iff, exists_or,
      exists_and_right, exists_eq, true_and]
    tauto
  loads := by
    rw [List.forall₂_map_right_iff, List.forall₂_same]
    exact fun a _ => fs.loads_loadDocument a.2 a.1
  documents := documents_eq fs g primary dependencies
  reported := by
    rw [reported_eq, any_isLocal_attempts, List.flatMap_append]
    simp only [FileSystem.discover, List.flatMap_map]
    cases (Path.ofList _).isEmpty <;> rfl
  isLocal d hd := by
    rw [documents_eq, mem_successes] at hd
    obtain ⟨a, ha, hload⟩ := List.mem_map.1 hd
    obtain ⟨hpath, horigin⟩ := FileSystem.path_of_loadDocument hload
    have hmem : (Path.components d.path, d.origin) ∈
        (attempts fs g primary dependencies).map fun a => (Path.components a.1, a.2) :=
      List.mem_map.2 ⟨a, ha, by rw [hpath, horigin]⟩
    rw [FileSystem.discovers_iff]
    rcases mem_attempts_iff.1 hmem with ⟨horigin, hlocal⟩ | ⟨horigin, -, hnot⟩
    · exact iff_of_true horigin hlocal
    · exact iff_of_false (by simp [horigin]) hnot
  order := by
    rw [documents_eq]
    refine pairwise_successes ((pairwise_attempts fs g primary dependencies).map _ ?_)
    intro a b hab d e hd he
    obtain ⟨hpath, horigin⟩ := FileSystem.path_of_loadDocument hd
    obtain ⟨hpath', horigin'⟩ := FileSystem.path_of_loadDocument he
    rw [hpath, hpath', horigin, horigin']
    exact hab.1

/-! ## Other lists of the same locations -/

variable {primary' dependencies' locations others : List String}

/-- The same paths are found at the same locations. -/
theorem mem_discover_congr (h : ∀ location, location ∈ locations ↔ location ∈ others)
    (cs : List Component) : cs ∈ (fs.discover g locations).1.map Path.components ↔
      cs ∈ (fs.discover g others).1.map Path.components := by
  rw [FileSystem.discover, FileSystem.discover, Path.mem_components_ofList,
    Path.mem_components_ofList]
  simp only [List.flatMap_map, List.mem_map, List.mem_flatMap, h]

/-- **Paths are attempted alike whenever the locations are the same**, as sets. -/
theorem forall₂_attempts (hprimary : ∀ location, location ∈ primary ↔ location ∈ primary')
    (hdependencies : ∀ location, location ∈ dependencies ↔ location ∈ dependencies') :
    List.Forall₂ (fun a b => Path.same a.1 b.1 = true ∧ a.2 = b.2 ∧
        (∃ l e, fs.locate a.1 = .ok (l, e)) ∧ ∃ l e, fs.locate b.1 = .ok (l, e))
      (attempts fs g primary dependencies) (attempts fs g primary' dependencies') := by
  -- what is said of all paths of two sets may be said along their agreement
  have hpart : ∀ {s t : List String} (origin : Origin),
      s.Pairwise (fun p q => Path.compare p q = .lt) →
      t.Pairwise (fun p q => Path.compare p q = .lt) →
      (∀ cs, cs ∈ s.map Path.components ↔ cs ∈ t.map Path.components) →
      (∀ p ∈ s, ∃ l e, fs.locate p = .ok (l, e)) → (∀ p ∈ t, ∃ l e, fs.locate p = .ok (l, e)) →
      List.Forall₂ (fun a b => Path.same a.1 b.1 = true ∧ a.2 = b.2 ∧
          (∃ l e, fs.locate a.1 = .ok (l, e)) ∧ ∃ l e, fs.locate b.1 = .ok (l, e))
        (s.map (·, origin)) (t.map (·, origin)) := by
    intro s t origin hs ht hmem hlocates hlocatet
    obtain ⟨hlength, hsame⟩ := List.forall₂_iff_zip.1 (Path.forall₂_same hs ht hmem)
    rw [List.forall₂_map_left_iff, List.forall₂_map_right_iff, List.forall₂_iff_zip]
    refine ⟨hlength, fun {p q} hpq => ?_⟩
    obtain ⟨hp, hq⟩ := List.of_mem_zip hpq
    exact ⟨hsame hpq, rfl, hlocates p hp, hlocatet q hq⟩
  have hlocate : ∀ locations, ∀ p ∈ (fs.discover g locations).1, ∃ l e, fs.locate p = .ok (l, e) :=
    fun _ _ => FileSystem.exists_locate_of_mem_discover
  refine List.rel_append (hpart .local (pairwise_discover _ _ _) (pairwise_discover _ _ _)
    (mem_discover_congr hprimary) (hlocate primary) (hlocate primary')) ?_
  refine hpart .imported (pairwise_importedPaths _ _ _ _) (pairwise_importedPaths _ _ _ _)
    (fun cs => ?_) (fun p hp => hlocate dependencies p (List.mem_of_mem_filter hp))
    fun p hp => hlocate dependencies' p (List.mem_of_mem_filter hp)
  rw [mem_components_importedPaths, mem_components_importedPaths,
    mem_discover_congr hdependencies, mem_discover_congr hprimary]

/-- **The documents are the same whenever the locations are**, as sets. -/
theorem documents_congr (hprimary : ∀ location, location ∈ primary ↔ location ∈ primary')
    (hdependencies : ∀ location, location ∈ dependencies ↔ location ∈ dependencies') :
    List.Forall₂ (fun a b : Loaded => Path.same a.path b.path = true ∧ a.origin = b.origin ∧
        a.document = b.document) (ofLocations fs g primary dependencies).documents
      (ofLocations fs g primary' dependencies').documents := by
  have hsuccesses : ∀ results : List (Except Diagnostic Loaded),
      successes results = results.filterMap Except.toOption := fun results =>
    List.filterMap_congr fun r _ => by cases r <;> rfl
  rw [documents_eq, documents_eq, hsuccesses, hsuccesses, List.filterMap_map, List.filterMap_map]
  refine List.rel_filterMap (fun a b hab => ?_) (forall₂_attempts hprimary hdependencies)
  obtain ⟨hsame, horigin, ha, hb⟩ := hab
  rw [Function.comp_apply, Function.comp_apply, horigin]
  exact FileSystem.loadDocument_of_same hsame ha hb

end Loading

/-- **Each path that is found is loaded once, and as local if it can be.** At any locations, in any
file system, the paths that are attempted are those found at a primary location or a dependency,
each of them once; each becomes one document or one fault. A document is local exactly if its path
is found at a primary location; local ones come before imported ones, and both in path order. With
the same locations in another order, or repeated, the documents are the same. -/
theorem loading_of_locations (fs : FileSystem) (g : Glob) (primary dependencies : List String) :
    (∃ attempts results, (Loading.ofLocations fs g primary dependencies).Accounts fs g primary
        dependencies attempts results) ∧
      ∀ primary' dependencies', (∀ location, location ∈ primary ↔ location ∈ primary') →
        (∀ location, location ∈ dependencies ↔ location ∈ dependencies') →
        List.Forall₂ (fun a b : Loaded => Path.same a.path b.path = true ∧ a.origin = b.origin ∧
            a.document = b.document) (Loading.ofLocations fs g primary dependencies).documents
          (Loading.ofLocations fs g primary' dependencies').documents :=
  ⟨⟨_, _, Loading.accounts_ofLocations fs g primary dependencies⟩,
    fun _ _ => Loading.documents_congr⟩

/-- A directory with one document in it. -/
def coreFileSystem : FileSystem :=
  ⟨[(["work"], .directory false), (["work", "idl"], .directory false),
    (["work", "idl", "core.kmd.json"],
      .file (.text "\x7b\"name\":\"core\",\"version\":\"1\"\x7d"))], ["work"]⟩

/-- The document is found three times, as a file and below its directory, and loaded once; naming
the two locations the other way round, and one of them twice, changes nothing. -/
theorem loading_of_locations_core :
    (∀ location, location ∈ ["idl", "idl/core.kmd.json"] ↔
      location ∈ ["idl/core.kmd.json", "idl", "idl/core.kmd.json"]) ∧
    (∃ attempts results, (Loading.ofLocations coreFileSystem ⟨"*", [.anyRun]⟩
      ["idl", "idl/core.kmd.json"] ["idl"]).Accounts coreFileSystem ⟨"*", [.anyRun]⟩
        ["idl", "idl/core.kmd.json"] ["idl"] attempts results) ∧
    List.Forall₂ (fun a b : Loaded => Path.same a.path b.path = true ∧ a.origin = b.origin ∧
        a.document = b.document)
      (Loading.ofLocations coreFileSystem ⟨"*", [.anyRun]⟩ ["idl", "idl/core.kmd.json"]
        ["idl"]).documents
      (Loading.ofLocations coreFileSystem ⟨"*", [.anyRun]⟩
        ["idl/core.kmd.json", "idl", "idl/core.kmd.json"] ["idl"]).documents := by
  have hsame : ∀ location, location ∈ ["idl", "idl/core.kmd.json"] ↔
      location ∈ ["idl/core.kmd.json", "idl", "idl/core.kmd.json"] := fun location => by
    simp only [List.mem_cons, List.not_mem_nil, or_false]
    tauto
  obtain ⟨haccounts, hcongr⟩ := loading_of_locations coreFileSystem ⟨"*", [.anyRun]⟩
    ["idl", "idl/core.kmd.json"] ["idl"]
  exact ⟨hsame, haccounts, hcongr _ _ hsame fun _ => Iff.rfl⟩

end InterfaceGen
