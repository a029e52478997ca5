import InterfaceGen.Proofs.Discovery
import InterfaceGen.Proofs.Files.Removal

/-!
# Proofs/Malformed — a document that cannot be loaded is reported, and nothing else changes

A build with such a file is compared with the build of the same file system without it. The walks
are the same, the file aside, so the sets of paths are the same but for the paths that lead to it;
each of these is one more attempt, and each comes to one fault. All other attempts come to what they
did, and so what is merged is the same. A symbolic link to the file is the one thing that tells:
without the file it leads nowhere, which is reported. Main statement: `addsFaults_of_broken`.
-/

namespace InterfaceGen

/-! ## Sets of some paths -/

namespace Path

variable {p : String} {s paths : List String} {keep : String → Bool}

theorem insert_eq_cons (h : ∀ q ∈ s, compare p q = .lt) : insert p s = p :: s := by
  cases s with
  | nil => rfl
  | cons q s => rw [insert, h q List.mem_cons_self]

/-- Adding a path to a part of a set, if spellings of it stay or go together. -/
theorem filter_insert (hs : s.Pairwise fun p q => compare p q = .lt)
    (hkeep : ∀ q ∈ s, same p q = true → keep q = keep p) :
    (insert p s).filter keep = if keep p then insert p (s.filter keep) else s.filter keep := by
  induction s with
  | nil => simp [insert, List.filter_cons]
  | cons q s ih =>
    obtain ⟨hq, hs⟩ := List.pairwise_cons.1 hs
    rw [List.forall_mem_cons] at hkeep
    rw [insert]
    cases hcompare : compare p q with
    | lt =>
      -- what is left of the set is behind the path
      have hlt : ∀ r ∈ (q :: s).filter keep, compare p r = .lt := fun r hr =>
        (List.mem_cons.1 (List.mem_of_mem_filter hr)).elim (fun heq => heq ▸ hcompare) fun hr =>
          Std.TransCmp.lt_trans hcompare (hq r hr)
      rw [insert_eq_cons hlt]
      exact List.filter_cons
    | eq =>
      have hsame := hkeep.1 (compare_eq_iff_same.1 hcompare)
      rw [List.filter_cons, hsame]
      split
      · rw [insert, hcompare]
      · rfl
    | gt =>
      dsimp only
      rw [List.filter_cons, List.filter_cons, ih hs hkeep.2]
      cases keep q with
      | false => rfl
      | true => cases keep p with
        | false => rfl
        | true => simp [insert, hcompare]

/-- **A part of the paths makes a part of the set**, if spellings of a path stay or go together. -/
theorem ofList_filter (hkeep : ∀ p ∈ paths, ∀ q ∈ paths, same p q = true → keep q = keep p) :
    ofList (paths.filter keep) = (ofList paths).filter keep := by
  induction paths using List.reverseRecOn with
  | nil => rfl
  | append_singleton paths p ih =>
    have hconcat : ∀ paths : List String, ofList (paths ++ [p]) = insert p (ofList paths) :=
      fun paths => List.foldl_append
    have hold : ∀ q ∈ paths, q ∈ paths ++ [p] := fun q => List.mem_append_left _
    rw [hconcat, filter_insert (pairwise_ofList paths) fun q hq => hkeep p List.mem_concat_self q
      (hold q (mem_of_mem_ofList hq)), ← ih fun q hq r hr => hkeep q (hold q hq) r (hold r hr),
      List.filter_append]
    cases hp : keep p with
    | false => simp [hp]
    | true => simp [hp, hconcat]

end Path

/-! ## Results of a part of some attempts -/

section Results

variable {α β : Type} {load load' : α → Except Diagnostic β} {drop : α → Bool} {as : List α}

/-- Attempts that all fail come to one fault each. -/
theorem forall₂_failures {p : α → Diagnostic → Prop}
    (h : ∀ a ∈ as, ∃ d, p a d ∧ load a = .error d) :
    List.Forall₂ p as (failures (as.map load)) := by
  induction as with
  | nil => exact .nil
  | cons a as ih =>
    rw [List.forall_mem_cons] at h
    obtain ⟨d, hd, hload⟩ := h.1
    rw [List.map_cons, hload]
    exact .cons hd (ih h.2)

/-- The others yield all values if those that are dropped fail. -/
theorem successes_filter (hkeep : ∀ a ∈ as, drop a = false → load' a = load a)
    (hfail : ∀ a ∈ as, drop a = true → ∃ d, load a = .error d) :
    successes ((as.filter (!drop ·)).map load') = successes (as.map load) := by
  rw [successes, successes, List.filterMap_map, List.filterMap_map, List.filterMap_filter]
  refine List.filterMap_congr fun a ha => ?_
  cases hdrop : drop a with
  | false => simp [hkeep a ha hdrop]
  | true =>
    obtain ⟨d, hd⟩ := hfail a ha hdrop
    simp [hd]

/-- The faults are those of the others, in their order, and of those that are dropped. -/
theorem failures_filter (hkeep : ∀ a ∈ as, drop a = false → load' a = load a) :
    (failures ((as.filter (!drop ·)).map load')).Sublist (failures (as.map load)) ∧
      (failures (as.map load)).Perm (failures ((as.filter (!drop ·)).map load') ++
        failures ((as.filter drop).map load)) := by
  have heq : (as.filter (!drop ·)).map load' = (as.filter (!drop ·)).map load :=
    List.map_congr_left fun a ha => hkeep a (List.mem_of_mem_filter ha) <| by
      simpa using List.of_mem_filter ha
  rw [heq]
  refine ⟨(List.filter_sublist.map load).filterMap _, ?_⟩
  rw [failures, failures, failures, ← List.filterMap_append, ← List.map_append]
  have hparts := (List.filter_append_perm drop as).symm.trans List.perm_append_comm
  exact (hparts.map load).filterMap _

end Results

/-! ## Paths to a file -/

/-- Whether no document can be read from what a file holds. -/
def Content.Broken (c : Content) : Prop :=
  ∀ text d, c = .text text → Document.parse text ≠ .ok d

/-- One thing is wrong with the document at a path: it cannot be read, or there is none in it. -/
def Diagnostic.IsFaultIn (d : Diagnostic) (path : String) : Prop :=
  ∃ message, d = .input path message ∨ d = .parse path message

namespace FileSystem

variable {fs : FileSystem} {f : Location} {c : Content} {g : Glob} {path other location : String}
  {primary dependencies locations : List String} {origin : Origin}

/-- Whether a path leads to a location. -/
def reaches (fs : FileSystem) (f : Location) (path : String) : Bool :=
  match fs.locate path with
  | .ok (l, _) => l = f
  | .error _ => false

theorem reaches_of_locate {l : Location} {e : Entry} (h : fs.locate path = .ok (l, e)) :
    fs.reaches f path = decide (l = f) := by
  rw [reaches, h]

theorem reaches_iff : fs.reaches f path = true ↔ ∃ e, fs.locate path = .ok (f, e) := by
  rw [reaches]
  split
  · next l e hlocate => simp [hlocate]
  · next fault hlocate => simp [hlocate]

/-- Spellings of a path that lead somewhere lead to a file together. -/
theorem reaches_of_same (h : Path.same path other = true)
    (hpath : ∃ l e, fs.locate path = .ok (l, e)) (hother : ∃ l e, fs.locate other = .ok (l, e)) :
    fs.reaches f other = fs.reaches f path := by
  obtain ⟨l, e, hpath⟩ := hpath
  obtain ⟨m, e', hother⟩ := hother
  obtain ⟨rfl, rfl⟩ := locate_eq_of_same h hpath hother
  rw [reaches_of_locate hpath, reaches_of_locate hother]

/-! ## What is found without the file -/

/-- A path that does not lead to the file leads to the same kind of thing without it. -/
theorem WellFormed.leadsTo_removed (h : fs.WellFormed) (hf : fs.at? f = some (.file c))
    (hpath : fs.reaches f path = false) (p : Entry → Bool) :
    (fs.removeTree f).leadsTo p path = fs.leadsTo p path := by
  cases hlocate : fs.locate path with
  | ok target =>
    obtain ⟨l, e⟩ := target
    rw [reaches_of_locate hlocate] at hpath
    have hgone := (h.locate_removed_iff hf).2 ⟨hlocate, of_decide_eq_false hpath⟩
    rw [leadsTo, leadsTo, hlocate, hgone]
  | error fault =>
    cases hgone : (fs.removeTree f).locate path with
    | ok target =>
      rw [((h.locate_removed_iff hf).1 hgone).1] at hlocate
      cases hlocate
    | error fault' => rw [leadsTo, leadsTo, hlocate, hgone]

/-- **Below a directory, all other documents are found**, and the same could not be entered. -/
theorem WellFormed.documentsBelow_removed (h : fs.WellFormed) (hf : fs.at? f = some (.file c))
    (hlinks : fs.LinksSpare f location) (hlocation : fs.isDirectory location = true) :
    (fs.removeTree f).documentsBelow g location =
      ((fs.documentsBelow g location).1.filter (!fs.reaches f ·),
        (fs.documentsBelow g location).2) := by
  obtain ⟨l, readonly, hlocate⟩ := isDirectory_iff.1 hlocation
  simp only [documentsBelow, h.walk_removed hf hlinks hlocate, List.filterMap_filter,
    List.filter_filterMap, Prod.mk.injEq]
  refine ⟨List.filterMap_congr fun met hmet => ?_, List.filterMap_congr fun met _ => ?_⟩
  · cases met with
    | error fault => rfl
    | ok found =>
      obtain ⟨e, hfound, -⟩ := locate_of_mem_walk hmet
      by_cases hname : matchesName g found.path = true
      · simp [hname, elsewhere, reaches_of_locate hfound, Option.filter]
      · simp [hname]
  · cases met with
    | error fault => rfl
    | ok found => simp

/-- **At a location, all other documents are found**, and the same is wrong with it. -/
theorem WellFormed.documentsAt_removed (h : fs.WellFormed) (hf : fs.at? f = some (.file c))
    (hwalked : fs.reaches f location = false) (hlinks : fs.LinksSpare f location) :
    (fs.removeTree f).documentsAt g location =
      ((fs.documentsAt g location).1.filter (!fs.reaches f ·), (fs.documentsAt g location).2) := by
  have hfile : (fs.removeTree f).isFile location = fs.isFile location :=
    h.leadsTo_removed hf hwalked Entry.isFile
  have hdirectory : (fs.removeTree f).isDirectory location = fs.isDirectory location :=
    h.leadsTo_removed hf hwalked Entry.isDirectory
  rw [documentsAt, documentsAt, hfile, hdirectory]
  split
  · simp [hwalked]
  · split
    · next hlocation => exact h.documentsBelow_removed hf hlinks hlocation
    · rfl

/-- **All other documents are found at some locations**, and the same is wrong with them. -/
theorem WellFormed.discover_removed (h : fs.WellFormed) (hf : fs.at? f = some (.file c))
    (hwalked : ∀ location ∈ locations, fs.reaches f location = false)
    (hlinks : ∀ location ∈ locations, fs.LinksSpare f location) :
    (fs.removeTree f).discover g locations =
      ((fs.discover g locations).1.filter (!fs.reaches f ·), (fs.discover g locations).2) := by
  have hat : locations.map ((fs.removeTree f).documentsAt g) = locations.map fun location =>
      ((fs.documentsAt g location).1.filter (!fs.reaches f ·), (fs.documentsAt g location).2) :=
    List.map_congr_left fun location hlocation =>
      h.documentsAt_removed hf (hwalked location hlocation) (hlinks location hlocation)
  have hfound : ∀ p ∈ (locations.map (fs.documentsAt g)).flatMap (·.1),
      ∃ l e, fs.locate p = .ok (l, e) := fun p hp => by
    obtain ⟨_, hfound, hp⟩ := List.mem_flatMap.1 hp
    obtain ⟨location, -, rfl⟩ := List.mem_map.1 hfound
    exact exists_locate_of_mem_documentsAt hp
  have htogether : ∀ p ∈ (locations.map (fs.documentsAt g)).flatMap (·.1),
      ∀ q ∈ (locations.map (fs.documentsAt g)).flatMap (·.1), Path.same p q = true →
        (!fs.reaches f q) = !fs.reaches f p := fun p hp q hq hsame =>
    congrArg not (reaches_of_same hsame (hfound p hp) (hfound q hq))
  rw [discover, discover, hat, ← Path.ofList_filter htogether]
  simp only [List.flatMap_map, List.filter_flatMap]

/-! ## What is loaded without the file -/

/-- **Another path comes to the same**, a document or a fault. -/
theorem WellFormed.loadDocument_removed (h : fs.WellFormed) (hf : fs.at? f = some (.file c))
    (hpath : fs.reaches f path = false) (hlocate : ∃ l e, fs.locate path = .ok (l, e)) :
    (fs.removeTree f).loadDocument origin path = fs.loadDocument origin path := by
  obtain ⟨l, e, hlocate⟩ := hlocate
  rw [reaches_of_locate hlocate] at hpath
  have hgone := (h.locate_removed_iff hf).2 ⟨hlocate, of_decide_eq_false hpath⟩
  have hread : (fs.removeTree f).readText path = fs.readText path := by
    rw [readText, readText, hlocate, hgone]
  rw [loadDocument, loadDocument, readDocument, readDocument, hread]

theorem content_of_readText {text : String} (hpath : fs.locate path = .ok (f, .file c))
    (hread : fs.readText path = .ok text) : c = .text text := by
  rw [readText, hpath] at hread
  cases c with
  | text _ => rw [Except.ok.inj hread]
  | bytes _ => cases hread

/-- **A path to the file comes to a fault** if no document can be read from it. -/
theorem exists_fault_of_reaches (hf : fs.at? f = some (.file c)) (hbroken : c.Broken)
    (hpath : fs.reaches f path = true) :
    ∃ d, d.IsFaultIn path ∧ fs.loadDocument origin path = .error d := by
  obtain ⟨e, hlocate⟩ := reaches_iff.1 hpath
  obtain rfl := Option.some.inj (hf.symm.trans (at?_of_locate hlocate))
  have hload := fs.loads_loadDocument origin path
  cases hresult : fs.loadDocument origin path with
  | error d =>
    rw [hresult] at hload
    cases hload with
    | unreadable => exact ⟨_, ⟨_, .inl rfl⟩, rfl⟩
    | malformed => exact ⟨_, ⟨_, .inr rfl⟩, rfl⟩
  | ok document =>
    rw [hresult] at hload
    cases hload with
    | document hread hparsed =>
      exact absurd hparsed (hbroken _ _ (content_of_readText hlocate hread))

end FileSystem

namespace Loading

variable {fs : FileSystem} {f : Location} {c : Content} {g : Glob}
  {primary dependencies : List String}

/-- The paths that are found and lead to a location, each of them once. -/
def pathsTo (fs : FileSystem) (f : Location) (g : Glob) (primary dependencies : List String) :
    List String :=
  ((attempts fs g primary dependencies).filter (fs.reaches f ·.1)).map (·.1)

theorem exists_locate_of_mem_attempts {a : String × Origin}
    (h : a ∈ attempts fs g primary dependencies) : ∃ l e, fs.locate a.1 = .ok (l, e) := by
  rcases List.mem_append.1 h with h | h
  · obtain ⟨p, hp, rfl⟩ := List.mem_map.1 h
    exact FileSystem.exists_locate_of_mem_discover hp
  · obtain ⟨p, hp, rfl⟩ := List.mem_map.1 h
    exact FileSystem.exists_locate_of_mem_discover (List.mem_of_mem_filter hp)

section Removed

variable (h : fs.WellFormed) (hf : fs.at? f = some (.file c))
  (hwalked : ∀ location ∈ primary ++ dependencies, fs.reaches f location = false)
  (hlinks : ∀ location ∈ primary ++ dependencies, fs.LinksSpare f location)

include h hf hwalked hlinks

theorem discover_primary_removed : (fs.removeTree f).discover g primary =
    ((fs.discover g primary).1.filter (!fs.reaches f ·), (fs.discover g primary).2) :=
  h.discover_removed hf (fun location hl => hwalked location (List.mem_append_left _ hl))
    fun location hl => hlinks location (List.mem_append_left _ hl)

theorem discover_dependencies_removed : (fs.removeTree f).discover g dependencies =
    ((fs.discover g dependencies).1.filter (!fs.reaches f ·), (fs.discover g dependencies).2) :=
  h.discover_removed hf (fun location hl => hwalked location (List.mem_append_right _ hl))
    fun location hl => hlinks location (List.mem_append_right _ hl)

theorem importedPaths_removed : importedPaths (fs.removeTree f) g primary dependencies =
    (importedPaths fs g primary dependencies).filter (!fs.reaches f ·) := by
  rw [importedPaths, importedPaths, discover_primary_removed h hf hwalked hlinks,
    discover_dependencies_removed h hf hwalked hlinks, List.filter_filter, List.filter_filter]
  refine List.filter_congr fun p hp => ?_
  cases hreaches : fs.reaches f p with
  | true => simp
  | false =>
    -- a local spelling of a path that stays does not lead to the file either
    have hsame : ∀ q ∈ (fs.discover g primary).1, Path.same p q = true →
        fs.reaches f q = false := fun q hq hsame =>
      (FileSystem.reaches_of_same hsame (FileSystem.exists_locate_of_mem_discover hp)
        (FileSystem.exists_locate_of_mem_discover hq)).trans hreaches
    have hany : ((fs.discover g primary).1.filter (!fs.reaches f ·)).any (Path.same p) =
        (fs.discover g primary).1.any (Path.same p) := by
      rw [List.any_filter, Bool.eq_iff_iff, List.any_eq_true, List.any_eq_true]
      refine exists_congr fun q => and_congr_right fun hq => ?_
      rw [Bool.and_eq_true, and_iff_right_iff_imp]
      exact fun hpq => by rw [hsame q hq hpq, Bool.not_false]
    simp [hany]

/-- **All other paths are attempted**, as local or as imported as before. -/
theorem attempts_removed : attempts (fs.removeTree f) g primary dependencies =
    (attempts fs g primary dependencies).filter (!fs.reaches f ·.1) := by
  rw [attempts, attempts, importedPaths_removed h hf hwalked hlinks,
    discover_primary_removed h hf hwalked hlinks, List.filter_append, List.filter_map,
    List.filter_map]
  rfl

/-- **The same documents are loaded** if none can be read from the file. -/
theorem documents_removed (hbroken : c.Broken) :
    (ofLocations (fs.removeTree f) g primary dependencies).documents =
      (ofLocations fs g primary dependencies).documents := by
  rw [documents_eq, documents_eq, attempts_removed h hf hwalked hlinks]
  refine successes_filter (fun a ha hreaches => ?_) fun a _ hreaches => ?_
  · exact h.loadDocument_removed hf hreaches (exists_locate_of_mem_attempts ha)
  · obtain ⟨d, -, hload⟩ := FileSystem.exists_fault_of_reaches hf hbroken hreaches
    exact ⟨d, hload⟩

/-- **The same is reported, and one fault for each path to the file**, if no document can be read
from it and some document is found besides it. -/
theorem reported_removed (hbroken : c.Broken)
    (hprimary : ((fs.removeTree f).discover g primary).1 ≠ []) :
    ∃ faults, List.Forall₂ (fun path d => Diagnostic.IsFaultIn d path)
        (pathsTo fs f g primary dependencies) faults ∧
      (ofLocations (fs.removeTree f) g primary dependencies).reported.Sublist
        (ofLocations fs g primary dependencies).reported ∧
      (ofLocations fs g primary dependencies).reported.Perm
        ((ofLocations (fs.removeTree f) g primary dependencies).reported ++ faults) := by
  have hlocations := discover_primary_removed (g := g) h hf hwalked hlinks
  have hdependencies := discover_dependencies_removed (g := g) h hf hwalked hlinks
  have hfound : (fs.discover g primary).1 ≠ [] := fun hnil => by
    rw [hlocations, hnil] at hprimary
    exact hprimary rfl
  have hfaults : ∀ a ∈ (attempts fs g primary dependencies).filter (fs.reaches f ·.1),
      ∃ d, Diagnostic.IsFaultIn d a.1 ∧ fs.loadDocument a.2 a.1 = .error d := fun a ha =>
    FileSystem.exists_fault_of_reaches hf hbroken (List.mem_filter.1 ha).2
  have hothers : ∀ a ∈ attempts fs g primary dependencies, fs.reaches f a.1 = false →
      (fs.removeTree f).loadDocument a.2 a.1 = fs.loadDocument a.2 a.1 := fun a ha hreaches =>
    h.loadDocument_removed hf hreaches (exists_locate_of_mem_attempts ha)
  obtain ⟨hkept, hperm⟩ := failures_filter hothers
  refine ⟨_, List.forall₂_map_left_iff.2 (forall₂_failures hfaults), ?_⟩
  rw [reported_eq, reported_eq, attempts_removed h hf hwalked hlinks,
    if_neg (by simpa using hprimary), if_neg (by simpa using hfound), hlocations, hdependencies]
  exact ⟨hkept.append_left _, (hperm.append_left _).trans (.of_eq (List.append_assoc _ _ _).symm)⟩

end Removed

/-- There is nothing to generate from if that is reported. -/
theorem isVoid_iff {l : Loading} :
    l.isVoid = true ↔ ∃ locations, .noDocuments locations ∈ l.reported := by
  rw [isVoid, List.any_eq_true]
  constructor
  · rintro ⟨d, hd, htrue⟩
    split at htrue
    · exact ⟨_, hd⟩
    · cases htrue
  · rintro ⟨locations, hmem⟩
    exact ⟨_, hmem, rfl⟩

end Loading

/-! ## Builds -/

namespace Build

variable {o : Overlay} {l whole : Loading} {paths : List String} {faults : List Diagnostic}

/-- A build is another one but for one fault in each of some paths. -/
structure AddsFaults (b whole : Build) (paths : List String) : Prop where
  model : b.model = whole.model
  count : b.count = whole.count
  /-- All that is reported otherwise is reported in the same order… -/
  kept : whole.reported.Sublist b.reported
  /-- …and what is reported besides is the faults. -/
  faults : ∃ faults, List.Forall₂ (fun path d => d.IsFaultIn path) paths faults ∧
    b.reported.Perm (whole.reported ++ faults)

/-- **Faults in documents do not keep the others from being merged.** -/
theorem addsFaults_ofLoading (hdocuments : whole.documents = l.documents)
    (hkept : whole.reported.Sublist l.reported)
    (hfaults : List.Forall₂ (fun path d => d.IsFaultIn path) paths faults)
    (hperm : l.reported.Perm (whole.reported ++ faults)) :
    (ofLoading o l).AddsFaults (ofLoading o whole) paths := by
  have hvoid : l.isVoid = whole.isVoid := by
    rw [Bool.eq_iff_iff, Loading.isVoid_iff, Loading.isVoid_iff]
    refine exists_congr fun locations => ?_
    rw [hperm.mem_iff, List.mem_append, or_iff_left]
    intro hmem
    obtain ⟨path, -, message, hfault | hfault⟩ := exists_of_forall₂ hfaults _ hmem
    · cases hfault
    · cases hfault
  have hmerged : ∀ failed, (l.reported ++ failed).Perm ((whole.reported ++ failed) ++ faults) :=
    fun failed => (hperm.append_right failed).trans (by
      rw [List.append_assoc, List.append_assoc]
      exact List.perm_append_comm.append_left whole.reported)
  rw [ofLoading, ofLoading, hvoid, hdocuments]
  split
  · exact ⟨rfl, rfl, hkept, faults, hfaults, hperm⟩
  · split
    · exact ⟨rfl, rfl, hkept, faults, hfaults, hperm⟩
    · next failed _ =>
      exact ⟨rfl, rfl, hkept.append_right failed, faults, hfaults, hmerged failed⟩

theorem warnings_ofLoading : (ofLoading o l).warnings = l.warnings := by
  rw [ofLoading]
  split
  · rfl
  · split <;> rfl

end Build

/-! ## A link beside the file -/

/-- A directory with a document, a file that is no text, and a link. -/
def spoiltFileSystem (target : String) : FileSystem :=
  ⟨[(["work"], .directory false), (["work", "idl"], .directory false),
    (["work", "idl", "bad.kmd.json"], .file (.bytes [255])),
    (["work", "idl", "core.kmd.json"],
      .file (.text "\x7b\"name\":\"core\",\"version\":\"1\"\x7d")),
    (["work", "idl", "link.kmd.json"], .link target)], ["work"]⟩

/-- Without the file that is no text. -/
def mendedFileSystem (target : String) : FileSystem :=
  (spoiltFileSystem target).removeTree ["work", "idl", "bad.kmd.json"]

theorem wellFormed_spoiltFileSystem (target : String) :
    (spoiltFileSystem target).WellFormed where
  named := by simp [FileSystem.Named, spoiltFileSystem, Component.Follows]
  stands := FileSystem.stands_of_entries (by
    simp [spoiltFileSystem, FileSystem.hasDirectory, FileSystem.at?, List.lookup_cons,
      Entry.isDirectory])

theorem broken_bytes (b : List UInt8) : (Content.bytes b).Broken := fun _ _ h => nomatch h

theorem goesDown_spoiltFileSystem {path : String} {l : Location}
    (h : (spoiltFileSystem "core.kmd.json").GoesDown "idl" path l) :
    path = "idl" ∧ l = ["work", "idl"] := by
  have hnames : (spoiltFileSystem "core.kmd.json").names ["work", "idl"] =
      ["bad.kmd.json", "core.kmd.json", "link.kmd.json"] :=
    List.mergeSort_of_pairwise (by decide +kernel)
  have hflat : ∀ name ∈ (spoiltFileSystem "core.kmd.json").names ["work", "idl"],
      ¬ (spoiltFileSystem "core.kmd.json").isDirectory (Path.join "idl" name) = true := by
    rw [hnames]
    decide +kernel
  induction h with
  | here hpath =>
    have hlocate : (spoiltFileSystem "core.kmd.json").locate "idl" =
        .ok (["work", "idl"], .directory false) := by decide +kernel
    rw [hlocate] at hpath
    cases hpath
    exact ⟨rfl, rfl⟩
  | down _ hname hpath ih =>
    obtain ⟨rfl, rfl⟩ := ih
    exact absurd (FileSystem.isDirectory_iff.2 ⟨_, _, hpath⟩) (hflat _ hname)

/-- A link to the document may stay. -/
theorem linksSpare_spoiltFileSystem :
    (spoiltFileSystem "core.kmd.json").LinksSpare ["work", "idl", "bad.kmd.json"] "idl" := by
  intro path l name target h hlink
  obtain ⟨rfl, rfl⟩ := goesDown_spoiltFileSystem h
  have hentry := FileSystem.mem_entries_of_at? hlink (List.concat_ne_nil name _)
  obtain ⟨rfl, rfl⟩ : name = "link.kmd.json" ∧ target = "core.kmd.json" := by
    simp only [spoiltFileSystem] at hentry
    simpa using hentry
  decide +kernel

/-- The document is found besides the file, and so is a link to it; a link to the file is
reported. -/
theorem discover_mendedFileSystem :
    (mendedFileSystem "core.kmd.json").discover ⟨"*", [.anyRun]⟩ ["idl"] =
        (["idl/core.kmd.json", "idl/link.kmd.json"], []) ∧
      (mendedFileSystem "bad.kmd.json").discover ⟨"*", [.anyRun]⟩ ["idl"] =
        (["idl/core.kmd.json"], [.input "idl/link.kmd.json" <|
          "IO error for operation on idl/link.kmd.json: " ++
            "No such file or directory (os error 2)"]) := by
  have hnames : ∀ target, (mendedFileSystem target).names ["work", "idl"] =
      ["core.kmd.json", "link.kmd.json"] := fun _ =>
    List.mergeSort_of_pairwise (l := ["core.kmd.json", "link.kmd.json"]) (by decide +kernel)
  have hlocate : ∀ target ∈ ["core.kmd.json", "bad.kmd.json"],
      (mendedFileSystem target).locate "idl" = .ok (["work", "idl"], .directory false) := by
    decide +kernel
  have hdepth : ∀ target, (mendedFileSystem target).maxDepth = 24 + 1 := fun _ => rfl
  constructor
  all_goals
    rw [FileSystem.discover, List.map_singleton, FileSystem.documentsAt, if_neg (by decide +kernel),
      if_pos (by decide +kernel), FileSystem.documentsBelow, FileSystem.walk, hlocate _ (by decide)]
    dsimp only
    rw [hdepth, FileSystem.walkBelow, hnames]
    decide +kernel

theorem discover_spoiltFileSystem :
    (spoiltFileSystem "bad.kmd.json").discover ⟨"*", [.anyRun]⟩ ["idl"] =
      (["idl/bad.kmd.json", "idl/core.kmd.json", "idl/link.kmd.json"], []) := by
  have hnames : (spoiltFileSystem "bad.kmd.json").names ["work", "idl"] =
      ["bad.kmd.json", "core.kmd.json", "link.kmd.json"] :=
    List.mergeSort_of_pairwise (by decide +kernel)
  have hlocate : (spoiltFileSystem "bad.kmd.json").locate "idl" =
      .ok (["work", "idl"], .directory false) := by decide +kernel
  have hdepth : (spoiltFileSystem "bad.kmd.json").maxDepth = 35 + 1 := rfl
  rw [FileSystem.discover, List.map_singleton, FileSystem.documentsAt, if_neg (by decide +kernel),
    if_pos (by decide +kernel), FileSystem.documentsBelow, FileSystem.walk, hlocate]
  dsimp only
  rw [hdepth, FileSystem.walkBelow, hnames]
  decide +kernel

/-- One document is in order. -/
theorem Loaded.sorted_eq_self {documents : List Loaded} (h : documents.length = 1) :
    Loaded.sorted documents = documents := by
  obtain ⟨d, rfl⟩ := List.length_eq_one_iff.1 h
  exact List.mergeSort_singleton d

/-- Both paths to the file are reported; without it, there is no path to it and the link is. -/
theorem length_reported_spoiltFileSystem :
    (Build.ofLocations (spoiltFileSystem "bad.kmd.json") ⟨"*", [.anyRun]⟩ .empty ["idl"]
        []).reported.length = 2 ∧
      (Build.ofLocations (mendedFileSystem "bad.kmd.json") ⟨"*", [.anyRun]⟩ .empty ["idl"]
        []).reported.length = 1 ∧
      (Loading.pathsTo (spoiltFileSystem "bad.kmd.json") ["work", "idl", "bad.kmd.json"]
        ⟨"*", [.anyRun]⟩ ["idl"] []).length = 2 := by
  have hnone : ∀ fs : FileSystem, fs.discover ⟨"*", [.anyRun]⟩ [] = ([], []) := fun _ => rfl
  refine ⟨?_, ?_, ?_⟩
  · rw [Build.ofLocations, Loading.ofLocations, discover_spoiltFileSystem, hnone, Build.ofLoading,
      if_neg (by decide +kernel), merge, Loaded.sorted_eq_self (by decide +kernel)]
    decide +kernel
  · rw [Build.ofLocations, Loading.ofLocations, discover_mendedFileSystem.2, hnone, Build.ofLoading,
      if_neg (by decide +kernel), merge, Loaded.sorted_eq_self (by decide +kernel)]
    decide +kernel
  · rw [Loading.pathsTo, Loading.attempts, Loading.importedPaths, discover_spoiltFileSystem, hnone]
    decide +kernel

/-- **A file that holds no document is reported once for each path to it, and changes nothing
else.** Let such a file be found only by walking directories, on the way through which each link
leads to the same without it, and let some primary document be found besides it. Then the build
yields the same model, or none, from the same number of documents as the build without the file, and
reports the same, in the same order, and one fault for each path that leads to the file. If
dependencies are found besides it, the warnings are the same as well. -/
theorem addsFaults_of_broken (fs : FileSystem) (g : Glob) (o : Overlay)
    (primary dependencies : List String) {f : Location} {c : Content} (h : fs.WellFormed)
    (hf : fs.at? f = some (.file c)) (hbroken : c.Broken)
    (hwalked : ∀ location ∈ primary ++ dependencies, fs.reaches f location = false)
    (hlinks : ∀ location ∈ primary ++ dependencies, fs.LinksSpare f location)
    (hprimary : ((fs.removeTree f).discover g primary).1 ≠ []) :
    (Build.ofLocations fs g o primary dependencies).AddsFaults
        (Build.ofLocations (fs.removeTree f) g o primary dependencies)
        (Loading.pathsTo fs f g primary dependencies) ∧
      (((fs.removeTree f).discover g dependencies).1 ≠ [] →
        (Build.ofLocations fs g o primary dependencies).warnings =
          (Build.ofLocations (fs.removeTree f) g o primary dependencies).warnings) := by
  obtain ⟨faults, hfaults, hkept, hperm⟩ :=
    Loading.reported_removed h hf hwalked hlinks hbroken hprimary
  refine ⟨Build.addsFaults_ofLoading (Loading.documents_removed h hf hwalked hlinks hbroken) hkept
    hfaults hperm, fun hdependencies => ?_⟩
  have hfound : (fs.discover g dependencies).1 ≠ [] := fun hnil => by
    rw [Loading.discover_dependencies_removed h hf hwalked hlinks, hnil] at hdependencies
    exact hdependencies rfl
  rw [Build.ofLocations, Build.ofLocations, Build.warnings_ofLoading, Build.warnings_ofLoading]
  simp [Loading.ofLocations, hfound, hdependencies]

/-- The file that is no text is reported once, though it is found from both sides; the link to the
document is loaded with and without it. -/
theorem addsFaults_of_broken_spoiltFileSystem :
    ((spoiltFileSystem "core.kmd.json").WellFormed ∧
      (spoiltFileSystem "core.kmd.json").at? ["work", "idl", "bad.kmd.json"] =
        some (.file (.bytes [255])) ∧ (Content.bytes [255]).Broken ∧
      (∀ location ∈ ["idl"] ++ ["idl"], (spoiltFileSystem "core.kmd.json").reaches
        ["work", "idl", "bad.kmd.json"] location = false) ∧
      (∀ location ∈ ["idl"] ++ ["idl"], (spoiltFileSystem "core.kmd.json").LinksSpare
        ["work", "idl", "bad.kmd.json"] location) ∧
      ((mendedFileSystem "core.kmd.json").discover ⟨"*", [.anyRun]⟩ ["idl"]).1 ≠ []) ∧
    (Build.ofLocations (spoiltFileSystem "core.kmd.json") ⟨"*", [.anyRun]⟩ .empty ["idl"]
        ["idl"]).AddsFaults
      (Build.ofLocations (mendedFileSystem "core.kmd.json") ⟨"*", [.anyRun]⟩ .empty ["idl"] ["idl"])
      (Loading.pathsTo (spoiltFileSystem "core.kmd.json") ["work", "idl", "bad.kmd.json"]
        ⟨"*", [.anyRun]⟩ ["idl"] ["idl"]) ∧
    (Build.ofLocations (spoiltFileSystem "core.kmd.json") ⟨"*", [.anyRun]⟩ .empty ["idl"]
        ["idl"]).warnings =
      (Build.ofLocations (mendedFileSystem "core.kmd.json") ⟨"*", [.anyRun]⟩ .empty ["idl"]
        ["idl"]).warnings := by
  have hwellFormed := wellFormed_spoiltFileSystem "core.kmd.json"
  have hfile : (spoiltFileSystem "core.kmd.json").at? ["work", "idl", "bad.kmd.json"] =
      some (.file (.bytes [255])) := by decide +kernel
  have hwalked : ∀ location ∈ ["idl"] ++ ["idl"], (spoiltFileSystem "core.kmd.json").reaches
      ["work", "idl", "bad.kmd.json"] location = false := by decide +kernel
  have hlinks : ∀ location ∈ ["idl"] ++ ["idl"], (spoiltFileSystem "core.kmd.json").LinksSpare
      ["work", "idl", "bad.kmd.json"] location := fun location hlocation => by
    obtain rfl : location = "idl" := by simpa using hlocation
    exact linksSpare_spoiltFileSystem
  have hfound : ((mendedFileSystem "core.kmd.json").discover ⟨"*", [.anyRun]⟩ ["idl"]).1 ≠ [] := by
    rw [discover_mendedFileSystem.1]
    exact List.cons_ne_nil _ _
  obtain ⟨hfaults, hwarnings⟩ := addsFaults_of_broken (spoiltFileSystem "core.kmd.json")
    ⟨"*", [.anyRun]⟩ .empty ["idl"] ["idl"] hwellFormed hfile (broken_bytes _) hwalked hlinks hfound
  exact ⟨⟨hwellFormed, hfile, broken_bytes _, hwalked, hlinks, hfound⟩, hfaults, hwarnings hfound⟩

/-- **A link to the file is not spared**: without the file it is reported in another way. -/
theorem not_addsFaults_spoiltFileSystem :
    (spoiltFileSystem "bad.kmd.json").WellFormed ∧
      (spoiltFileSystem "bad.kmd.json").at? ["work", "idl", "bad.kmd.json"] =
        some (.file (.bytes [255])) ∧ (Content.bytes [255]).Broken ∧
      (∀ location ∈ ["idl"] ++ [],
        (spoiltFileSystem "bad.kmd.json").reaches ["work", "idl", "bad.kmd.json"] location =
          false) ∧
      ((mendedFileSystem "bad.kmd.json").discover ⟨"*", [.anyRun]⟩ ["idl"]).1 ≠ [] ∧
      ¬ (Build.ofLocations (spoiltFileSystem "bad.kmd.json") ⟨"*", [.anyRun]⟩ .empty ["idl"]
          []).AddsFaults
        (Build.ofLocations (mendedFileSystem "bad.kmd.json") ⟨"*", [.anyRun]⟩ .empty ["idl"] [])
        (Loading.pathsTo (spoiltFileSystem "bad.kmd.json") ["work", "idl", "bad.kmd.json"]
          ⟨"*", [.anyRun]⟩ ["idl"] []) := by
  refine ⟨wellFormed_spoiltFileSystem _, by decide +kernel, broken_bytes _, by decide +kernel, ?_,
    fun h => ?_⟩
  · rw [discover_mendedFileSystem.2]
    exact List.cons_ne_nil _ _
  · obtain ⟨faults, hfaults, hperm⟩ := h.faults
    obtain ⟨hspoilt, hmended, hpaths⟩ := length_reported_spoiltFileSystem
    have hlength := hperm.length_eq
    rw [List.length_append, hspoilt, hmended, ← hfaults.length_eq, hpaths] at hlength
    cases hlength

end InterfaceGen
