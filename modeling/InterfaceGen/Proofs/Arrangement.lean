import InterfaceGen.Loading
import InterfaceGen.Proofs.Path
import InterfaceGen.Proofs.Validity

/-!
# Proofs/Arrangement — the order in which documents come does not matter

Documents are sorted before anything is read off them. The order by path and origin tells any two
documents apart that are not from one path with one origin, so a list without such a pair has only
one sorted arrangement, and everything that follows depends on that alone. What is loaded has no
such pair. Main statements: `merge_eq_of_perm` and `Loading.apart_ofLocations`.
-/

namespace InterfaceGen

namespace Loaded

variable {a b : Loaded} {documents others : List Loaded}

/-! ## One sorted arrangement -/

theorem originRank_injective {x y : Origin} (h : originRank x = originRank y) : x = y := by
  cases x <;> cases y <;> first | rfl | cases h

/-- **Only documents from one path with one origin compare as equal.** -/
theorem compare_eq_iff :
    a.compare b = .eq ↔ Path.same a.path b.path = true ∧ a.origin = b.origin := by
  rw [compare, Ordering.then_eq_eq, Path.compare_eq_iff_same, Nat.compare_eq_eq]
  exact and_congr_right' ⟨originRank_injective, congrArg originRank⟩

/-- No two of the documents are from one path with one origin; paths compare by their components. -/
def Apart (documents : List Loaded) : Prop :=
  documents.Pairwise fun a b => ¬(Path.same a.path b.path = true ∧ a.origin = b.origin)

theorem Apart.perm (h : Apart documents) (hp : documents.Perm others) : Apart others := by
  refine List.Pairwise.perm h hp fun {a b} hab hba => hab ?_
  have hswap : a.compare b = (b.compare a).swap := Std.OrientedCmp.eq_swap
  rw [← compare_eq_iff] at hba ⊢
  rw [hswap, hba]
  rfl

theorem sorted_perm (documents : List Loaded) : (sorted documents).Perm documents :=
  List.mergeSort_perm documents _

/-- Documents that are apart are taken in a strict order. -/
theorem Apart.pairwise_sorted (h : Apart documents) :
    (sorted documents).Pairwise fun a b => a.compare b = .lt := by
  refine (pairwise_isLE_sorted documents).imp₂ (fun a b hle hapart => ?_)
    (h.perm (sorted_perm documents).symm)
  rw [← compare_eq_iff] at hapart
  cases hab : a.compare b with
  | lt => rfl
  | eq => exact absurd hab hapart
  | gt => rw [hab] at hle; cases hle

/-- A strict arrangement of some documents is the only one. -/
theorem eq_of_pairwise_lt (hp : documents.Perm others)
    (h : documents.Pairwise fun a b => a.compare b = .lt)
    (h' : others.Pairwise fun a b => a.compare b = .lt) : documents = others := by
  refine hp.eq_of_pairwise (fun a b _ _ hab hba => ?_) h h'
  have hswap : a.compare b = (b.compare a).swap := Std.OrientedCmp.eq_swap
  rw [hswap, hba] at hab
  cases hab

/-- **Documents that are apart are sorted to one list**, in whatever order they come. -/
theorem Apart.sorted_eq_of_perm (h : Apart documents) (hp : documents.Perm others) :
    sorted documents = sorted others :=
  eq_of_pairwise_lt ((sorted_perm documents).trans (hp.trans (sorted_perm others).symm))
    h.pairwise_sorted (h.perm hp).pairwise_sorted

end Loaded

/-! ## Merging -/

/-- **The order in which documents come does not matter**: the model is the same, or the diagnostics
and their order are. -/
theorem merge_eq_of_perm (o : Overlay) {documents others : List Loaded}
    (hapart : Loaded.Apart documents) (hp : documents.Perm others) :
    merge o documents = merge o others := by
  simp only [merge, hapart.sorted_eq_of_perm hp]

theorem apart_sample : Loaded.Apart sample := by
  unfold Loaded.Apart
  decide

/-- The sample turned around is merged to the same model. -/
theorem merge_eq_of_perm_sample : Loaded.Apart sample ∧ sample.Perm sample.reverse ∧
    merge Overlay.empty sample = merge Overlay.empty sample.reverse :=
  ⟨apart_sample, (List.reverse_perm sample).symm,
    merge_eq_of_perm Overlay.empty apart_sample (List.reverse_perm sample).symm⟩

/-! ## What is loaded -/

namespace Path

theorem mem_insert_imp {path q : String} {s : List String} (h : q ∈ insert path s) :
    q = path ∨ q ∈ s := by
  induction s with
  | nil => exact .inl (List.mem_singleton.1 h)
  | cons p s ih =>
    simp only [insert] at h
    split at h
    · exact List.mem_cons.1 h
    · exact .inr h
    · rcases List.mem_cons.1 h with h | h
      · exact .inr (h ▸ List.mem_cons_self)
      · exact (ih h).imp_right (List.mem_cons_of_mem _)

/-- Adding a path keeps the order. -/
theorem pairwise_insert {s : List String} (h : s.Pairwise fun p q => compare p q = .lt)
    (path : String) : (insert path s).Pairwise fun p q => compare p q = .lt := by
  induction s with
  | nil => exact List.pairwise_singleton _ _
  | cons p s ih =>
    obtain ⟨hp, hs⟩ := List.pairwise_cons.1 h
    simp only [insert]
    split
    · next hlt =>
      refine List.pairwise_cons.2 ⟨fun q hq => ?_, h⟩
      rcases List.mem_cons.1 hq with rfl | hq
      · exact hlt
      · exact Std.TransCmp.lt_trans hlt (hp q hq)
    · exact h
    · next hgt =>
      refine List.pairwise_cons.2 ⟨fun q hq => ?_, ih hs⟩
      rcases mem_insert_imp hq with rfl | hq
      · exact Std.OrientedCmp.lt_of_gt hgt
      · exact hp q hq

/-- **A set of paths is in path order**, and no path is in it twice. -/
theorem pairwise_ofList (paths : List String) :
    (ofList paths).Pairwise fun p q => compare p q = .lt :=
  List.foldlRecOn paths _ List.Pairwise.nil fun _ hs p _ => pairwise_insert hs p

end Path

namespace FileSystem

variable {fs : FileSystem} {origin : Origin} {path : String} {l : Loaded} {paths : List String}

/-- What is loaded is the document that is read, with its path and origin. -/
theorem exists_of_loadDocument (h : fs.loadDocument origin path = .ok l) :
    ∃ d, fs.readDocument path = .ok d ∧ l = ⟨path, origin, d⟩ := by
  unfold loadDocument at h
  cases hd : fs.readDocument path with
  | error d =>
    rw [hd] at h
    cases h
  | ok d =>
    rw [hd] at h
    cases h
    exact ⟨d, rfl, rfl⟩

/-- A loaded document keeps its path and its origin. -/
theorem path_of_loadDocument (h : fs.loadDocument origin path = .ok l) :
    l.path = path ∧ l.origin = origin := by
  obtain ⟨d, -, rfl⟩ := exists_of_loadDocument h
  exact ⟨rfl, rfl⟩

/-- What is loaded from paths in order is apart. -/
theorem apart_successes (fs : FileSystem) (origin : Origin)
    (h : paths.Pairwise fun p q => Path.compare p q = .lt) :
    Loaded.Apart (successes (paths.map (fs.loadDocument origin))) := by
  refine pairwise_successes (h.map _ fun p q hlt a b ha hb hsame => ?_)
  rw [(path_of_loadDocument ha).1, (path_of_loadDocument hb).1, ← Path.compare_eq_iff_same,
    hlt] at hsame
  cases hsame.1

end FileSystem

/-- **What is loaded is apart**: a file is found once, and as a dependency only if it is not local.
-/
theorem Loading.apart_ofLocations (fs : FileSystem) (g : Glob)
    (primary dependencies : List String) :
    Loaded.Apart (Loading.ofLocations fs g primary dependencies).documents := by
  have horigin : ∀ {origin : Origin} {paths : List String},
      ∀ l ∈ successes (paths.map (fs.loadDocument origin)), l.origin = origin := fun l hl => by
    obtain ⟨p, -, hp⟩ := List.mem_map.1 (mem_successes.1 hl)
    exact (FileSystem.path_of_loadDocument hp).2
  simp only [ofLocations, successes_append]
  refine List.pairwise_append.2 ⟨FileSystem.apart_successes fs _ (Path.pairwise_ofList _),
    FileSystem.apart_successes fs _ ((Path.pairwise_ofList _).filter _), fun a ha b hb hsame => ?_⟩
  rw [horigin a ha, horigin b hb] at hsame
  cases hsame.2

end InterfaceGen
