import InterfaceGen.Proofs.Extension
import InterfaceGen.Proofs.Files.Walking

/-!
# Proofs/Files/Removal — a walk without a file is the walk with it, less what is met there

Taking a file away takes away no directory and no link, so all ways stay. What a path leads to is
the same then, unless it leads to the file; only a link might lead to it, or on through it, and fail
otherwise without it. If no link on the way down does (`LinksSpare`), a walk meets the same things
in the same order, the file itself aside. Main statements: `locate_removed_iff`, `walk_removed`.
-/

namespace InterfaceGen

namespace FileSystem

variable {fs : FileSystem} {f l m : Location} {e : Entry} {c : Content} {path start name : String}
  {names : List String} {outside : List Opened} {depth : Nat} {readonly : Bool}

/-- Entries stand in directories, and their locations are made of names. -/
structure WellFormed (fs : FileSystem) : Prop where
  named : fs.Named
  stands : fs.Stands

/-! ## What stays -/

/-- A file is taken away alone. -/
theorem WellFormed.at?_removed (h : fs.WellFormed) (hf : fs.at? f = some (.file c)) (m : Location) :
    (fs.removeTree f).at? m = if m = f then none else fs.at? m :=
  h.stands.at?_removeTree (not_hasDirectory_of_file hf) m

/-- **All ways stay**, and there are no new ones. -/
theorem WellFormed.ways_removed (h : fs.WellFormed) (hf : fs.at? f = some (.file c)) :
    fs.Ways (fs.removeTree f) ∧ (fs.removeTree f).Ways fs := by
  refine ⟨fun m e hm he => ?_, fun m e hm _ => ?_⟩
  · rw [h.at?_removed hf, if_neg, hm]
    rintro rfl
    rw [hf] at hm
    cases hm
    cases he
  · rw [h.at?_removed hf] at hm
    split at hm
    · cases hm
    · exact hm

/-- **A path leads to the same as before, unless it leads to the file.** -/
theorem WellFormed.locate_removed_iff (h : fs.WellFormed) (hf : fs.at? f = some (.file c)) :
    (fs.removeTree f).locate path = .ok (l, e) ↔ fs.locate path = .ok (l, e) ∧ l ≠ f := by
  obtain ⟨hways, hways'⟩ := h.ways_removed hf
  have hcurrent : (fs.removeTree f).current = fs.current := rfl
  rw [locate_eq_ok_iff, locate_eq_ok_iff, hcurrent]
  constructor
  · rintro ⟨hempty, hwalk⟩
    have hl := at?_of_walkTo hwalk
    rw [h.at?_removed hf] at hl
    split at hl
    · cases hl
    · next hne => exact ⟨⟨hempty, walkTo_of_ways hways' hl hwalk⟩, hne⟩
  · rintro ⟨⟨hempty, hwalk⟩, hne⟩
    refine ⟨hempty, walkTo_of_ways hways ?_ hwalk⟩
    rw [h.at?_removed hf, if_neg hne]
    exact at?_of_walkTo hwalk

theorem Named.removed (h : fs.Named) (f : Location) : (fs.removeTree f).Named :=
  fun x hx => h x (List.mem_of_mem_filter hx)

theorem maxDepth_removed_le (fs : FileSystem) (f : Location) :
    (fs.removeTree f).maxDepth ≤ fs.maxDepth := by
  have hlength : (fs.removeTree f).entries.length ≤ fs.entries.length := List.length_filter_le _ _
  exact Nat.mul_le_mul (Nat.succ_le_succ hlength) (Nat.succ_le_succ hlength)

/-- **The names in a directory stay**, in their order. -/
theorem WellFormed.names_removed (h : fs.WellFormed) (hf : fs.at? f = some (.file c))
    (l : Location) : (fs.removeTree f).names l = (fs.names l).filter (l ++ [·] ≠ f) := by
  have hentries : ∀ x ∈ fs.entries, f.isPrefixOf x.1 = decide (x.1 = f) := fun x hx => by
    rw [Bool.eq_iff_iff, List.isPrefixOf_iff_prefix, decide_eq_true_iff]
    exact ⟨h.stands.eq_of_prefix (not_hasDirectory_of_file hf) (at?_ne_none_of_mem hx),
      fun heq => heq ▸ List.prefix_refl f⟩
  rw [FileSystem.names, FileSystem.names, filter_mergeSort]
  · congr 1
    rw [removeTree, List.filterMap_filter, List.filter_filterMap]
    refine List.filterMap_congr fun x hx => ?_
    obtain ⟨m, e⟩ := x
    have hstarts := hentries _ hx
    simp only at hstarts ⊢
    by_cases hm : m.dropLast = l
    · subst hm
      cases hlast : m.getLast? with
      | none => simp
      | some name =>
        have hname : m.dropLast ++ [name] = m := List.dropLast_append_getLast? name hlast
        simp [hstarts, Option.filter, hname]
    · simp [hm]
  · exact trans_key id
  · exact total_key id

/-! ## Links -/

/-- Going down from a path gets to a directory, by a path on from there. -/
inductive GoesDown (fs : FileSystem) (start : String) : String → Location → Prop
  | here {l : Location} {readonly : Bool} (hpath : fs.locate start = .ok (l, .directory readonly)) :
      GoesDown fs start start l
  | down {path name : String} {l m : Location} {readonly : Bool} (h : GoesDown fs start path l)
      (hname : name ∈ fs.names l)
      (hpath : fs.locate (Path.join path name) = .ok (m, .directory readonly)) :
      GoesDown fs start (Path.join path name) m

theorem GoesDown.locate_eq (h : fs.GoesDown start path l) :
    ∃ readonly, fs.locate path = .ok (l, .directory readonly) := by
  cases h with
  | here hpath => exact ⟨_, hpath⟩
  | down _ _ hpath => exact ⟨_, hpath⟩

/-- Each link that is met on the way down from a path leads to the same without what is at a
location, or fails in the same way: none leads there, or on through it. -/
def LinksSpare (fs : FileSystem) (f : Location) (start : String) : Prop :=
  ∀ path l name target, fs.GoesDown start path l → fs.at? (l ++ [name]) = some (.link target) →
    (fs.removeTree f).locate (Path.join path name) = fs.locate (Path.join path name)

/-- **Another name in a directory leads to the same as before.** -/
theorem WellFormed.locate_join_removed (h : fs.WellFormed) (hf : fs.at? f = some (.file c))
    (hlinks : fs.LinksSpare f start) (hdown : fs.GoesDown start path l) (hname : name ∈ fs.names l)
    (hne : l ++ [name] ≠ f) :
    (fs.removeTree f).locate (Path.join path name) = fs.locate (Path.join path name) := by
  obtain ⟨readonly, hpath⟩ := hdown.locate_eq
  obtain ⟨e, he⟩ := exists_at?_of_mem_names hname
  cases e with
  | link target => exact hlinks path l name target hdown he
  | _ =>
    have hlocate := locate_join hpath (h.named.follows hname) he fun target htarget => by
      cases htarget
    rw [hlocate]
    exact (h.locate_removed_iff hf).2 ⟨hlocate, hne⟩

/-! ## Walks -/

/-- Whether something that a walk meets is elsewhere. -/
def elsewhere (f : Location) : Except WalkFault Found → Bool
  | .ok found => found.location ≠ f
  | .error _ => true

/-- A part of a list yields what the list yields, less what the rest of it does. -/
theorem flatMap_filter_eq {α β : Type} {p : α → Bool} {q : β → Bool} {g g' : α → List β}
    {l : List α} (hin : ∀ x ∈ l, p x = true → g' x = (g x).filter q)
    (hout : ∀ x ∈ l, p x = false → (g x).filter q = []) :
    (l.filter p).flatMap g' = (l.flatMap g).filter q := by
  induction l with
  | nil => rfl
  | cons x l ih =>
    rw [List.forall_mem_cons] at hin hout
    rw [List.flatMap_cons, List.filter_append, ← ih hin.2 hout.2]
    cases hp : p x with
    | true => rw [List.filter_cons_of_pos hp, List.flatMap_cons, hin.1 hp]
    | false => rw [List.filter_cons_of_neg (by simp [hp]), hout.1 hp, List.nil_append]

/-- **A walk meets the same without the file**, the file aside, by induction on the depth. -/
theorem WellFormed.walkBelow_removed (h : fs.WellFormed) (hf : fs.at? f = some (.file c))
    (hlinks : fs.LinksSpare f start) (hdown : fs.GoesDown start path l) :
    (fs.removeTree f).walkBelow depth outside path names l =
      (fs.walkBelow depth outside path names l).filter (elsewhere f) := by
  induction depth generalizing outside path names l with
  | zero => rfl
  | succ depth ih =>
    rw [walkBelow, walkBelow, h.names_removed hf]
    refine flatMap_filter_eq (fun name hname hne => ?_) fun name hname heq => ?_
    · have hne : l ++ [name] ≠ f := by simpa using hne
      have hlocate := h.locate_join_removed hf hlinks hdown hname hne
      have hlink : (fs.removeTree f).isLink (l ++ [name]) = fs.isLink (l ++ [name]) := by
        rw [isLink, isLink, h.at?_removed hf, if_neg hne]
      dsimp only
      rw [hlocate, hlink]
      split
      · rfl
      · next m readonly' hm =>
        split
        · rfl
        · exact ih (.down hdown hname hm)
      · next m e _ hm =>
        have hm : (fs.removeTree f).locate (Path.join path name) = .ok (m, e) := hlocate.trans hm
        have hmf := (h.locate_removed_iff hf).1 hm
        simp [elsewhere, hmf.2]
    · have heq : l ++ [name] = f := by simpa using heq
      obtain ⟨readonly, hpath⟩ := hdown.locate_eq
      have hlocate : fs.locate (Path.join path name) = .ok (l ++ [name], .file c) :=
        locate_join hpath (h.named.follows hname) (heq ▸ hf) fun target htarget => by cases htarget
      dsimp only
      rw [hlocate]
      simp [elsewhere, heq]

/-- **A walk from a directory meets the same without the file**, the file aside. -/
theorem WellFormed.walk_removed (h : fs.WellFormed) (hf : fs.at? f = some (.file c))
    (hlinks : fs.LinksSpare f path) (hpath : fs.locate path = .ok (l, .directory readonly)) :
    (fs.removeTree f).walk path = (fs.walk path).filter (elsewhere f) := by
  have hne : l ≠ f := by
    rintro rfl
    rw [at?_of_locate hpath] at hf
    cases hf
  have hpath' := (h.locate_removed_iff hf).2 ⟨hpath, hne⟩
  simp only [walk, hpath, hpath']
  rw [← walkBelow_maxDepth (h.named.removed f) hpath' (fs.maxDepth_removed_le f),
    h.walkBelow_removed hf hlinks (.here hpath)]

end FileSystem

end InterfaceGen
