import InterfaceGen.Files.System
import InterfaceGen.Proofs.Files.Components
import Mathlib.Data.List.TakeWhile

/-!
# Proofs/Files/Place — without links, an operation changes the place that its path spells

From a directory, a root leads to the top, a dot nowhere, two dots one step up and a name one step
down (`Path.place`). In a file system without links this is where every path leads, if it leads
anywhere (`FileSystem.find_eq_ok`), so what an operation changes can be read off its path: there is
one statement for each of them, such as `FileSystem.moveFile_eq_ok`.
-/

namespace InterfaceGen

/-! ## Places -/

/-- The location that a component leads to. -/
def Component.follow (l : Location) : Component → Location
  | .root => []
  | .current => l
  | .parent => l.dropLast
  | .normal name => l ++ [name]

namespace Path

variable {base path : String}

/-- The location that components lead to, one after the other. -/
def place (here : Location) (cs : List Component) : Location := cs.foldl Component.follow here

theorem place_append (here : Location) (front back : List Component) :
    place here (front ++ back) = place (place here front) back :=
  List.foldl_append

/-- What one slash at the end does not change is not changed by any number of them. -/
theorem append_slashes {p : String → Prop} {slashes : List Char}
    (hslashes : ∀ c ∈ slashes, c = '/') (hbase : p base)
    (hslash : ∀ path, p path → p (path ++ "/")) : p (base ++ String.ofList slashes) := by
  induction slashes generalizing base with
  | nil => rwa [String.ofList_nil, String.append_empty]
  | cons c slashes ih =>
    obtain ⟨rfl, hrest⟩ := List.forall_mem_cons.1 hslashes
    have hcons : base ++ String.ofList ('/' :: slashes) = base ++ "/" ++ String.ofList slashes :=
      String.toList_inj.1 (by simp)
    rw [hcons]
    exact ih hrest (hslash base hbase)

/-- Slashes at the end do not count. -/
theorem components_append_slashes {slashes : List Char} (hslashes : ∀ c ∈ slashes, c = '/')
    (h : base ≠ "") : components (base ++ String.ofList slashes) = components base := by
  refine (append_slashes (p := fun path => path ≠ "" ∧ components path = components base) hslashes
    ⟨h, rfl⟩ ?_).2
  rintro path ⟨hne, hpath⟩
  exact ⟨by simp, (components_append_slash hne).trans hpath⟩

/-- A path is what is left of it without the slashes at its end, and these slashes. -/
theorem exists_append_slashes (path : String) : ∃ slashes : List Char, (∀ c ∈ slashes, c = '/') ∧
    String.ofList (path.toList.reverse.dropWhile (· == '/')).reverse ++ String.ofList slashes =
      path := by
  refine ⟨(path.toList.reverse.takeWhile (· == '/')).reverse, fun c hc => ?_, ?_⟩
  · simpa using List.mem_takeWhile_imp (List.mem_reverse.1 hc)
  · refine String.toList_inj.1 ?_
    rw [String.toList_append, String.toList_ofList, String.toList_ofList, ← List.reverse_append,
      List.takeWhile_append_dropWhile, List.reverse_reverse]

/-- The path without the slashes at its end has the same components, if anything is left. -/
theorem components_trimmed
    (h : String.ofList (path.toList.reverse.dropWhile (· == '/')).reverse ≠ "") :
    components (String.ofList (path.toList.reverse.dropWhile (· == '/')).reverse) =
      components path := by
  obtain ⟨slashes, hslashes, hsplit⟩ := exists_append_slashes path
  exact (components_append_slashes hslashes h).symm.trans (congrArg components hsplit)

end Path

namespace FileSystem

variable {fs : FileSystem} {path : String} {l : Location} {e : Entry} {ss : List String}
  {follow : Bool} {t : Target}

/-! ## Single changes -/

theorem lookup_filter_fst (p : Location → Bool) (entries : List (Location × Entry)) (m : Location) :
    (entries.filter fun x => p x.1).lookup m = if p m then entries.lookup m else none := by
  induction entries with
  | nil => simp
  | cons x entries ih =>
    obtain ⟨l, e⟩ := x
    rw [List.filter_cons, List.lookup_cons]
    cases hm : m == l with
    | true =>
      obtain rfl := LawfulBEq.eq_of_beq hm
      by_cases hp : p m = true
      · simp [hp]
      · simp [hp, ih]
    | false =>
      by_cases hp : p l = true
      · simp [hp, List.lookup_cons, hm, ih]
      · simp [hp, ih]

/-- **What is at a location and below it is taken away**, and all else stays. -/
theorem at?_removeTree (fs : FileSystem) (l m : Location) :
    (fs.removeTree l).at? m = if m ≠ [] ∧ l <+: m then none else fs.at? m := by
  by_cases hm : m = []
  · simp [at?, hm]
  · have hlookup := lookup_filter_fst (fun m => !l.isPrefixOf m) fs.entries m
    simp only [at?, removeTree, hm, if_false, ne_eq, not_false_iff, true_and]
    rw [hlookup]
    by_cases hl : l <+: m
    · rw [if_pos hl, List.isPrefixOf_iff_prefix.2 hl]
      rfl
    · rw [if_neg hl, Bool.eq_false_iff.2 (mt List.isPrefixOf_iff_prefix.1 hl)]
      rfl

theorem at?_put (fs : FileSystem) (l m : Location) (e : Entry) :
    (fs.put l e).at? m = if m ≠ [] ∧ m = l then some e else fs.at? m := by
  by_cases hm : m = []
  · simp [at?, hm]
  · by_cases hl : m = l
    · subst hl
      simp [hm]
    · simp [hl, at?_put_ne]

/-- A file system without links. -/
def Linkless (fs : FileSystem) : Prop := ∀ l target, fs.at? l ≠ some (.link target)

/-- What is at a location other than the root is an entry. -/
theorem mem_entries_of_at? (h : fs.at? l = some e) (hroot : l ≠ []) : (l, e) ∈ fs.entries := by
  rw [at?, if_neg hroot] at h
  obtain ⟨front, back, hentries, -⟩ := List.lookup_eq_some_iff.1 h
  rw [hentries]
  exact List.mem_append_right _ List.mem_cons_self

/-- A file system whose entries are no links is without links. -/
theorem linkless_of_entries (h : ∀ x ∈ fs.entries, ∀ target, x.2 ≠ .link target) :
    fs.Linkless := by
  intro l target hlink
  by_cases hroot : l = []
  · rw [at?, if_pos hroot] at hlink
    cases hlink
  · exact h _ (mem_entries_of_at? hlink hroot) target rfl

theorem Linkless.put (h : fs.Linkless) (l : Location) (he : ∀ target, e ≠ .link target) :
    (fs.put l e).Linkless := by
  intro m target hlink
  rw [at?_put] at hlink
  split at hlink
  · exact he target (Option.some.inj hlink)
  · exact h m target hlink

theorem Linkless.removeTree (h : fs.Linkless) (l : Location) : (fs.removeTree l).Linkless := by
  intro m target hlink
  rw [at?_removeTree] at hlink
  split at hlink
  · cases hlink
  · exact h m target hlink

/-! ## Following paths -/

/-- The location that a step leads to if no link is in the way. -/
def stepTo (l : Location) (name : String) : Location :=
  if name = "." then l else if name = ".." then l.dropLast else l ++ [name]

theorem foldl_stepTo (pieces : List String) (l : Location) :
    (pieces.filter (· ≠ "")).foldl stepTo l =
      Path.place l (pieces.filterMap Component.ofPiece?) := by
  induction pieces generalizing l with
  | nil => rfl
  | cons piece pieces ih =>
    by_cases hempty : piece = ""
    · rw [List.filter_cons_of_neg (by simpa using hempty), ih,
        List.filterMap_cons_none (by simp [Component.ofPiece?, hempty])]
    · rw [List.filter_cons_of_pos (by simpa using hempty), List.foldl_cons, ih, stepTo]
      by_cases hdot : piece = "."
      · rw [if_pos hdot, List.filterMap_cons_none (by simp [Component.ofPiece?, hdot])]
      · rw [if_neg hdot]
        by_cases hup : piece = ".."
        · rw [if_pos hup,
            List.filterMap_cons_some (b := .parent) (by simp [Component.ofPiece?, hup])]
          rfl
        · rw [if_neg hup, List.filterMap_cons_some (b := .normal piece)
            (by simp [Component.ofPiece?, hempty, hdot, hup])]
          rfl

/-- **The steps of a path lead where its components lead.** -/
theorem foldl_steps (path : String) (here : Location) :
    (steps path).foldl stepTo (origin path here) = Path.place here (Path.components path) := by
  have hlead : origin path here = Path.place here (Path.lead path) := by
    rw [origin, Path.lead]
    split
    · rfl
    · split <;> rfl
  have hend : ∀ l, (if path.endsWith "/" then ["."] else []).foldl stepTo l = l := by
    intro l
    split <;> rfl
  rw [steps, List.foldl_append, hend, foldl_stepTo, hlead, Path.components_eq, Path.place_append]
  rfl

namespace Target

/-- The location that a path leads to. -/
def location : Target → Location
  | .entry l _ => l
  | .free l => l

/-- What is there. -/
def entry? : Target → Option Entry
  | .entry _ e => some e
  | .free _ => none

end Target

/-- The location that a path leads to from the working directory. -/
def placeOf (fs : FileSystem) (path : String) : Location :=
  Path.place fs.current (Path.components path)

theorem placeOf_congr {fs' : FileSystem} (h : fs'.current = fs.current) (path : String) :
    fs'.placeOf path = fs.placeOf path := by rw [placeOf, h, placeOf]

theorem walkWith_eq_ok (h : fs.Linkless)
    {onLink : Location → List String → Except FileFault Target}
    (ht : fs.walkWith follow onLink l ss = .ok t) :
    t.location = ss.foldl stepTo l ∧ fs.at? t.location = t.entry? := by
  induction ss generalizing l with
  | nil =>
    rw [walkWith] at ht
    cases hl : fs.at? l with
    | none => simp [hl] at ht
    | some e =>
      rw [hl] at ht
      obtain rfl := Except.ok.inj ht
      exact ⟨rfl, hl⟩
  | cons name rest ih =>
    rw [walkWith] at ht
    rw [List.foldl_cons, stepTo]
    by_cases hdot : name = "."
    · rw [if_pos hdot] at ht ⊢
      exact ih ht
    · rw [if_neg hdot] at ht ⊢
      by_cases hup : name = ".."
      · rw [if_pos hup] at ht ⊢
        exact ih ht
      · rw [if_neg hup] at ht ⊢
        cases hnext : fs.at? (l ++ [name]) with
        | none =>
          simp only [hnext] at ht
          split at ht
          · next hrest =>
            obtain rfl := List.isEmpty_iff.1 (Bool.and_eq_true_iff.1 hrest).1
            obtain rfl := Except.ok.inj ht
            exact ⟨rfl, hnext⟩
          · cases ht
        | some e =>
          cases e with
          | directory readonly =>
            simp only [hnext] at ht
            exact ih ht
          | file content =>
            simp only [hnext] at ht
            split at ht
            · next hrest =>
              obtain rfl := List.isEmpty_iff.1 hrest
              obtain rfl := Except.ok.inj ht
              exact ⟨rfl, hnext⟩
            · cases ht
          | link target => exact absurd hnext (h _ _)

/-- **Without links, a path leads to the place of its components**, and to what is there. -/
theorem find_eq_ok (h : fs.Linkless) (ht : fs.find follow path = .ok t) :
    t.location = fs.placeOf path ∧ fs.at? (fs.placeOf path) = t.entry? := by
  rw [find] at ht
  split at ht
  · cases ht
  · obtain ⟨hlocation, hentry⟩ := walkWith_eq_ok h ht
    rw [foldl_steps] at hlocation
    rw [hlocation] at hentry
    exact ⟨hlocation, hentry⟩

theorem find_eq_entry (h : fs.Linkless) (hfind : fs.find follow path = .ok (.entry l e)) :
    l = fs.placeOf path ∧ fs.at? l = some e := by
  obtain ⟨rfl, hentry⟩ := find_eq_ok h hfind
  exact ⟨rfl, hentry⟩

theorem find_eq_free (h : fs.Linkless) (hfind : fs.find follow path = .ok (.free l)) :
    l = fs.placeOf path ∧ fs.at? l = none := by
  obtain ⟨rfl, hentry⟩ := find_eq_ok h hfind
  exact ⟨rfl, hentry⟩

theorem locate_eq_ok (h : fs.Linkless) (hl : fs.locate path = .ok (l, e)) :
    l = fs.placeOf path ∧ fs.at? l = some e := by
  rw [locate] at hl
  split at hl
  · next hfind =>
    obtain ⟨rfl, rfl⟩ := Prod.mk.inj (Except.ok.inj hl)
    exact find_eq_entry h hfind
  · cases hl
  · cases hl

theorem placeOf_trimmed (fs : FileSystem) (path : String) :
    fs.placeOf (if String.ofList (path.toList.reverse.dropWhile (· == '/')).reverse = "" then path
      else String.ofList (path.toList.reverse.dropWhile (· == '/')).reverse) = fs.placeOf path := by
  split
  · rfl
  · next hne => rw [placeOf, Path.components_trimmed hne, placeOf]

/-! ## What operations change -/

section Operations

variable {made : FileSystem} {source target : String} {c : Content}

/-- A directory is made at the place of its path, where nothing is. -/
theorem makeDirectory_eq_ok (h : fs.Linkless) (hmade : fs.makeDirectory path = .ok made) :
    fs.at? (fs.placeOf path) = none ∧ made = fs.put (fs.placeOf path) (.directory false) := by
  simp only [makeDirectory] at hmade
  split at hmade
  · next l hfind =>
    obtain ⟨hl, hnone⟩ := find_eq_free h hfind
    rw [placeOf_trimmed] at hl
    rw [← hl]
    exact ⟨hnone, (Except.ok.inj hmade).symm⟩
  · cases hmade
  · cases hmade

/-- A file is written at the place of its path. -/
theorem write_eq_ok (h : fs.Linkless) (hmade : fs.write path c = .ok made) :
    made = fs.put (fs.placeOf path) (.file c) := by
  rw [write] at hmade
  split at hmade
  · next hfind =>
    obtain ⟨rfl, -⟩ := find_eq_free h hfind
    exact (Except.ok.inj hmade).symm
  · next hfind =>
    obtain ⟨rfl, -⟩ := find_eq_entry h hfind
    exact (Except.ok.inj hmade).symm
  · cases hmade
  · cases hmade

/-- A file is taken away from the place of its path. -/
theorem removeFile_eq_ok (h : fs.Linkless) (hmade : fs.removeFile path = .ok made) :
    made = fs.removeTree (fs.placeOf path) := by
  rw [removeFile] at hmade
  split at hmade
  · cases hmade
  · next hfind =>
    obtain ⟨rfl, -⟩ := find_eq_entry h hfind
    exact (Except.ok.inj hmade).symm
  · cases hmade
  · cases hmade

/-- What is at the place of one path is moved to the place of the other. -/
theorem moveFile_eq_ok (h : fs.Linkless) (hmade : fs.moveFile source target = .ok made) :
    ∃ e, fs.at? (fs.placeOf source) = some e ∧
      made = (fs.removeTree (fs.placeOf source)).put (fs.placeOf target) e := by
  rw [moveFile] at hmade
  split at hmade
  · next l e hsource =>
    obtain ⟨rfl, he⟩ := find_eq_entry h hsource
    split at hmade
    · cases hmade
    · split at hmade
      · cases hmade
      · refine ⟨e, he, ?_⟩
        split at hmade
        · cases hmade
        · next htarget =>
          obtain ⟨rfl, -⟩ := find_eq_entry h htarget
          exact (Except.ok.inj hmade).symm
        · next htarget =>
          obtain ⟨rfl, -⟩ := find_eq_free h htarget
          exact (Except.ok.inj hmade).symm
        · cases hmade
  · cases hmade
  · cases hmade

/-- The entries of a directory are listed at the place of its path. -/
theorem list_eq_ok {names : List String} (h : fs.Linkless)
    (hlist : fs.list path = .ok (l, names)) : l = fs.placeOf path := by
  rw [list] at hlist
  split at hlist
  · next hlocate =>
    obtain ⟨rfl, -⟩ := Prod.mk.inj (Except.ok.inj hlist)
    exact (locate_eq_ok h hlocate).1
  · cases hlist
  · cases hlist

end Operations

end FileSystem

end InterfaceGen
