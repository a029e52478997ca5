import InterfaceGen.Proofs.Files.Confined

/-!
# Proofs/Files/Tree — without links, files form a tree, and operations keep it one

Whatever is at a location stands in a directory (`Plain`): nothing is below a file, and nothing is
left of a directory that was taken away. Each operation changes one location, and puts something
there only where a directory is above it. Making a directory and those above it adds missing
directories and touches nothing that is there (`Grows`). Main statement: `grows_withParent`.
-/

namespace InterfaceGen

namespace FileSystem

variable {fs fs' fs'' made : FileSystem} {l m : Location} {e : Entry} {path source target : String}
  {follow : Bool} {t : Target} {c : Content}

/-! ## Trees -/

theorem hasDirectory_iff :
    fs.hasDirectory l = true ↔ ∃ readonly, fs.at? l = some (.directory readonly) := by
  rw [hasDirectory]
  cases fs.at? l with
  | none => simp
  | some e => cases e <;> simp [Entry.isDirectory]

theorem hasDirectory_congr (h : fs'.at? l = fs.at? l) : fs'.hasDirectory l = fs.hasDirectory l := by
  rw [hasDirectory, h, hasDirectory]

theorem not_hasDirectory_of_file (h : fs.at? l = some (.file c)) : ¬ fs.hasDirectory l = true := by
  rw [hasDirectory_iff, h]
  rintro ⟨readonly, hdirectory⟩
  cases hdirectory

theorem not_hasDirectory_of_none (h : fs.at? l = none) : ¬ fs.hasDirectory l = true := by
  rw [hasDirectory_iff, h]
  rintro ⟨readonly, hdirectory⟩
  cases hdirectory

theorem ne_nil_of_not_hasDirectory (h : ¬ fs.hasDirectory l = true) : l ≠ [] := by
  rintro rfl
  exact h (hasDirectory_iff.2 ⟨false, if_pos rfl⟩)

/-- Each entry stands in a directory. -/
def Stands (fs : FileSystem) : Prop :=
  ∀ l name, fs.at? (l ++ [name]) ≠ none → fs.hasDirectory l = true

theorem stands_of_entries (h : ∀ x ∈ fs.entries, fs.hasDirectory x.1.dropLast = true) :
    fs.Stands := by
  intro l name hsome
  obtain ⟨e, he⟩ := Option.ne_none_iff_exists'.1 hsome
  simpa using h _ (mem_entries_of_at? he (List.concat_ne_nil name l))

namespace Stands

/-- **Above whatever is somewhere there are directories only.** -/
theorem hasDirectory_of_below (h : fs.Stands) (hbelow : Location.Below l m)
    (hm : fs.at? m ≠ none) : fs.hasDirectory l = true := by
  obtain ⟨⟨names, rfl⟩, hne⟩ := hbelow
  induction names generalizing l with
  | nil => exact absurd (List.append_nil l).symm hne
  | cons name names ih =>
    have hcons : l ++ name :: names = l ++ [name] ++ names := by simp
    rw [hcons] at hm
    refine h l name ?_
    by_cases hnil : names = []
    · rwa [hnil, List.append_nil] at hm
    · obtain ⟨readonly, hdirectory⟩ :=
        hasDirectory_iff.1 (ih hm fun heq => hnil (by simpa using heq))
      rw [hdirectory]
      exact Option.some_ne_none _

/-- Nothing is below what is no directory. -/
theorem eq_of_prefix (h : fs.Stands) (hl : ¬ fs.hasDirectory l = true) (hm : fs.at? m ≠ none)
    (hbelow : l <+: m) : m = l := by
  by_contra hne
  exact hl (h.hasDirectory_of_below ⟨hbelow, Ne.symm hne⟩ hm)

/-- What is not a directory is taken away alone. -/
theorem at?_removeTree (h : fs.Stands) (hl : ¬ fs.hasDirectory l = true) (m : Location) :
    (fs.removeTree l).at? m = if m = l then none else fs.at? m := by
  have hroot := ne_nil_of_not_hasDirectory hl
  rw [FileSystem.at?_removeTree]
  by_cases hm : m = l
  · subst hm
    rw [if_pos ⟨hroot, List.prefix_refl m⟩, if_pos rfl]
  · rw [if_neg hm]
    split
    · next hbelow =>
      by_contra hne
      exact hm (h.eq_of_prefix hl (fun hnone => hne hnone.symm) hbelow.2)
    · rfl

end Stands

/-- A tree of directories and files: no entry is a link, and each stands in a directory. The working
directory may be gone. -/
structure Plain (fs : FileSystem) : Prop where
  linkless : fs.Linkless
  stands : ∀ l name, fs.at? (l ++ [name]) ≠ none → fs.hasDirectory l = true

/-- A file system is a tree if each of its entries stands in a directory. -/
theorem plain_of_entries (hlinks : ∀ x ∈ fs.entries, ∀ target, x.2 ≠ .link target)
    (hstands : ∀ x ∈ fs.entries, fs.hasDirectory x.1.dropLast = true) : fs.Plain :=
  ⟨linkless_of_entries hlinks, stands_of_entries hstands⟩

namespace Plain

theorem hasDirectory_of_below (h : fs.Plain) (hbelow : Location.Below l m)
    (hm : fs.at? m ≠ none) : fs.hasDirectory l = true :=
  Stands.hasDirectory_of_below h.stands hbelow hm

theorem at?_removeTree (h : fs.Plain) (hl : ¬ fs.hasDirectory l = true) (m : Location) :
    (fs.removeTree l).at? m = if m = l then none else fs.at? m :=
  Stands.at?_removeTree h.stands hl m

theorem put (h : fs.Plain) (habove : fs.hasDirectory l.dropLast = true)
    (he : ∀ target, e ≠ .link target) (hkeep : fs.hasDirectory l = true → e.isDirectory = true) :
    (fs.put l e).Plain := by
  refine ⟨h.linkless.put l he, fun m name hsome => ?_⟩
  have hm : fs.hasDirectory m = true := by
    rw [at?_put] at hsome
    split at hsome
    · next heq => rwa [← heq.2, List.dropLast_concat] at habove
    · exact h.stands m name hsome
  by_cases hml : m ≠ [] ∧ m = l
  · obtain ⟨hne, rfl⟩ := hml
    rw [hasDirectory, at?_put_self fs hne]
    exact hkeep hm
  · rwa [hasDirectory, at?_put, if_neg hml]

theorem removeTree (h : fs.Plain) (l : Location) : (fs.removeTree l).Plain := by
  refine ⟨h.linkless.removeTree l, fun m name hsome => ?_⟩
  rw [FileSystem.at?_removeTree] at hsome
  split at hsome
  · exact absurd rfl hsome
  · next hkept =>
    rw [hasDirectory, FileSystem.at?_removeTree, if_neg]
    · exact h.stands m name hsome
    · rintro ⟨-, hprefix⟩
      exact hkept ⟨List.concat_ne_nil name m, hprefix.trans (List.prefix_append m [name])⟩

end Plain

/-! ## Where things are put -/

/-- A path leads to a free place only in a directory that is there. -/
theorem hasDirectory_of_walkWith (h : fs.Linkless) {ss : List String}
    {onLink : Location → List String → Except FileFault Target}
    (ht : fs.walkWith follow onLink l ss = .ok (.free m)) : fs.hasDirectory m.dropLast = true := by
  induction ss generalizing l with
  | nil =>
    rw [walkWith] at ht
    split at ht <;> cases ht
  | cons name rest ih =>
    rw [walkWith] at ht
    split at ht
    · exact ih ht
    · split at ht
      · exact ih ht
      · simp only at ht
        split at ht
        · split at ht
          · next hrest =>
            obtain rfl := Target.free.inj (Except.ok.inj ht)
            rw [List.dropLast_concat]
            exact (Bool.and_eq_true_iff.1 hrest).2
          · cases ht
        · exact ih ht
        · split at ht <;> cases ht
        · next hlink => exact absurd hlink (h _ _)

/-- **What a path leads to stands in a directory**, also if it is still to be made. -/
theorem hasDirectory_of_find (h : fs.Plain) (hfind : fs.find follow path = .ok t)
    (hroot : fs.placeOf path ≠ []) : fs.hasDirectory (fs.placeOf path).dropLast = true := by
  obtain ⟨hlocation, hentry⟩ := find_eq_ok h.linkless hfind
  cases t with
  | entry l e =>
    have hsome : fs.at? (fs.placeOf path) ≠ none := hentry ▸ Option.some_ne_none e
    rw [← List.dropLast_concat_getLast hroot] at hsome
    exact h.stands _ _ hsome
  | free l =>
    rw [← hlocation]
    rw [find] at hfind
    split at hfind
    · cases hfind
    · exact hasDirectory_of_walkWith h.linkless hfind

theorem hasDirectory_of_makeDirectory (h : fs.Plain) (hmade : fs.makeDirectory path = .ok made) :
    fs.hasDirectory (fs.placeOf path).dropLast = true := by
  have hroot := ne_nil_of_not_hasDirectory
    (not_hasDirectory_of_none (makeDirectory_eq_ok h.linkless hmade).1)
  simp only [makeDirectory] at hmade
  rw [← placeOf_trimmed] at hroot ⊢
  split at hmade
  · next hfind => exact hasDirectory_of_find h hfind hroot
  · cases hmade
  · cases hmade

/-- What a path leads to and is no directory stands in one. -/
theorem hasDirectory_of_find_file (h : fs.Plain) (hfind : fs.find follow path = .ok t)
    (ht : ∀ readonly, t.entry? ≠ some (.directory readonly)) :
    ¬ fs.hasDirectory (fs.placeOf path) = true ∧
      fs.hasDirectory (fs.placeOf path).dropLast = true := by
  have hno : ¬ fs.hasDirectory (fs.placeOf path) = true := by
    rw [hasDirectory_iff, (find_eq_ok h.linkless hfind).2]
    rintro ⟨readonly, hdirectory⟩
    exact ht readonly hdirectory
  exact ⟨hno, hasDirectory_of_find h hfind (ne_nil_of_not_hasDirectory hno)⟩

/-- A file is written where no directory is, in a directory. -/
theorem hasDirectory_of_write (h : fs.Plain) (hmade : fs.write path c = .ok made) :
    ¬ fs.hasDirectory (fs.placeOf path) = true ∧
      fs.hasDirectory (fs.placeOf path).dropLast = true := by
  rw [write] at hmade
  split at hmade
  · next hfind => exact hasDirectory_of_find_file h hfind (by rintro readonly ⟨⟩)
  · next hfind => exact hasDirectory_of_find_file h hfind (by rintro readonly ⟨⟩)
  · cases hmade
  · cases hmade

/-- A file is moved to where no directory is, in a directory. -/
theorem hasDirectory_of_moveFile (h : fs.Plain) (hmade : fs.moveFile source target = .ok made) :
    ¬ fs.hasDirectory (fs.placeOf target) = true ∧
      fs.hasDirectory (fs.placeOf target).dropLast = true := by
  rw [moveFile] at hmade
  split at hmade
  · split at hmade
    · cases hmade
    · split at hmade
      · cases hmade
      · split at hmade
        · cases hmade
        · next hother hfind =>
          refine hasDirectory_of_find_file h hfind fun readonly heq => ?_
          exact hother readonly (Option.some.inj heq)
        · next hfind => exact hasDirectory_of_find_file h hfind (by rintro readonly ⟨⟩)
        · cases hmade
  · cases hmade
  · cases hmade

theorem plain_write (h : fs.Plain) (hmade : fs.write path c = .ok made) : made.Plain := by
  obtain ⟨hno, habove⟩ := hasDirectory_of_write h hmade
  rw [write_eq_ok h.linkless hmade]
  exact h.put habove nofun fun hdirectory => absurd hdirectory hno

/-! What is written is at the place of its path, and all else is as it was. -/

section Write

variable (h : fs.Plain) (hmade : fs.write path c = .ok made)
include h hmade

theorem at?_written (l : Location) :
    made.at? l = if l = fs.placeOf path then some (.file c) else fs.at? l := by
  have hroot := ne_nil_of_not_hasDirectory (hasDirectory_of_write h hmade).1
  rw [write_eq_ok h.linkless hmade, at?_put]
  by_cases hl : l = fs.placeOf path
  · rw [if_pos ⟨hl ▸ hroot, hl⟩, if_pos hl]
  · rw [if_neg (fun hboth => hl hboth.2), if_neg hl]

theorem current_written : made.current = fs.current := by
  rw [write_eq_ok h.linkless hmade]
  rfl

theorem hasDirectory_written (l : Location) : made.hasDirectory l = fs.hasDirectory l := by
  by_cases hl : l = fs.placeOf path
  · have hfile : made.at? l = some (.file c) := by
      rw [at?_written h hmade, if_pos hl]
    rw [Bool.eq_false_iff.2 (not_hasDirectory_of_file hfile), hl,
      Bool.eq_false_iff.2 (hasDirectory_of_write h hmade).1]
  · exact hasDirectory_congr (by rw [at?_written h hmade, if_neg hl])

end Write

/-! ## Growing by directories -/

/-- What becomes of a tree to which directories are added where nothing was. -/
structure Grows (fs fs' : FileSystem) : Prop where
  plain : fs'.Plain
  current_eq : fs'.current = fs.current
  kept : ∀ l e, fs.at? l = some e → fs'.at? l = some e
  made : ∀ l, fs.at? l = none → fs'.at? l = none ∨ fs'.at? l = some (.directory false)

namespace Grows

theorem refl (h : fs.Plain) : Grows fs fs := ⟨h, rfl, fun _ _ => id, fun _ => .inl⟩

theorem trans (h : Grows fs fs') (h' : Grows fs' fs'') : Grows fs fs'' := by
  refine ⟨h'.plain, h'.current_eq.trans h.current_eq, fun l e he => h'.kept l e (h.kept l e he),
    fun l hnone => ?_⟩
  rcases h.made l hnone with hnone' | hmade
  · exact h'.made l hnone'
  · exact .inr (h'.kept l _ hmade)

theorem hasDirectory (h : Grows fs fs') (hl : fs.hasDirectory l = true) :
    fs'.hasDirectory l = true := by
  obtain ⟨readonly, hdirectory⟩ := hasDirectory_iff.1 hl
  exact hasDirectory_iff.2 ⟨readonly, h.kept l _ hdirectory⟩

/-- A file that is there afterwards was there before. -/
theorem file (h : Grows fs fs') (hfile : fs'.at? l = some (.file c)) :
    fs.at? l = some (.file c) := by
  cases hl : fs.at? l with
  | none =>
    rcases h.made l hl with hnone | hmade
    · exact absurd (hfile.symm.trans hnone) nofun
    · exact absurd (hfile.symm.trans hmade) nofun
  | some e => exact (h.kept l e hl).symm.trans hfile

end Grows

theorem grows_makeDirectory (h : fs.Plain) (hmade : fs.makeDirectory path = .ok made) :
    Grows fs made := by
  have habove := hasDirectory_of_makeDirectory h hmade
  obtain ⟨hnone, rfl⟩ := makeDirectory_eq_ok h.linkless hmade
  refine ⟨h.put habove nofun fun _ => rfl, rfl, fun l e he => ?_, fun l hl => ?_⟩
  · rw [at?_put, if_neg]
    · exact he
    · rintro ⟨-, rfl⟩
      exact absurd (he.symm.trans hnone) nofun
  · rw [at?_put]
    split
    · exact .inr rfl
    · exact .inl hl

/-- **Making a directory and those above it only adds directories**, as far as it gets. -/
theorem grows_makeTreeTo (h : fs.Plain) (depth : Nat) (path : String) :
    Grows fs (fs.makeTreeTo depth path).1 :=
  makeTreeTo_induction (fun _ => True) (fun _ _ _ _ => trivial)
    (fun _ _ _ hmid _ hmade => hmid.trans (grows_makeDirectory hmid.plain hmade)) (.refl h) trivial
    depth

theorem grows_withParent (h : fs.Plain) (path : String) : Grows fs (fs.withParent path).1 :=
  withParent_induction (fun _ => True) (fun _ _ _ _ => trivial)
    (fun _ _ _ hmid _ hmade => hmid.trans (grows_makeDirectory hmid.plain hmade)) (.refl h) trivial

end FileSystem

end InterfaceGen
