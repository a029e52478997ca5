import InterfaceGen.Proofs.Files.Delivery

/-!
# Proofs/Files/Keeping — files that are to be left alone are lost only to drafts

A file of the list is looked for before it is written, and what is found is left alone. The place of
its draft is not looked at: a file there is written over, moved away or removed, whatever it is. All
other files stay, whether they are in the list or not. A file of the list is found if the path of
the root leads to the root's place; it does unless it goes through a directory that is missing,
which is made only later. Main statements: `leftAlone_writeAll` and, for a file that is lost,
`not_leftAlone_draftNamed`.
-/

namespace InterfaceGen

namespace FileSystem

variable {fs fs' : FileSystem} {root path destination : String} {fates : Fates}
  {x : (String × String) × Fate} {l : Location} {c : Content}

/-! ## Files of the list -/

/-- What is empty or leads somewhere is a path to its place. -/
theorem enters_of_exists? (h : fs.Linkless) (hroot : root = "" ∨ fs.exists? root = true)
    (hdirectory : fs.hasDirectory (fs.placeOf root) = true) :
    fs.Enters fs.current (Path.components root) := by
  rcases hroot with rfl | hexists
  · exact hdirectory
  · obtain ⟨l, e, hlocate⟩ := exists?_eq_true_iff.1 hexists
    obtain ⟨rfl, he⟩ := locate_eq_ok h hlocate
    obtain ⟨readonly, hreadonly⟩ := hasDirectory_iff.1 hdirectory
    obtain rfl := Option.some.inj (he.symm.trans hreadonly)
    exact enters_of_locate h hlocate

/-- **What is below the root is found** if the path of the root leads to its place. -/
theorem exists?_join_of_file (h : fs.Plain) (hpath : Path.Resolves destination path)
    (hroot : fs.hasDirectory (fs.placeOf root) = true → root = "" ∨ fs.exists? root = true)
    (hfile : fs.at? (fs.placeOf (Path.join root path)) = some (.file c)) :
    fs.exists? (Path.join root path) = true := by
  have hsome : fs.at? (fs.placeOf (Path.join root path)) ≠ none := hfile ▸ Option.some_ne_none _
  refine (exists?_iff (hpath.named_join root) h).2 ⟨?_, hsome⟩
  have hdescends := hpath.descends
  have hplace : fs.placeOf (Path.join root path) =
      fs.placeOf root ++ (Path.components path).map Component.spelling := by
    rw [placeOf_join hdescends, Path.place_eq_append hdescends.names]
  -- both the root and the directory of the file are above the file
  have habove : ∀ front, front <+: Path.components path → front ≠ Path.components path →
      fs.hasDirectory (fs.placeOf root ++ front.map Component.spelling) = true := by
    intro front hfront hne
    refine h.hasDirectory_of_below (m := fs.placeOf (Path.join root path)) ?_ hsome
    rw [hplace]
    refine ⟨(List.prefix_append_right_inj _).2 (hfront.map _), fun heq => hne ?_⟩
    refine hfront.eq_of_length ?_
    simpa using congrArg List.length heq
  have hrooted : fs.hasDirectory (fs.placeOf root) = true := by
    simpa using habove [] List.nil_prefix (Ne.symm hdescends.ne_nil)
  have hnames : ∀ c ∈ (Path.components path).dropLast, ∃ name, c = .normal name :=
    fun c hc => hdescends.names c ((List.dropLast_prefix _).mem hc)
  rw [Path.components_join hdescends.lead_eq_nil, List.dropLast_append_of_ne_nil hdescends.ne_nil]
  refine h.enters_append (enters_of_exists? h.linkless (hroot hrooted) hrooted) hnames ?_
  rw [Path.place_append, Path.place_eq_append hnames]
  refine habove _ (List.dropLast_prefix _) fun heq => ?_
  have hlength := congrArg List.length heq
  rw [List.length_dropLast] at hlength
  have hpos := List.length_pos_iff.2 hdescends.ne_nil
  omega

/-! ## What is left alone -/

/-- **A file is lost only to a draft** if those of the list that are there are found. -/
theorem Meets.keeps (h : Meets root true fates fs fs') (hplain : fs.Plain)
    (hnamed : ∀ x ∈ fates, Path.Named (Path.join root x.1.1))
    (hfound : ∀ x ∈ fates, fs.placeOf (Path.join root x.1.1) = l →
      fs.exists? (Path.join root x.1.1) = true)
    (hfile : fs.at? l = some (.file c)) : fs'.at? l = some (.file c) ∨
      ∃ x ∈ fates, x.2 ≠ .skipped ∧ fs.placeOf (draftPath (Path.join root x.1.1)) = l := by
  induction h with
  | nil => exact .inl hfile
  | @cons f fate fates fs mid fs' first rest ih =>
    obtain ⟨hthis, hothers⟩ := List.forall_mem_cons.1 hfound
    have hrest := (List.forall_mem_cons.1 hnamed).2
    rcases first.kept hfile with hmid | ⟨hfate, hl⟩ | ⟨rfl, hl⟩
    · have hplaces := placeOf_congr first.current_eq
      -- what was found is found again, since directories stay and so does the file
      have hagain : ∀ x ∈ fates, mid.placeOf (Path.join root x.1.1) = l →
          mid.exists? (Path.join root x.1.1) = true := by
        intro x hx hplace
        have hname := hrest x hx
        have henters := ((exists?_iff hname hplain).1
          (hothers x hx ((hplaces _).symm.trans hplace))).1
        rw [exists?_iff hname (first.plain hplain), hplace, hmid, first.current_eq]
        exact ⟨henters.mono fun _ => first.hasDirectory, Option.some_ne_none _⟩
      rcases ih (first.plain hplain) hrest hagain hmid with hfile' | ⟨x, hx, hfate, hdraft⟩
      · exact .inl hfile'
      · exact .inr ⟨x, List.mem_cons_of_mem _ hx, hfate, (hplaces _).symm.trans hdraft⟩
    · exact .inr ⟨_, List.mem_cons_self, hfate, hl.symm⟩
    · cases first with
      | written hnew _ => exact absurd (hthis hl.symm) (Bool.eq_false_iff.1 (hnew rfl))

/-- A file with a fate is skipped if its path is listed so. -/
theorem fate_eq_skipped {w : Written} {before : List Diagnostic}
    (htallies : fates.Tallies root before w) (hnodup : (fates.map (·.1.1)).Nodup) (hx : x ∈ fates)
    (hlisted : x.1.1 ∈ w.skipped) : x.2 = .skipped := by
  rw [htallies.skipped_eq] at hlisted
  obtain ⟨y, hy, heq⟩ := List.mem_map.1 hlisted
  obtain ⟨hmem, hfate⟩ := List.mem_filter.1 hy
  rw [List.inj_on_of_nodup_map hnodup hx hmem heq.symm]
  exact of_decide_eq_true hfate

end FileSystem

open FileSystem

/-- **Files that are there are left alone**, whatever they are called, unless one is named like the
draft of a file that is not skipped; where such a file was written, no file is left. The directory
of the root, if it is there, is where the root's path leads. -/
theorem leftAlone_writeAll {fs : FileSystem} (h : fs.Plain) (root : String)
    {files : List (String × String)}
    (hlegal : ∀ f ∈ files, ∃ destination, destinationPath destination = .ok f.1)
    (hdistinct : (files.map (·.1)).Nodup)
    (hroot : fs.hasDirectory (fs.placeOf root) = true → root = "" ∨ fs.exists? root = true) :
    (∀ l c, fs.at? l = some (.file c) →
      (∀ f ∈ files, fs.placeOf (draftPath (Path.join root f.1)) = l →
        f.1 ∈ (fs.writeAll root ⟨false, true⟩ files).2.skipped) →
      (fs.writeAll root ⟨false, true⟩ files).1.at? l = some (.file c)) ∧
    ∀ f ∈ files, f.1 ∈ (fs.writeAll root ⟨false, true⟩ files).2.written →
      (∀ g ∈ files, Path.same g.1 (draftPath f.1) = false) →
      ∀ c, (fs.writeAll root ⟨false, true⟩ files).1.at?
        (fs.placeOf (draftPath (Path.join root f.1))) ≠ some (.file c) := by
  obtain ⟨fates, hfates, hnodup, hpaths, hmeets, htallies⟩ :=
    exists_fates h root true hlegal hdistinct
  have hmem : ∀ x ∈ fates, x.1 ∈ files := fun x hx => hfates ▸ List.mem_map_of_mem hx
  have hnamed : ∀ x ∈ fates, Path.Named (Path.join root x.1.1) := fun x hx =>
    (hpaths x hx).elim fun _ hpath => hpath.named_join root
  replace hmeets : Meets root true fates fs (fs.writeAll root ⟨false, true⟩ files).1 := hmeets
  replace htallies : fates.Tallies root [] (fs.writeAll root ⟨false, true⟩ files).2 := htallies
  constructor
  · intro l c hfile hskipped
    have hfound : ∀ x ∈ fates, fs.placeOf (Path.join root x.1.1) = l →
        fs.exists? (Path.join root x.1.1) = true := by
      rintro x hx rfl
      obtain ⟨_, hpath⟩ := hpaths x hx
      exact exists?_join_of_file h hpath hroot hfile
    rcases hmeets.keeps h hnamed hfound hfile with
      hkept | ⟨x, hx, hfate, hdraft⟩
    · exact hkept
    · exact absurd (fate_eq_skipped htallies hnodup hx (hskipped x.1 (hmem x hx) hdraft)) hfate
  · intro f hf hwritten hdrafts c hfile
    rw [htallies.written_eq] at hwritten
    obtain ⟨x, hx, hpath⟩ := List.mem_map.1 hwritten
    obtain ⟨hx, hfate⟩ := List.mem_filter.1 hx
    rw [← hpath] at hfile hdrafts
    have hfree := draft_of_meets hmeets hpaths (fun y hy => hdrafts y.1 (hmem y hy)) hx hfile
    exact hfree.1 (of_decide_eq_true hfate)

/-- A file of one's own in the output root, with the name of a draft. -/
def draftNamedFileSystem : FileSystem :=
  ⟨[(["work"], .directory false), (["work", "out"], .directory false),
    (["work", "out", "b.rs"], .file (.text "mine")),
    (["work", "out", ".a.rs.kmd-tmp"], .file (.text "mine"))], ["work"]⟩

theorem plain_draftNamed : draftNamedFileSystem.Plain :=
  plain_of_entries (by simp [draftNamedFileSystem]) (by decide +kernel)

theorem leftAlone_writeAll_draftNamed :
    draftNamedFileSystem.Plain ∧
      (∀ f ∈ [("a.rs", "new"), ("b.rs", "new")],
        ∃ destination, destinationPath destination = .ok f.1) ∧
      ([("a.rs", "new"), ("b.rs", "new")].map (·.1)).Nodup ∧
      draftNamedFileSystem.exists? "out" = true ∧
      draftNamedFileSystem.at? ["work", "out", "b.rs"] = some (.file (.text "mine")) ∧
      (draftNamedFileSystem.writeAll "out" ⟨false, true⟩ [("a.rs", "new"), ("b.rs", "new")]).1.at?
        ["work", "out", "b.rs"] = some (.file (.text "mine")) := by
  have hlegal : ∀ f ∈ [("a.rs", "new"), ("b.rs", "new")],
      ∃ destination, destinationPath destination = .ok f.1 := by
    refine fun f hf => ⟨f.1, ?_⟩
    revert f
    decide +kernel
  have hdistinct : ([("a.rs", "new"), ("b.rs", "new")].map (·.1)).Nodup := by decide
  have hroot : draftNamedFileSystem.exists? "out" = true := by decide +kernel
  have hfile : draftNamedFileSystem.at? ["work", "out", "b.rs"] = some (.file (.text "mine")) := by
    decide +kernel
  exact ⟨plain_draftNamed, hlegal, hdistinct, hroot, hfile,
    (leftAlone_writeAll plain_draftNamed "out" hlegal hdistinct fun _ => .inr hroot).1 _ _ hfile
      (by decide +kernel)⟩

/-- **A file that is named like a draft is lost**, though it is not in the list and no file is to be
overwritten. -/
theorem not_leftAlone_draftNamed :
    ¬ ∀ (fs : FileSystem) (root : String) (files : List (String × String)), fs.Plain →
      (∀ f ∈ files, ∃ destination, destinationPath destination = .ok f.1) →
      (files.map (·.1)).Nodup → ∀ l c, fs.at? l = some (.file c) →
        (fs.writeAll root ⟨false, true⟩ files).1.at? l = some (.file c) := by
  intro hall
  have hlegal : ∀ f ∈ [("a.rs", "new")], ∃ destination, destinationPath destination = .ok f.1 := by
    intro f hf
    obtain rfl := List.mem_singleton.1 hf
    exact ⟨"a.rs", by decide +kernel⟩
  have hfile : draftNamedFileSystem.at? ["work", "out", ".a.rs.kmd-tmp"] =
      some (.file (.text "mine")) := by decide +kernel
  have hlost : (draftNamedFileSystem.writeAll "out" ⟨false, true⟩ [("a.rs", "new")]).1.at?
      ["work", "out", ".a.rs.kmd-tmp"] = none := by decide +kernel
  have hkept :=
    hall draftNamedFileSystem "out" [("a.rs", "new")] plain_draftNamed hlegal (by decide)
    _ _ hfile
  rw [hlost] at hkept
  cases hkept

/-- A file of the list is overwritten if the path of the root goes through a missing directory. -/
example : (draftNamedFileSystem.writeAll "lost/../out" ⟨false, true⟩ [("b.rs", "new")]).1.at?
    ["work", "out", "b.rs"] = some (.file (.text "new")) := by decide +kernel

end InterfaceGen
