import InterfaceGen.Proofs.Files.Along

/-!
# Proofs/Files/Drafts — writing a file by way of its draft changes the two of them only

The draft stands in the directory of its file, so both paths lead to their places together. Whether
the writing succeeds or not, directories stay, the only file that can be new is the one that was
written, and the only files that can be lost are an older one of its name and one that is named like
its draft (`Leaves`). If it succeeds, the file can be read and its draft is gone (`Delivers`). Main
statement: `writeWhole_cases`.
-/

namespace InterfaceGen

namespace FileSystem

variable {fs fs' ready drafted : FileSystem} {path text : String}

/-! ## Drafts -/

/-- The path of a file's draft. -/
def draftPath (path : String) : String := Path.withFileName path (draftName path)

theorem named_draftPath (path : String) : Path.Named (draftPath path) := by
  rw [draftPath, Path.withFileName]
  split
  · exact Path.named_join (follows_draftName path) _
  · exact Path.named_join (follows_draftName path) _

theorem components_draftPath (h : Path.Named path) : Path.components (draftPath path) =
    (Path.components path).dropLast ++ [.normal (draftName path)] :=
  Path.components_withFileName h (follows_draftName path)

theorem draftName_ne {name : String} (hname : Path.fileName? path = some name) :
    draftName path ≠ name := by
  intro heq
  have hlength := congrArg String.length heq
  rw [draftName, hname, Option.getD_some, String.length_append, String.length_append] at hlength
  have hdot : ".".length = 1 := rfl
  omega

/-- A draft is not at the place of its file. -/
theorem placeOf_draftPath_ne (h : Path.Named path) :
    fs.placeOf (draftPath path) ≠ fs.placeOf path := by
  obtain ⟨front, name, -, -, hcomponents⟩ := h.components_eq
  have hname : Path.fileName? path = some name := by
    rw [Path.fileName?, hcomponents, List.getLast?_concat]
  have hlast : ∀ other : String, Path.place fs.current ((Path.components path).dropLast ++
      [.normal other]) = Path.place fs.current (Path.components path).dropLast ++ [other] :=
    fun other => Path.place_append _ _ _
  have hfile :
      fs.placeOf path = Path.place fs.current (Path.components path).dropLast ++ [name] := by
    rw [placeOf, ← hlast, hcomponents, List.dropLast_concat]
  rw [placeOf, components_draftPath h, hlast, hfile]
  intro heq
  exact draftName_ne hname (List.singleton_inj.1 (List.append_cancel_left heq))

theorem dropLast_components_draftPath (h : Path.Named path) :
    (Path.components (draftPath path)).dropLast = (Path.components path).dropLast := by
  rw [components_draftPath h, List.dropLast_concat]

/-! ## What is left -/

/-- What may become of a tree when a file is written by way of its draft: `written` is what it holds
then, if it is written at all. -/
structure Leaves (path : String) (written : Option Content) (fs fs' : FileSystem) : Prop where
  plain : fs'.Plain
  current_eq : fs'.current = fs.current
  directories : ∀ l, fs.hasDirectory l = true → fs'.hasDirectory l = true
  /-- A file that is there was there before or is the one that was written. -/
  new : ∀ l c, fs'.at? l = some (.file c) →
    fs.at? l = some (.file c) ∨ l = fs.placeOf path ∧ written = some c
  /-- A file stays unless it is named like the draft or is written over. -/
  kept : ∀ l c, fs.at? l = some (.file c) →
    fs'.at? l = some (.file c) ∨ l = fs.placeOf (draftPath path) ∨
      l = fs.placeOf path ∧ written ≠ none

/-- A file is written, and its draft is gone. -/
structure Delivers (path text : String) (fs fs' : FileSystem) : Prop where
  leaves : Leaves path (some (.text text)) fs fs'
  enters : fs'.Enters fs'.current (Path.components path).dropLast
  file : fs'.at? (fs.placeOf path) = some (.file (.text text))
  draft : fs'.at? (fs.placeOf (draftPath path)) = none

theorem Leaves.of_grows {written : Option Content} (h : Grows fs fs') :
    Leaves path written fs fs' :=
  ⟨h.plain, h.current_eq, fun _ => h.hasDirectory, fun _ _ hfile => .inl (h.file hfile),
    fun l _ hfile => .inl (h.kept l _ hfile)⟩

/-- Directories that are added first make no difference. -/
theorem Leaves.after {written : Option Content} (hgrows : Grows fs ready)
    (h : Leaves path written ready fs') : Leaves path written fs fs' := by
  have hplace := placeOf_congr hgrows.current_eq
  refine ⟨h.plain, h.current_eq.trans hgrows.current_eq,
    fun l hl => h.directories l (hgrows.hasDirectory hl), fun l c hfile => ?_, fun l c hfile => ?_⟩
  · rw [← hplace]
    exact (h.new l c hfile).imp_left hgrows.file
  · rw [← hplace, ← hplace]
    exact h.kept l c (hgrows.kept l _ hfile)

theorem Delivers.after (hgrows : Grows fs ready) (h : Delivers path text ready fs') :
    Delivers path text fs fs' := by
  have hplace := placeOf_congr hgrows.current_eq
  refine ⟨.after hgrows h.leaves, h.enters, ?_, ?_⟩
  · rw [← hplace]
    exact h.file
  · rw [← hplace]
    exact h.draft

/-! ## Writing -/

section Writing

variable (h : ready.Plain) (hdrafted : ready.writeText (draftPath path) text = .ok drafted)
include h hdrafted

theorem at?_removeTree_drafted (l : Location) :
    (drafted.removeTree (ready.placeOf (draftPath path))).at? l =
      if l = ready.placeOf (draftPath path) then none else ready.at? l := by
  have hfile : drafted.at? (ready.placeOf (draftPath path)) = some (.file (.text text)) := by
    rw [at?_written h hdrafted, if_pos rfl]
  rw [(plain_write h hdrafted).at?_removeTree (not_hasDirectory_of_file hfile),
    at?_written h hdrafted]
  split <;> rfl

/-- **A file whose draft is taken away again leaves no more than its draft's directory.** -/
theorem leaves_removed :
    Leaves path none ready (drafted.removeTree (ready.placeOf (draftPath path))) := by
  have hat := at?_removeTree_drafted h hdrafted
  have hcurrent := current_written h hdrafted
  refine ⟨(plain_write h hdrafted).removeTree _, hcurrent,
    fun l hl => ?_, fun l c hfile => .inl ?_, fun l c hfile => ?_⟩
  · have hne : l ≠ ready.placeOf (draftPath path) := by
      rintro rfl
      exact (hasDirectory_of_write h hdrafted).1 hl
    exact (hasDirectory_congr ((hat l).trans (if_neg hne))).trans hl
  · rw [hat] at hfile
    split at hfile
    · cases hfile
    · exact hfile
  · rw [hat]
    by_cases hl : l = ready.placeOf (draftPath path)
    · exact .inr (.inl hl)
    · exact .inl ((if_neg hl).trans hfile)

/-! The draft is moved to the place of the file. -/

section Moving

variable {moved : FileSystem} (hmoved : drafted.moveFile (draftPath path) path = .ok moved)
include hmoved

theorem moved_eq : moved = (drafted.removeTree (ready.placeOf (draftPath path))).put
    (ready.placeOf path) (.file (.text text)) := by
  obtain ⟨e, he, rfl⟩ := moveFile_eq_ok (plain_write h hdrafted).linkless hmoved
  have hplace := placeOf_congr (current_written h hdrafted)
  rw [hplace, at?_written h hdrafted, if_pos rfl] at he
  obtain rfl := Option.some.inj he
  rw [hplace, hplace]

theorem current_moved : moved.current = ready.current := by
  have hdraft := current_written h hdrafted
  rw [moved_eq h hdrafted hmoved]
  exact hdraft

/-- A draft is moved to where no directory is, in a directory. -/
theorem hasDirectory_of_moved : ¬ ready.hasDirectory (ready.placeOf path) = true ∧
    ready.hasDirectory (ready.placeOf path).dropLast = true := by
  obtain ⟨hno, habove⟩ := hasDirectory_of_moveFile (plain_write h hdrafted) hmoved
  rw [placeOf_congr (current_written h hdrafted), hasDirectory_written h hdrafted] at hno habove
  exact ⟨hno, habove⟩

/-- Other locations than those of the file and its draft are as they were. -/
theorem at?_moved (l : Location) : moved.at? l =
    if l = ready.placeOf path then some (.file (.text text))
    else if l = ready.placeOf (draftPath path) then none else ready.at? l := by
  have hroot := ne_nil_of_not_hasDirectory (hasDirectory_of_moved h hdrafted hmoved).1
  rw [moved_eq h hdrafted hmoved, at?_put, at?_removeTree_drafted h hdrafted]
  by_cases hl : l = ready.placeOf path
  · rw [if_pos ⟨hl ▸ hroot, hl⟩, if_pos hl]
  · rw [if_neg (fun hboth => hl hboth.2), if_neg hl]

theorem hasDirectory_moved (l : Location) (hl : ready.hasDirectory l = true) :
    moved.hasDirectory l = true := by
  have hfile : l ≠ ready.placeOf path := by
    rintro rfl
    exact (hasDirectory_of_moved h hdrafted hmoved).1 hl
  have hdraft : l ≠ ready.placeOf (draftPath path) := by
    rintro rfl
    exact (hasDirectory_of_write h hdrafted).1 hl
  have hsame := (at?_moved h hdrafted hmoved l).trans ((if_neg hfile).trans (if_neg hdraft))
  exact (hasDirectory_congr hsame).trans hl

end Moving

variable (hpath : Path.Named path)
include hpath

/-- The directory of a file is entered once its draft is written. -/
theorem enters_drafted : drafted.Enters drafted.current (Path.components path).dropLast := by
  have henters := enters_written (named_draftPath path) h hdrafted
  rwa [dropLast_components_draftPath hpath] at henters

/-- The draft can be taken away again. -/
theorem removeFile_drafted : drafted.removeFile (draftPath path) =
    .ok (drafted.removeTree (ready.placeOf (draftPath path))) := by
  have henters := enters_drafted h hdrafted hpath
  rw [← dropLast_components_draftPath hpath] at henters
  have hplace := placeOf_congr (current_written h hdrafted) (draftPath path)
  have hfind : drafted.find false (draftPath path) = .ok (drafted.targetAt _) :=
    find_of_enters (named_draftPath path) (plain_write h hdrafted).linkless henters
  rw [hplace, targetAt, at?_written h hdrafted, if_pos rfl] at hfind
  rw [removeFile, hfind]

theorem plain_moved {moved : FileSystem}
    (hmoved : drafted.moveFile (draftPath path) path = .ok moved) : moved.Plain := by
  obtain ⟨hno, habove⟩ := hasDirectory_of_moved h hdrafted hmoved
  have hleft := leaves_removed h hdrafted
  have hapart : ready.placeOf path ≠ ready.placeOf (draftPath path) :=
    Ne.symm (placeOf_draftPath_ne hpath)
  have hsame := (at?_removeTree_drafted h hdrafted (ready.placeOf path)).trans (if_neg hapart)
  rw [moved_eq h hdrafted hmoved]
  refine hleft.plain.put (hleft.directories _ habove) nofun fun hl => absurd ?_ hno
  exact (hasDirectory_congr hsame).symm.trans hl

/-- **A file whose draft is moved to its place is delivered.** -/
theorem delivers_moved {moved : FileSystem}
    (hmoved : drafted.moveFile (draftPath path) path = .ok moved) :
    Delivers path text ready moved := by
  have hat := at?_moved h hdrafted hmoved
  have hcurrent := current_moved h hdrafted hmoved
  have hdirectory := hasDirectory_moved h hdrafted hmoved
  refine ⟨⟨plain_moved h hdrafted hpath hmoved, hcurrent, hdirectory,
    fun l c hfile => ?_, fun l c hfile => ?_⟩, ?_, ?_, ?_⟩
  · rw [hat] at hfile
    split at hfile
    · next hl => exact .inr ⟨hl, congrArg some (Entry.file.inj (Option.some.inj hfile))⟩
    · split at hfile
      · cases hfile
      · exact .inl hfile
  · rw [hat]
    split
    · next hl => exact .inr (.inr ⟨hl, nofun⟩)
    · split
      · next hl => exact .inr (.inl hl)
      · exact .inl hfile
  · have henters := enters_drafted h hdrafted hpath
    rw [current_written h hdrafted, ← hcurrent] at henters
    exact henters.mono fun l hl => hdirectory l ((hasDirectory_written h hdrafted l).symm.trans hl)
  · rw [hat, if_pos rfl]
  · rw [hat, if_neg (placeOf_draftPath_ne hpath), if_pos rfl]

end Writing

/-- **A file is delivered, or it fails and leaves everything but its draft as it was.** -/
theorem writeWhole_cases (h : fs.Plain) (hpath : Path.Named path) (text : String) :
    (fs.writeWhole path text).2 = none ∧ Delivers path text fs (fs.writeWhole path text).1 ∨
      ∃ fault, (fs.writeWhole path text).2 = some fault ∧
        Leaves path none fs (fs.writeWhole path text).1 := by
  have hgrows := grows_withParent h path
  rw [writeWhole]
  split
  · next ready fault heq =>
    rw [heq] at hgrows
    exact .inr ⟨fault, rfl, .of_grows hgrows⟩
  · next ready heq =>
    rw [heq] at hgrows
    simp only
    split
    · next fault _ => exact .inr ⟨fault, rfl, .of_grows hgrows⟩
    · next drafted hdrafted =>
      split
      · next moved hmoved =>
        exact .inl ⟨rfl, .after hgrows (delivers_moved hgrows.plain hdrafted hpath hmoved)⟩
      · next fault _ =>
        refine .inr ⟨fault, rfl, ?_⟩
        have hremoved : drafted.removeFile (Path.withFileName path (draftName path)) = _ :=
          removeFile_drafted hgrows.plain hdrafted hpath
        rw [hremoved]
        exact .after hgrows (leaves_removed hgrows.plain hdrafted)

end FileSystem

end InterfaceGen
