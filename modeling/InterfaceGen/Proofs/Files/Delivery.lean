import InterfaceGen.Proofs.Files.Fates
import Mathlib.Data.List.Nodup

/-!
# Proofs/Files/Delivery — each file is written, skipped or reported, and stays as it was left

Files of one list can be in each other's way, but no file is at the place of another, and none at
the place of a draft. So what a file was left like is what it is like at the end (`Delivered`), no
draft remains, and if nothing was reported then a second run that leaves files alone finds all of
them there. Main statement: `delivery_writeAll`.
-/

namespace InterfaceGen

/-! ## Places below a root -/

namespace Path

variable {path other : String} {names others : List Component} {l : Location}

theorem place_eq_append (h : ∀ c ∈ names, ∃ name, c = .normal name) (l : Location) :
    place l names = l ++ names.map Component.spelling := by
  induction names generalizing l with
  | nil => exact (List.append_nil l).symm
  | cons c names ih =>
    obtain ⟨⟨name, rfl⟩, hrest⟩ := List.forall_mem_cons.1 h
    have hplace : place l (.normal name :: names) = place (l ++ [name]) names := rfl
    rw [hplace, ih hrest, List.append_assoc]
    rfl

/-- **Different names lead to different places.** -/
theorem place_injective (hnames : ∀ c ∈ names, ∃ name, c = .normal name)
    (hothers : ∀ c ∈ others, ∃ name, c = .normal name) (h : place l names = place l others) :
    names = others := by
  rw [place_eq_append hnames, place_eq_append hothers] at h
  have hback : ∀ cs : List Component, (∀ c ∈ cs, ∃ name, c = .normal name) →
      (cs.map Component.spelling).map .normal = cs := by
    intro cs hcs
    rw [List.map_map]
    refine (List.map_congr_left (g := id) fun c hc => ?_).trans (List.map_id cs)
    obtain ⟨name, rfl⟩ := hcs c hc
    rfl
  rw [← hback names hnames, ← hback others hothers, List.append_cancel_left h]

theorem Resolves.named {destination : String} (h : Resolves destination path) : Named path :=
  h.descends.named h.spelling

/-- A path that leads down ends with a name also below a root. -/
theorem Resolves.named_join {destination : String} (h : Resolves destination path) (root : String) :
    Named (Path.join root path) := by
  refine h.named.join (fun hstart => ?_) root
  have hlead := h.descends.lead_eq_nil
  rw [lead, if_pos hstart] at hlead
  exact absurd hlead (List.cons_ne_nil _ _)

theorem Descends.dropLast_append (h : Descends path) (name : String) :
    ∀ c ∈ (components path).dropLast ++ [Component.normal name], ∃ name, c = .normal name := by
  intro c hc
  rcases List.mem_append.1 hc with hc | hc
  · exact h.names c ((List.dropLast_prefix _).mem hc)
  · exact ⟨name, List.mem_singleton.1 hc⟩

end Path

namespace FileSystem

variable {fs fs' begun after : FileSystem} {root path other destination elsewhere : String}
  {keep : Bool} {fates front back : Fates} {x y : (String × String) × Fate} {l : Location}
  {c : Content} {files : List (String × String)}

theorem placeOf_join (h : Path.Descends path) : fs.placeOf (Path.join root path) =
    Path.place (fs.placeOf root) (Path.components path) := by
  rw [placeOf, Path.components_join h.lead_eq_nil, Path.place_append, placeOf]

/-- **Different paths lead to different places below a root.** -/
theorem eq_of_placeOf_join (hpath : Path.Resolves destination path)
    (hother : Path.Resolves elsewhere other)
    (h : fs.placeOf (Path.join root path) = fs.placeOf (Path.join root other)) : path = other := by
  rw [placeOf_join hpath.descends, placeOf_join hother.descends] at h
  rw [← hpath.spelling, ← hother.spelling,
    Path.place_injective hpath.descends.names hother.descends.names h]

/-- The draft of a file below a root is at the place of the file's draft. -/
theorem placeOf_draftPath_join (h : Path.Resolves destination path) :
    fs.placeOf (draftPath (Path.join root path)) =
      Path.place (fs.placeOf root) (Path.components (draftPath path)) := by
  have hcomponents : Path.components (Path.join root path) =
      Path.components root ++ Path.components path := Path.components_join h.descends.lead_eq_nil
  have hname : draftName (Path.join root path) = draftName path := by
    have hlast := List.getLast?_eq_some_getLast h.descends.ne_nil
    rw [draftName, draftName, Path.fileName?, hcomponents, List.getLast?_append, hlast,
      Option.some_or, Path.fileName?, hlast]
  rw [placeOf, components_draftPath (h.named_join root), hcomponents, hname,
    List.dropLast_append_of_ne_nil h.descends.ne_nil, List.append_assoc, Path.place_append,
    components_draftPath h.named, placeOf]

/-- A file that is at the place of a draft is named like it. -/
theorem same_of_placeOf_draftPath (hpath : Path.Resolves destination path)
    (hother : Path.Resolves elsewhere other)
    (h : fs.placeOf (draftPath (Path.join root path)) = fs.placeOf (Path.join root other)) :
    Path.same other (draftPath path) = true := by
  have hdraft := components_draftPath hpath.named
  rw [placeOf_draftPath_join hpath, placeOf_join hother.descends] at h
  rw [Path.same, decide_eq_true_eq]
  refine (Path.place_injective ?_ hother.descends.names h).symm
  rw [hdraft]
  exact hpath.descends.dropLast_append _

/-! ## The root is emptied first -/

/-- The files when the writing begins, and what was reported by then. -/
def begin (fs : FileSystem) (root : String) (options : WriteOptions) :
    FileSystem × List Diagnostic :=
  if options.delete then fs.clear root else (fs, [])

/-- What becomes of a tree from which entries are taken away. -/
structure Shrinks (fs fs' : FileSystem) : Prop where
  plain : fs'.Plain
  current_eq : fs'.current = fs.current
  kept : ∀ l e, fs'.at? l = some e → fs.at? l = some e

namespace Shrinks

theorem refl (h : fs.Plain) : Shrinks fs fs := ⟨h, rfl, fun _ _ => id⟩

theorem trans (h : Shrinks fs begun) (h' : Shrinks begun fs') : Shrinks fs fs' :=
  ⟨h'.plain, h'.current_eq.trans h.current_eq, fun l e he => h.kept l e (h'.kept l e he)⟩

theorem removeTree (h : fs.Plain) (l : Location) : Shrinks fs (fs.removeTree l) := by
  refine ⟨h.removeTree l, rfl, fun m e he => ?_⟩
  rw [at?_removeTree] at he
  split at he
  · cases he
  · exact he

theorem foldl_removeTree (h : fs.Plain) (top : Location) (names : List String) :
    Shrinks fs (names.foldl (fun fs name => fs.removeTree (top ++ [name])) fs) := by
  induction names generalizing fs with
  | nil => exact .refl h
  | cons name names ih =>
    have hfirst : Shrinks fs (fs.removeTree (top ++ [name])) := .removeTree h _
    exact hfirst.trans (ih hfirst.plain)

end Shrinks

/-- **Emptying a directory only takes entries away.** -/
theorem shrinks_clear (h : fs.Plain) (root : String) : Shrinks fs (fs.clear root).1 := by
  rw [clear]
  split
  · exact .refl h
  · exact .refl h
  · exact .foldl_removeTree h _ _

theorem shrinks_begin (h : fs.Plain) (root : String) (options : WriteOptions) :
    Shrinks fs (fs.begin root options).1 := by
  rw [begin]
  split
  · exact shrinks_clear h root
  · exact .refl h

/-! ## What files are like in the end -/

/-- Files with different paths that destinations lead to meet their fates. -/
theorem exists_fates (hplain : fs.Plain) (root : String) (keep : Bool)
    (hlegal : ∀ f ∈ files, ∃ destination, destinationPath destination = .ok f.1)
    (hdistinct : (files.map (·.1)).Nodup) :
    ∃ fates : Fates, fates.map (·.1) = files ∧ (fates.map (·.1.1)).Nodup ∧
      (∀ x ∈ fates, ∃ destination, Path.Resolves destination x.1.1) ∧
        Meets root keep fates fs (fs.writeEach root keep files).1 ∧
          fates.Tallies root [] (fs.writeEach root keep files).2 := by
  have hresolves : ∀ f ∈ files, ∃ destination, Path.Resolves destination f.1 := fun f hf =>
    (hlegal f hf).imp fun _ => destinationPath_eq_ok_iff.1
  have hnamed : ∀ f ∈ files, Path.Named (Path.join root f.1) := fun f hf =>
    (hresolves f hf).elim fun _ hpath => hpath.named_join root
  obtain ⟨fates, hfates, hmeets, htallies⟩ := exists_meets hplain root keep hnamed
  refine ⟨fates, hfates, ?_, fun x hx => hresolves x.1 (hfates ▸ List.mem_map_of_mem hx), hmeets,
    htallies⟩
  rwa [← hfates, List.map_map] at hdistinct

/-- What a file of some fate is like after the writing: it is read as it was written, or it is there
and was not touched, or it is no file unless it was one before, with the same content. -/
def Delivered (root : String) (begun after : FileSystem) : (String × String) × Fate → Prop
  | (f, .written) => after.readText (Path.join root f.1) = .ok f.2
  | (f, .skipped) => after.exists? (Path.join root f.1) = true ∧
      ∀ l c, after.locate (Path.join root f.1) = .ok (l, .file c) → begun.at? l = some (.file c)
  | (f, .failed _) =>
      ∀ l c, after.locate (Path.join root f.1) = .ok (l, .file c) → begun.at? l = some (.file c)

/-- A file that can be read is there. -/
theorem exists?_of_readText {text : String} (h : fs.readText path = .ok text) :
    fs.exists? path = true := by
  rw [readText] at h
  split at h
  · next hlocate => exact exists?_eq_true_iff.2 ⟨_, _, hlocate⟩
  · cases h
  · cases h
  · cases h

section Meets

variable (hmeets : Meets root keep fates begun after) (hplain : begun.Plain)
  (hlegal : ∀ x ∈ fates, ∃ destination, Path.Resolves destination x.1.1)
  (hnodup : (fates.map (·.1.1)).Nodup)
include hmeets hplain hlegal hnodup

omit hmeets hplain in
/-- Two files with fates at one place are the same. -/
theorem eq_of_place (hx : x ∈ fates) (hy : y ∈ fates) (hplace : begun.placeOf
    (Path.join root x.1.1) = begun.placeOf (Path.join root y.1.1)) : x = y := by
  obtain ⟨_, hpath⟩ := hlegal x hx
  obtain ⟨_, hother⟩ := hlegal y hy
  exact List.inj_on_of_nodup_map hnodup hx hy (eq_of_placeOf_join hpath hother hplace)

/-- **A file that was not written was there when the writing began.** -/
theorem old_of_meets (hx : x ∈ fates) (hfate : x.2 ≠ .written)
    (hlocate : after.locate (Path.join root x.1.1) = .ok (l, .file c)) :
    begun.at? l = some (.file c) := by
  obtain ⟨_, hpath⟩ := hlegal x hx
  obtain ⟨rfl, hfile⟩ := locate_eq_ok (hmeets.plain hplain).linkless hlocate
  rcases hmeets.new hfile with hold | ⟨y, hy, hwritten, hplace, -⟩
  · exact hold
  · rw [placeOf_congr hmeets.current_eq] at hplace
    exact absurd (eq_of_place hlegal hnodup hx hy hplace ▸ hwritten) hfate

omit hmeets hplain in
/-- What a file was left like is not touched by the files after it. -/
theorem kept_after (hdrafts : ∀ y ∈ fates, Path.same x.1.1 (draftPath y.1.1) = false)
    (hsplit : fates = front ++ x :: back) {left : FileSystem}
    (hback : Meets root keep back left after)
    (hfile : left.at? (left.placeOf (Path.join root x.1.1)) = some (.file c)) :
    after.at? (left.placeOf (Path.join root x.1.1)) = some (.file c) := by
  subst hsplit
  obtain ⟨_, hpath⟩ := hlegal x (List.mem_append_right _ List.mem_cons_self)
  refine (hback.kept hfile).resolve_right ?_
  rintro ⟨y, hy, hlost⟩
  have hmem : y ∈ front ++ x :: back := List.mem_append_right _ (List.mem_cons_of_mem _ hy)
  obtain ⟨_, hother⟩ := hlegal y hmem
  rcases hlost with ⟨-, hdraft⟩ | ⟨-, hplace⟩
  · exact Bool.eq_false_iff.1 (hdrafts y hmem) (same_of_placeOf_draftPath hother hpath hdraft.symm)
  · rw [List.map_append, List.map_cons] at hnodup
    have hx := (List.nodup_cons.1 (List.nodup_append.1 hnodup).2.1).1
    rw [eq_of_placeOf_join hpath hother hplace] at hx
    exact hx (List.mem_map_of_mem hy)

/-- **A file that was written is read as it was written.** -/
theorem readText_of_meets (hdrafts : ∀ y ∈ fates, Path.same x.1.1 (draftPath y.1.1) = false)
    (hx : x ∈ fates) (hfate : x.2 = .written) :
    after.readText (Path.join root x.1.1) = .ok x.1.2 := by
  obtain ⟨_, hpath⟩ := hlegal x hx
  obtain ⟨front, back, hsplit⟩ := List.append_of_mem hx
  obtain ⟨before, done, hfront, hone, hback⟩ := (hsplit ▸ hmeets).split
  have hdelivers : Delivers (Path.join root x.1.1) x.1.2 before done := by
    rw [hfate] at hone
    cases hone with
    | written _ h => exact h
  have hfile := hdelivers.file
  rw [← placeOf_congr hone.current_eq] at hfile
  rw [readText_iff (hpath.named_join root) (hmeets.plain hplain), placeOf_congr hback.current_eq]
  exact ⟨hback.enters hdelivers.enters, kept_after hlegal hnodup hdrafts hsplit hback hfile⟩

/-- **A file that was skipped is there.** -/
theorem exists?_of_meets (hdrafts : ∀ y ∈ fates, Path.same x.1.1 (draftPath y.1.1) = false)
    (hx : x ∈ fates) (hfate : x.2 = .skipped) :
    after.exists? (Path.join root x.1.1) = true := by
  obtain ⟨_, hpath⟩ := hlegal x hx
  have hnamed := hpath.named_join root
  obtain ⟨front, back, hsplit⟩ := List.append_of_mem hx
  obtain ⟨before, done, hfront, hone, hback⟩ := (hsplit ▸ hmeets).split
  obtain ⟨hold, rfl⟩ : before.exists? (Path.join root x.1.1) = true ∧ done = before := by
    rw [hfate] at hone
    cases hone with
    | skipped _ hold => exact ⟨hold, rfl⟩
  obtain ⟨henters, hsome⟩ := (exists?_iff hnamed (hfront.plain hplain)).1 hold
  rw [exists?_iff hnamed (hmeets.plain hplain), placeOf_congr hback.current_eq]
  refine ⟨hback.enters henters, ?_⟩
  obtain ⟨e, he⟩ := Option.ne_none_iff_exists'.1 hsome
  cases e with
  | directory readonly =>
    obtain ⟨_, hdirectory⟩ :=
      hasDirectory_iff.1 (hback.hasDirectory (hasDirectory_iff.2 ⟨readonly, he⟩))
    rw [hdirectory]
    exact Option.some_ne_none _
  | file content =>
    rw [kept_after hlegal hnodup hdrafts hsplit hback he]
    exact Option.some_ne_none _
  | link target => exact absurd he ((hfront.plain hplain).linkless _ _)

omit hplain hnodup in
/-- **What is at the place of a draft was there when the writing began**, and nothing is if its file
was written. -/
theorem draft_of_meets (hdrafts : ∀ y ∈ fates, Path.same y.1.1 (draftPath x.1.1) = false)
    (hx : x ∈ fates)
    (hfile : after.at? (begun.placeOf (draftPath (Path.join root x.1.1))) = some (.file c)) :
    x.2 ≠ .written ∧
      begun.at? (begun.placeOf (draftPath (Path.join root x.1.1))) = some (.file c) := by
  obtain ⟨_, hpath⟩ := hlegal x hx
  -- no file of the list is written at the place of a draft
  have hold : ∀ {mid : FileSystem} {others : Fates}, mid.current = begun.current →
      (∀ y ∈ others, y ∈ fates) → Meets root keep others mid after →
        mid.at? (begun.placeOf (draftPath (Path.join root x.1.1))) = some (.file c) := by
    intro mid others hcurrent hsub hothers
    rcases hothers.new hfile with hmid | ⟨y, hy, -, hplace, -⟩
    · exact hmid
    · obtain ⟨_, hother⟩ := hlegal y (hsub y hy)
      rw [placeOf_congr hcurrent] at hplace
      have hsame := same_of_placeOf_draftPath hpath hother hplace
      exact absurd hsame (Bool.eq_false_iff.1 (hdrafts y (hsub y hy)))
  refine ⟨fun hfate => ?_, hold rfl (fun _ => id) hmeets⟩
  obtain ⟨front, back, hsplit⟩ := List.append_of_mem hx
  obtain ⟨before, done, hfront, hone, hback⟩ := (hsplit ▸ hmeets).split
  have hcurrent := hone.current_eq.trans hfront.current_eq
  have hback := hold hcurrent (fun y hy => hsplit ▸ List.mem_append_right _
    (List.mem_cons_of_mem _ hy)) hback
  rw [hfate] at hone
  cases hone with
  | written _ h =>
    rw [← placeOf_congr hfront.current_eq, h.draft] at hback
    cases hback

/-- What a file is like after the writing is said by its fate. -/
theorem delivered_of_meets (hdrafts : ∀ y ∈ fates, Path.same x.1.1 (draftPath y.1.1) = false)
    (hx : x ∈ fates) : Delivered root begun after x := by
  have hwritten := readText_of_meets hmeets hplain hlegal hnodup hdrafts hx
  have hskipped := exists?_of_meets hmeets hplain hlegal hnodup hdrafts hx
  have hold : x.2 ≠ .written → ∀ l c, after.locate (Path.join root x.1.1) = .ok (l, .file c) →
      begun.at? l = some (.file c) :=
    fun hfate l c hlocate => old_of_meets hmeets hplain hlegal hnodup hx hfate hlocate
  obtain ⟨f, fate⟩ := x
  cases fate with
  | written => exact hwritten rfl
  | skipped => exact ⟨hskipped rfl, hold nofun⟩
  | failed fault => exact hold nofun

end Meets

/-- What did not fail is there. -/
theorem Delivered.exists? (h : Delivered root begun after x) (hfate : x.2.fault? = none) :
    after.exists? (Path.join root x.1.1) = true := by
  obtain ⟨f, fate⟩ := x
  cases fate with
  | written => exact exists?_of_readText h
  | skipped => exact h.1
  | failed fault => cases hfate

/-! ## A second run -/

/-- Files that are all there are skipped if they are to be left alone. -/
theorem writeEach_of_exists (h : ∀ f ∈ files, fs.exists? (Path.join root f.1) = true) :
    fs.writeEach root true files = (fs, ⟨[], files.map (·.1), []⟩) := by
  induction files with
  | nil => rfl
  | cons f files ih =>
    obtain ⟨hfirst, hrest⟩ := List.forall_mem_cons.1 h
    have hone : fs.writeOne root true f.1 f.2 = (fs, ⟨[], [f.1], []⟩) := if_pos hfirst
    rw [writeEach, hone]
    simp only [ih hrest]
    rfl

/-! ## Delivery -/

/-- What becomes of a list of files that is written below a root, by the fates of the files. -/
structure Delivery (fs : FileSystem) (root : String) (options : WriteOptions)
    (files : List (String × String)) (fates : Fates) : Prop where
  /-- Each file has one fate, -/
  files_eq : fates.map (·.1) = files
  /-- and is listed or reported by it, after what was reported while the root was emptied. -/
  tallies : fates.Tallies root (fs.begin root options).2 (fs.writeAll root options files).2
  /-- What is there when the writing begins was there before. -/
  begun : ∀ l e, (fs.begin root options).1.at? l = some e → fs.at? l = some e
  delivered : ∀ x ∈ fates,
    Delivered root (fs.begin root options).1 (fs.writeAll root options files).1 x
  /-- What is at the place of a draft was there when the writing began; if the file was written,
  nothing is. -/
  drafts : ∀ x ∈ fates, ∀ c, (fs.writeAll root options files).1.at?
      (fs.placeOf (draftPath (Path.join root x.1.1))) = some (.file c) →
    x.2 ≠ .written ∧ (fs.begin root options).1.at?
      (fs.placeOf (draftPath (Path.join root x.1.1))) = some (.file c)
  /-- If nothing was reported, a second run leaves every file alone. -/
  again : (fs.writeAll root options files).2.reported = [] →
    (fs.writeAll root options files).1.writeAll root ⟨false, true⟩ files =
      ((fs.writeAll root options files).1, ⟨[], files.map (·.1), []⟩)

end FileSystem

open FileSystem

/-- **Every file is written, skipped or reported, and stays as it was left.** The files have
different paths that destinations lead to, and none is named like the draft of another; they may be
in each other's way, and so may what is there. -/
theorem delivery_writeAll {fs : FileSystem} (h : fs.Plain) (root : String) (options : WriteOptions)
    {files : List (String × String)}
    (hlegal : ∀ f ∈ files, ∃ destination, destinationPath destination = .ok f.1)
    (hdistinct : (files.map (·.1)).Nodup)
    (hdrafts : ∀ f ∈ files, ∀ g ∈ files, Path.same g.1 (draftPath f.1) = false) :
    ∃ fates, Delivery fs root options files fates := by
  obtain ⟨hplain, hcurrent, hbegun⟩ := shrinks_begin h root options
  obtain ⟨fates, hfates, hnodup, hpaths, hmeets, htallies⟩ :=
    exists_fates hplain root options.keep hlegal hdistinct
  replace hmeets : Meets root options.keep fates (fs.begin root options).1
    (fs.writeAll root options files).1 := hmeets
  replace htallies : fates.Tallies root (fs.begin root options).2
      (fs.writeAll root options files).2 :=
    ⟨htallies.written_eq, htallies.skipped_eq, congrArg _ htallies.reported_eq⟩
  have hmem : ∀ x ∈ fates, x.1 ∈ files := fun x hx => hfates ▸ List.mem_map_of_mem hx
  have hothers : ∀ x ∈ fates, ∀ y ∈ fates, Path.same x.1.1 (draftPath y.1.1) = false :=
    fun x hx y hy => hdrafts y.1 (hmem y hy) x.1 (hmem x hx)
  have hdelivered : ∀ x ∈ fates, Delivered root (fs.begin root options).1
      (fs.writeAll root options files).1 x := fun x hx =>
    delivered_of_meets hmeets hplain hpaths hnodup (hothers x hx) hx
  refine ⟨fates, hfates, htallies, hbegun, hdelivered, fun x hx c hfile => ?_, fun hnone => ?_⟩
  · rw [← placeOf_congr hcurrent] at hfile ⊢
    exact draft_of_meets hmeets hpaths (fun y hy => hothers y hy x hx) hx hfile
  · refine writeEach_of_exists fun f hf => ?_
    rw [← hfates] at hf
    obtain ⟨x, hx, rfl⟩ := List.mem_map.1 hf
    rw [htallies.reported_eq] at hnone
    have hfault := List.filterMap_eq_nil_iff.1 (List.append_eq_nil_iff.1 hnone).2 x hx
    exact (hdelivered x hx).exists? (Option.map_eq_none_iff.1 hfault)

/-- A working directory with a directory where a file goes and a file where a directory goes. -/
def crowdedFileSystem : FileSystem :=
  ⟨[(["work"], .directory false), (["work", "lib"], .directory false),
    (["work", "notes"], .file (.text "mine")), (["work", ".new.rs.kmd-tmp"], .file (.text "left"))],
    ["work"]⟩

/-- Files of which one goes where a directory is and one below it where a file is. -/
def crowdedFiles : List (String × String) :=
  [("lib", "1"), ("a", "2"), ("a/b", "3"), ("notes/c", "4"), ("new.rs", "5")]

/-- Files that are in each other's way do no harm to the others. -/
theorem delivery_writeAll_crowded :
    crowdedFileSystem.Plain ∧
      (∀ f ∈ crowdedFiles, ∃ destination, destinationPath destination = .ok f.1) ∧
      (crowdedFiles.map (·.1)).Nodup ∧
      (∀ f ∈ crowdedFiles, ∀ g ∈ crowdedFiles,
        Path.same g.1 (FileSystem.draftPath f.1) = false) ∧
      (crowdedFileSystem.writeAll "" ⟨false, false⟩ crowdedFiles).2.written = ["a", "new.rs"] ∧
      ∃ fates, FileSystem.Delivery crowdedFileSystem "" ⟨false, false⟩ crowdedFiles fates := by
  have hplain : crowdedFileSystem.Plain :=
    FileSystem.plain_of_entries (by simp [crowdedFileSystem]) (by decide +kernel)
  have hlegal : ∀ f ∈ crowdedFiles, ∃ destination, destinationPath destination = .ok f.1 := by
    refine fun f hf => ⟨f.1, ?_⟩
    revert f
    decide +kernel
  have hdistinct : (crowdedFiles.map (·.1)).Nodup := by decide
  have hdrafts : ∀ f ∈ crowdedFiles, ∀ g ∈ crowdedFiles,
      Path.same g.1 (FileSystem.draftPath f.1) = false := by decide +kernel
  exact ⟨hplain, hlegal, hdistinct, hdrafts, by decide +kernel,
    delivery_writeAll hplain "" ⟨false, false⟩ hlegal hdistinct hdrafts⟩

end InterfaceGen
