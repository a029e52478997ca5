import InterfaceGen.Proofs.Destinations
import InterfaceGen.Proofs.Files.Place
import InterfaceGen.Writing

/-!
# Proofs/Files/Confined — what is written below a root changes nothing outside it

Without links an operation changes the place of its path only. The paths of drafts, of files and of
what is cleared away lie below the root, and directories are made on the way to them. So nothing
outside the root changes, except that missing directories on the way there are made (`Confined`),
however far the writing gets. Main statement: `keepsOutside_writeAll`.
-/

namespace InterfaceGen

/-- A location is below another one. -/
def Location.Below (top l : Location) : Prop := top <+: l ∧ top ≠ l

namespace FileSystem

variable {fs fs' fs'' : FileSystem} {root : List Component} {l m : Location} {e : Entry}

/-! ## The frame -/

/-- What becomes of a file system without links if nothing changes outside the directory with the
components `root`, except that missing directories on the way there are made. -/
structure Confined (root : List Component) (fs fs' : FileSystem) : Prop where
  current_eq : fs'.current = fs.current
  linkless : fs'.Linkless
  kept : ∀ l, ¬ Location.Below (Path.place fs.current root) l → fs'.at? l = fs.at? l ∨
    fs.at? l = none ∧ fs'.at? l = some (.directory false) ∧
      ∃ front, front <+: root ∧ l = Path.place fs.current front

namespace Confined

theorem refl (h : fs.Linkless) : Confined root fs fs := ⟨rfl, h, fun _ _ => .inl rfl⟩

/-- **Changes that are confined are confined one after the other.** -/
theorem trans (h : Confined root fs fs') (h' : Confined root fs' fs'') : Confined root fs fs'' := by
  refine ⟨h'.current_eq.trans h.current_eq, h'.linkless, fun l hl => ?_⟩
  have hkept' := h'.kept l
  rw [h.current_eq] at hkept'
  rcases hkept' hl with hsame | ⟨hnone, hmade, hfront⟩
  · rw [hsame]
    exact h.kept l hl
  · rcases h.kept l hl with hsame | ⟨-, hmade', -⟩
    · rw [hsame] at hnone
      exact .inr ⟨hnone, hmade, hfront⟩
    · rw [hnone] at hmade'
      cases hmade'

/-- Putting a file or directory below the root is confined. -/
theorem put (h : fs.Linkless) (hl : Location.Below (Path.place fs.current root) l)
    (he : ∀ target, e ≠ .link target) : Confined root fs (fs.put l e) := by
  refine ⟨rfl, h.put l he, fun m hm => .inl ?_⟩
  rw [at?_put]
  refine if_neg fun ⟨_, heq⟩ => hm ?_
  rwa [heq]

/-- Making a missing directory on the way to the root is confined. -/
theorem putDirectory (h : fs.Linkless) {front : List Component} (hfront : front <+: root)
    (hnone : fs.at? (Path.place fs.current front) = none) :
    Confined root fs (fs.put (Path.place fs.current front) (.directory false)) := by
  refine ⟨rfl, h.put _ nofun, fun m _ => ?_⟩
  rw [at?_put]
  split
  · next hm =>
    obtain ⟨-, rfl⟩ := hm
    exact .inr ⟨hnone, rfl, front, hfront, rfl⟩
  · exact .inl rfl

/-- Taking away what is below the root is confined. -/
theorem removeTree (h : fs.Linkless) (hl : Location.Below (Path.place fs.current root) l) :
    Confined root fs (fs.removeTree l) := by
  refine ⟨rfl, h.removeTree l, fun m hm => .inl ?_⟩
  rw [at?_removeTree]
  refine if_neg fun ⟨_, hlm⟩ => hm ⟨hl.1.trans hlm, ?_⟩
  rintro rfl
  exact hl.2 (hl.1.eq_of_length_le hlm.length_le)

end Confined

/-! ## Paths below the root and on the way there -/

section Paths

variable {base path above : String}

/-- A path leads below another one: names follow its components. -/
def Beneath (base path : String) : Prop :=
  ∃ names, names ≠ [] ∧ (∀ c ∈ names, ∃ name, c = .normal name) ∧
    Path.components path = Path.components base ++ names

/-- A path leads to another one, or below it, or is on the way there. -/
def Toward (base path : String) : Prop :=
  ∃ names, (∀ c ∈ names, ∃ name, c = .normal name) ∧
    Path.components path <+: Path.components base ++ names

/-- What two lists start with is what the first starts with, or goes on into the second. -/
theorem prefix_append_cases {cs front back : List Component} (h : cs <+: front ++ back) :
    cs <+: front ∨ ∃ others, others <+: back ∧ cs = front ++ others := by
  rcases List.prefix_or_prefix_of_prefix h (List.prefix_append front back) with hfront | hback
  · exact .inl hfront
  · obtain ⟨others, rfl⟩ := hback
    exact .inr ⟨others, (List.prefix_append_right_inj front).1 h, rfl⟩

theorem prefix_place {names : List Component} (hnames : ∀ c ∈ names, ∃ name, c = .normal name)
    (l : Location) : l <+: Path.place l names := by
  induction names generalizing l with
  | nil => exact List.prefix_refl l
  | cons c names ih =>
    obtain ⟨⟨name, rfl⟩, hrest⟩ := List.forall_mem_cons.1 hnames
    exact (List.prefix_append l [name]).trans (ih hrest (l ++ [name]))

/-- Names lead below where they start. -/
theorem below_place {names : List Component} (hne : names ≠ [])
    (hnames : ∀ c ∈ names, ∃ name, c = .normal name) (l : Location) :
    Location.Below l (Path.place l names) := by
  obtain ⟨c, rest, rfl⟩ := List.exists_cons_of_ne_nil hne
  obtain ⟨⟨name, rfl⟩, hrest⟩ := List.forall_mem_cons.1 hnames
  have hlength := (prefix_place hrest (l ++ [name])).length_le
  refine ⟨prefix_place hnames l, fun heq => ?_⟩
  have hplace : Path.place l (.normal name :: rest) = Path.place (l ++ [name]) rest := rfl
  rw [← hplace, ← heq, List.length_append, List.length_singleton] at hlength
  omega

theorem Beneath.below (h : Beneath base path) (fs : FileSystem) :
    Location.Below (fs.placeOf base) (fs.placeOf path) := by
  obtain ⟨names, hne, hnames, hpath⟩ := h
  rw [placeOf, placeOf, hpath, Path.place_append]
  exact below_place hne hnames _

theorem Toward.parent (h : Toward base path) (habove : Path.parent? path = some above) :
    Toward base above := by
  obtain ⟨names, hnames, hpath⟩ := h
  refine ⟨names, hnames, ?_⟩
  rw [Path.components_parent habove]
  exact (List.dropLast_prefix _).trans hpath

theorem Beneath.toward (h : Beneath base path) : Toward base path := by
  obtain ⟨names, -, hnames, hpath⟩ := h
  exact ⟨names, hnames, hpath ▸ List.prefix_refl _⟩

/-- A path toward another one is on the way to it, or beneath it. -/
theorem Toward.cases (h : Toward base path) :
    Path.components path <+: Path.components base ∨ Beneath base path := by
  obtain ⟨names, hnames, hpath⟩ := h
  rcases prefix_append_cases hpath with hfront | ⟨others, hothers, heq⟩
  · exact .inl hfront
  · by_cases hnil : others = []
    · rw [hnil, List.append_nil] at heq
      exact .inl (heq ▸ List.prefix_refl _)
    · exact .inr ⟨others, hnil, fun c hc => hnames c (hothers.mem hc), heq⟩

/-- A path that leads down is beneath the root it is joined to. -/
theorem beneath_join (h : Path.Descends path) (base : String) :
    Beneath base (Path.join base path) :=
  ⟨Path.components path, h.ne_nil, h.names, Path.components_join h.lead_eq_nil⟩

end Paths

/-! ## Operations -/

section Operations

variable {base path draft text : String} {made : FileSystem}

theorem confined_makeDirectory (h : fs.Linkless) (hpath : Toward base path)
    (hmade : fs.makeDirectory path = .ok made) : Confined (Path.components base) fs made := by
  obtain ⟨hnone, rfl⟩ := makeDirectory_eq_ok h hmade
  rcases hpath.cases with hfront | hbeneath
  · exact .putDirectory h hfront hnone
  · exact .put h (hbeneath.below fs) nofun

/-- **What each directory that is made keeps, the making of a directory and those above it keeps**,
as far as it gets. Only paths that are reached upwards from the first one are made. -/
theorem makeTreeTo_induction (near : String → Prop) {motive : FileSystem → Prop}
    (hup : ∀ path above, near path → Path.parent? path = some above → near above)
    (hmake : ∀ mid path made, motive mid → near path → mid.makeDirectory path = .ok made →
      motive made) (h : motive fs) (hpath : near path) (depth : Nat) :
    motive (fs.makeTreeTo depth path).1 := by
  induction depth generalizing path with
  | zero => exact h
  | succ depth ih =>
    rw [makeTreeTo]
    split
    · exact h
    · split
      · next hmade => exact hmake _ _ _ h hpath hmade
      · split
        · exact h
        · next above habove =>
          have hrest := ih (hup _ _ hpath habove)
          split
          · next heq =>
            rw [heq] at hrest
            exact hrest
          · next heq =>
            rw [heq] at hrest
            split
            · next hmade => exact hmake _ _ _ hrest hpath hmade
            · exact hrest
      · exact h

/-- …and so does the making of what is above a path. -/
theorem withParent_induction (near : String → Prop) {motive : FileSystem → Prop}
    (hup : ∀ path above, near path → Path.parent? path = some above → near above)
    (hmake : ∀ mid path made, motive mid → near path → mid.makeDirectory path = .ok made →
      motive made) (h : motive fs) (hpath : near path) : motive (fs.withParent path).1 := by
  rw [withParent]
  split
  · next above habove =>
    split
    · exact h
    · exact makeTreeTo_induction near hup hmake h (hup _ _ hpath habove) _
  · exact h

/-- **Making what is above a path is confined**, as far as it gets. -/
theorem confined_withParent (h : fs.Linkless) (hpath : Toward base path) :
    Confined (Path.components base) fs (fs.withParent path).1 :=
  withParent_induction (Toward base) (fun _ _ => Toward.parent)
    (fun _ _ _ hmid hnear hmade => hmid.trans (confined_makeDirectory hmid.linkless hnear hmade))
    (.refl h) hpath

theorem confined_writeText (h : fs.Linkless) (hpath : Beneath base path)
    (hmade : fs.writeText path text = .ok made) : Confined (Path.components base) fs made := by
  rw [write_eq_ok h hmade]
  exact .put h (hpath.below fs) nofun

theorem confined_removeFile (h : fs.Linkless) (hpath : Beneath base path)
    (hmade : fs.removeFile path = .ok made) : Confined (Path.components base) fs made := by
  rw [removeFile_eq_ok h hmade]
  exact .removeTree h (hpath.below fs)

theorem confined_moveFile (h : fs.Linkless) (hdraft : Beneath base draft)
    (hpath : Beneath base path) (hmade : fs.moveFile draft path = .ok made) :
    Confined (Path.components base) fs made := by
  obtain ⟨e, he, rfl⟩ := moveFile_eq_ok h hmade
  have hremoved : Confined (Path.components base) fs (fs.removeTree (fs.placeOf draft)) :=
    .removeTree h (hdraft.below fs)
  refine hremoved.trans (.put hremoved.linkless (hpath.below fs) ?_)
  rintro target rfl
  exact h _ _ he

end Operations

/-! ## Files -/

section Files

variable {base path text : String}

theorem slash_not_mem_fileName (path : String) :
    '/' ∉ ((Path.fileName? path).getD "").toList := by
  rw [Path.fileName?]
  split
  · next name hlast =>
    exact ((Path.canonical_components path).follows (List.mem_of_getLast? hlast)).2.2.2
  · exact List.not_mem_nil

/-- The name of a draft can follow in a path. -/
theorem follows_draftName (path : String) : (Component.normal (draftName path)).Follows := by
  have hlength : 9 ≤ (draftName path).length := by
    rw [draftName, String.length_append, String.length_append]
    have hdot : ".".length = 1 := rfl
    have hend : ".kmd-tmp".length = 8 := rfl
    omega
  refine ⟨?_, ?_, ?_, ?_⟩
  · intro heq
    rw [heq] at hlength
    exact absurd hlength (by decide)
  · intro heq
    rw [heq] at hlength
    exact absurd hlength (by decide)
  · intro heq
    rw [heq] at hlength
    exact absurd hlength (by decide)
  · have hname := slash_not_mem_fileName path
    simp [draftName, hname]

/-- **A draft lies below the root if its file does.** -/
theorem beneath_draft (h : Beneath base path) :
    Beneath base (Path.withFileName path (draftName path)) := by
  obtain ⟨names, hne, hnames, hpath⟩ := h
  have hjoin := Path.components_join_name (follows_draftName path)
  have hnormal : ∀ others : List Component, (∀ c ∈ others, ∃ name, c = .normal name) →
      ∀ c ∈ others ++ [.normal (draftName path)], ∃ name, c = .normal name := by
    intro others hothers c hc
    rcases List.mem_append.1 hc with hc | hc
    · exact hothers c hc
    · exact ⟨_, List.mem_singleton.1 hc⟩
  have hconcat : ∀ others : List Component, others ++ [.normal (draftName path)] ≠ [] :=
    fun others => List.concat_ne_nil _ others
  rw [Path.withFileName]
  split
  · next parent _ hparent =>
    refine ⟨names.dropLast ++ [.normal (draftName path)], hconcat _,
      hnormal _ fun c hc => hnames c ((List.dropLast_prefix names).mem hc), ?_⟩
    rw [hjoin, Path.components_parent hparent, hpath, List.dropLast_append_of_ne_nil hne,
      List.append_assoc]
  · exact ⟨names ++ [.normal (draftName path)], hconcat _, hnormal _ hnames, by
      rw [hjoin, hpath, List.append_assoc]⟩

/-- **Writing a file by way of its draft is confined**, whether it succeeds or not. -/
theorem confined_writeWhole (h : fs.Linkless) (hpath : Beneath base path) (text : String) :
    Confined (Path.components base) fs (fs.writeWhole path text).1 := by
  have hparent := confined_withParent h hpath.toward
  have hdraft := beneath_draft hpath
  rw [writeWhole]
  split
  · next heq =>
    rw [heq] at hparent
    exact hparent
  · next ready heq =>
    rw [heq] at hparent
    simp only
    split
    · exact hparent
    · next drafted hdrafted =>
      have hwritten := hparent.trans (confined_writeText hparent.linkless hdraft hdrafted)
      split
      · next hmoved =>
        exact hwritten.trans (confined_moveFile hwritten.linkless hdraft hpath hmoved)
      · cases hremoved : drafted.removeFile (Path.withFileName path (draftName path)) with
        | error fault => exact hwritten
        | ok removed =>
          exact hwritten.trans (confined_removeFile hwritten.linkless hdraft hremoved)

theorem confined_writeOne (h : fs.Linkless) (hpath : Path.Descends path) (base : String)
    (keep : Bool) (text : String) :
    Confined (Path.components base) fs (fs.writeOne base keep path text).1 := by
  have hwhole := confined_writeWhole h (beneath_join hpath base) text
  rw [writeOne]
  split
  · exact .refl h
  · split
    · next heq =>
      rw [heq] at hwhole
      exact hwhole
    · next heq =>
      rw [heq] at hwhole
      exact hwhole

theorem fst_writeEach_cons (fs : FileSystem) (base : String) (keep : Bool) (path text : String)
    (files : List (String × String)) : (fs.writeEach base keep ((path, text) :: files)).1 =
      ((fs.writeOne base keep path text).1.writeEach base keep files).1 := by
  rw [writeEach]

/-- **Writing files below the root is confined.** -/
theorem confined_writeEach (h : fs.Linkless) (base : String) (keep : Bool)
    {files : List (String × String)} (hfiles : ∀ f ∈ files, Path.Descends f.1) :
    Confined (Path.components base) fs (fs.writeEach base keep files).1 := by
  induction files generalizing fs with
  | nil => exact .refl h
  | cons f files ih =>
    obtain ⟨path, text⟩ := f
    obtain ⟨hpath, hrest⟩ : Path.Descends path ∧ ∀ f ∈ files, Path.Descends f.1 :=
      List.forall_mem_cons.1 hfiles
    have hone := confined_writeOne h hpath base keep text
    rw [fst_writeEach_cons]
    exact hone.trans (ih hone.linkless hrest)

/-- Taking away entries of the root, one after the other, is confined. -/
theorem confined_foldl_removeTree (h : fs.Linkless) (hl : l = Path.place fs.current root)
    (names : List String) :
    Confined root fs (names.foldl (fun fs name => fs.removeTree (l ++ [name])) fs) := by
  induction names generalizing fs with
  | nil => exact .refl h
  | cons name names ih =>
    have hbelow : Location.Below (Path.place fs.current root) (l ++ [name]) := by
      rw [← hl]
      exact ⟨List.prefix_append l [name], fun heq => by simpa using congrArg List.length heq⟩
    have hremoved : Confined root fs (fs.removeTree (l ++ [name])) := .removeTree h hbelow
    exact hremoved.trans (ih hremoved.linkless hl)

/-- **Emptying the root is confined.** -/
theorem confined_clear (h : fs.Linkless) (base : String) :
    Confined (Path.components base) fs (fs.clear base).1 := by
  rw [clear]
  split
  · exact .refl h
  · exact .refl h
  · next hlist => exact confined_foldl_removeTree h (list_eq_ok h hlist) _

/-- **All that is written stays below the root.** -/
theorem confined_writeAll (h : fs.Linkless) (base : String) (options : WriteOptions)
    {files : List (String × String)} (hfiles : ∀ f ∈ files, Path.Descends f.1) :
    Confined (Path.components base) fs (fs.writeAll base options files).1 := by
  have hready : Confined (Path.components base) fs
      (if options.delete then fs.clear base else (fs, [])).1 := by
    split
    · exact confined_clear h base
    · exact .refl h
  exact hready.trans (confined_writeEach hready.linkless base options.keep hfiles)

end Files

/-! ## Outside the root -/

/-- Outside the directory at `root` everything stays, except that missing directories on the way
there are made. -/
structure KeepsOutside (root : String) (fs fs' : FileSystem) : Prop where
  current_eq : fs'.current = fs.current
  /-- What is neither the root nor below it stays, and all that is new there are directories that
  were missing at proper prefixes of the root's path. -/
  outside : ∀ l, ¬ fs.placeOf root <+: l → fs'.at? l = fs.at? l ∨
    fs.at? l = none ∧ fs'.at? l = some (.directory false) ∧
      ∃ front, front <+: Path.components root ∧ front ≠ Path.components root ∧
        l = Path.place fs.current front
  /-- The root stays, or it was missing and is a directory now. -/
  itself : fs'.at? (fs.placeOf root) = fs.at? (fs.placeOf root) ∨
    fs.at? (fs.placeOf root) = none ∧ fs'.at? (fs.placeOf root) = some (.directory false)

theorem Confined.keepsOutside {base : String} (h : Confined (Path.components base) fs fs') :
    KeepsOutside base fs fs' := by
  refine ⟨h.current_eq, fun l hl => ?_, ?_⟩
  · rcases h.kept l fun hbelow => hl hbelow.1 with hsame | ⟨hnone, hmade, front, hfront, rfl⟩
    · exact .inl hsame
    · refine .inr ⟨hnone, hmade, front, hfront, ?_, rfl⟩
      rintro rfl
      exact hl (List.prefix_refl _)
  · rcases h.kept (fs.placeOf base) fun hbelow => hbelow.2 rfl with hsame | ⟨hnone, hmade, -⟩
    · exact .inl hsame
    · exact .inr ⟨hnone, hmade⟩

end FileSystem

/-- **Nothing outside the output root is touched.** Destinations are accepted exactly if they lead
to a path of names, the path of a rendered file is always accepted, and writing files at accepted
paths keeps what is outside the root, whatever the root, the options and the files are and however
far the writing gets. -/
theorem keepsOutside_writeAll :
    (∀ destination path : String,
      destinationPath destination = .ok path ↔ Path.Resolves destination path) ∧
    (∀ (j : Job) (text : String) (f : OutputFile), j.ofText text = .produced f →
      ∃ destination, destinationPath destination = .ok f.path) ∧
    ∀ (fs : FileSystem) (root : String) (options : WriteOptions) (files : List (String × String)),
      fs.Linkless → (∀ f ∈ files, ∃ destination, destinationPath destination = .ok f.1) →
        FileSystem.KeepsOutside root fs (fs.writeAll root options files).1 := by
  refine ⟨fun _ _ => destinationPath_eq_ok_iff, fun j text f => j.exists_destinationPath_of_ofText,
    fun fs root options files h hfiles => ?_⟩
  have hdescends : ∀ f ∈ files, Path.Descends f.1 := by
    intro f hf
    obtain ⟨destination, hpath⟩ := hfiles f hf
    exact (destinationPath_eq_ok_iff.1 hpath).descends
  exact (FileSystem.confined_writeAll h root options hdescends).keepsOutside

/-- A working directory with a file of its own, beside a directory that is in use. -/
def sampleFileSystem : FileSystem :=
  ⟨[(["work"], .directory false), (["work", "notes.txt"], .file (.text "mine")),
    (["shared"], .directory false), (["shared", "core"], .directory true),
    (["shared", "core", "log.rs"], .file (.text "old"))], ["work"]⟩

/-- The path to a root may lead through a directory that is missing and not above it; it is made. -/
theorem keepsOutside_writeAll_sample :
    sampleFileSystem.Linkless ∧
      (∀ f ∈ [("core/log.rs", "new")], ∃ destination, destinationPath destination = .ok f.1) ∧
      sampleFileSystem.placeOf "../lost/../shared" = ["shared"] ∧
      (sampleFileSystem.writeAll "../lost/../shared" ⟨true, false⟩
        [("core/log.rs", "new")]).1.at? ["lost"] = some (.directory false) ∧
      FileSystem.KeepsOutside "../lost/../shared" sampleFileSystem
        (sampleFileSystem.writeAll "../lost/../shared" ⟨true, false⟩
          [("core/log.rs", "new")]).1 := by
  have hlinkless : sampleFileSystem.Linkless :=
    FileSystem.linkless_of_entries (by simp [sampleFileSystem])
  have hfiles : ∀ f ∈ [("core/log.rs", "new")],
      ∃ destination, destinationPath destination = .ok f.1 := by
    intro f hf
    obtain rfl := List.mem_singleton.1 hf
    exact ⟨"./core//log.rs", by decide +kernel⟩
  exact ⟨hlinkless, hfiles, by decide +kernel, by decide +kernel,
    keepsOutside_writeAll.2.2 _ _ _ _ hlinkless hfiles⟩

end InterfaceGen
