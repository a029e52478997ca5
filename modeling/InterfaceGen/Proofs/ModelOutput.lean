import InterfaceGen.Proofs.Course
import InterfaceGen.Proofs.Entities
import InterfaceGen.Proofs.Files.Sparing
import InterfaceGen.Proofs.Outcomes
import Mathlib.Data.List.Infix

/-!
# Proofs/ModelOutput — exported documents last unless the output root is in their way

Modules have different names that are no paths, so each document of an export has a place of its own
and is there when the export is done. Afterwards the output root may be emptied and files are
written there, with no regard to where the documents are. A document that none of this touches is
there in the end. Main statements: `lasting_generate` and, for a document that is lost,
`not_lasting_nested`.
-/

namespace InterfaceGen

/-! ## Names of documents -/

/-- The name of the file for a module's document. -/
def ModuleDef.documentName (m : ModuleDef) : String := m.name ++ ".kmd.json"

theorem Text.mem_splitOn_of_mem {sep : Char} {cs : List Char} {c : Char} (h : c ∈ cs) :
    c = sep ∨ ∃ w ∈ splitOn sep cs, c ∈ w := by
  induction cs with
  | nil => exact absurd h List.not_mem_nil
  | cons x cs ih =>
    by_cases hx : x = sep
    · subst hx
      rw [splitOn_sep_cons]
      rcases List.mem_cons.1 h with rfl | h
      · exact .inl rfl
      · exact (ih h).imp_right fun ⟨w, hw, hc⟩ => ⟨w, List.mem_cons_of_mem _ hw, hc⟩
    · obtain ⟨w, ws, hs, hcons⟩ := splitOn_cons_of_ne hx cs
      rw [hs] at ih
      rw [hcons]
      rcases List.mem_cons.1 h with rfl | h
      · exact .inr ⟨_, List.mem_cons_self, List.mem_cons_self⟩
      · refine (ih h).imp_right fun ⟨v, hv, hc⟩ => ?_
        rcases List.mem_cons.1 hv with rfl | hv
        · exact ⟨_, List.mem_cons_self, List.mem_cons_of_mem _ hc⟩
        · exact ⟨v, List.mem_cons_of_mem _ hv, hc⟩

/-- The name of a module is no path. -/
theorem slash_not_mem_of_isModuleName {name : String} (h : isModuleName name = true) :
    '/' ∉ name.toList := by
  intro hslash
  have hpiece : '/' = '.' ∨ ∃ w ∈ Text.splitOn '.' name.toList, '/' ∈ w :=
    Text.mem_splitOn_of_mem hslash
  rcases hpiece with hdot | ⟨w, hw, hc⟩
  · exact absurd hdot (by decide)
  · exact absurd (isIdentifierRest_of_mem (List.all_eq_true.1 h w hw) _ hc) (by decide)

/-- The document of a module has a name. -/
theorem ModuleDef.follows_documentName {m : ModuleDef} (h : isModuleName m.name = true) :
    (Component.normal m.documentName).Follows := by
  have hlength : 9 ≤ m.documentName.length := by
    rw [documentName, String.length_append]
    exact Nat.le_add_left _ _
  refine ⟨?_, ?_, ?_, ?_⟩
  · intro heq
    rw [heq] at hlength
    exact absurd hlength (by decide)
  · intro heq
    rw [heq] at hlength
    exact absurd hlength (by decide)
  · intro heq
    rw [heq] at hlength
    exact absurd hlength (by decide)
  · rw [documentName, String.toList_append, List.mem_append]
    exact not_or.2 ⟨slash_not_mem_of_isModuleName h, by decide⟩

/-- No draft is named like a document. -/
theorem draftName_ne_documentName (path : String) (m : ModuleDef) :
    FileSystem.draftName path ≠ m.documentName := by
  intro heq
  have hdraft : (FileSystem.draftName path).toList.getLast? = some 'p' := by
    rw [FileSystem.draftName, String.toList_append, List.getLast?_append]
    rfl
  have hdocument : m.documentName.toList.getLast? = some 'n' := by
    rw [ModuleDef.documentName, String.toList_append, List.getLast?_append]
    rfl
  rw [heq, hdocument] at hdraft
  exact absurd hdraft (by decide)

/-! ## Modules of a model -/

/-- Every module of a model has a name that its documents were found to have. -/
theorem Drafts.Complete.isModuleName {drafts : Drafts} {docs : List Loaded} {o : Overlay}
    {name : String} {md : ModuleDef} (h : Complete drafts docs)
    (hmd : (drafts.model o).modules.find? name = some md) : isModuleName md.name = true := by
  obtain ⟨draft, hdraft, rfl⟩ := draft_of_module hmd
  obtain ⟨l, hl, -⟩ := (h.gathers.modules _ _ hdraft).version
  have hclean := (h.agrees _ _ hdraft).headers l hl
  obtain ⟨-, hname⟩ := Loaded.mem_ofModule.1 hl
  obtain ⟨hvalid, -⟩ := Document.headerProblems_eq_nil_iff.1 hclean
  rwa [hname] at hvalid

/-- **The modules of a model have different names that are no paths.** -/
theorem names_of_merge {o : Overlay} {documents : List Loaded} {m : Model}
    (h : merge o documents = .ok m) : (m.modules.values.map (·.name)).Nodup ∧
      ∀ md ∈ m.modules.values, isModuleName md.name = true := by
  have hcoherent := coherent_of_merge h
  constructor
  · rw [Table.map_values_eq_keys fun e he => hcoherent.name (hcoherent.sorted.mem_iff.1 he)]
    exact hcoherent.sorted.nodup_keys
  · intro md hmd
    have hfind := hcoherent.find?_of_mem hmd
    obtain ⟨hcomplete, rfl⟩ := complete_of_merge h
    exact hcomplete.isModuleName hfind

/-! ## Exporting -/

/-- The path of a module's document in a directory. -/
def documentPath (directory : String) (md : ModuleDef) : String :=
  Path.join directory md.documentName

namespace FileSystem

variable {fs : FileSystem} {directory : String} {md other : ModuleDef} {ms : List ModuleDef}
  {l : Location}

theorem placeOf_documentPath (h : isModuleName md.name = true) (fs : FileSystem)
    (directory : String) :
    fs.placeOf (documentPath directory md) = fs.placeOf directory ++ [md.documentName] := by
  rw [placeOf, documentPath, Path.components_join_name (md.follows_documentName h),
    Path.place_append, placeOf]
  rfl

/-- Documents of different modules are in different places. -/
theorem placeOf_documentPath_ne (h : isModuleName md.name = true)
    (hother : isModuleName other.name = true) (hne : other.name ≠ md.name) :
    fs.placeOf (documentPath directory other) ≠ fs.placeOf (documentPath directory md) := by
  rw [placeOf_documentPath h, placeOf_documentPath hother]
  intro heq
  have hnames := List.singleton_inj.1 (List.append_cancel_left heq)
  exact hne ((String.append_left_inj _).1 hnames)

/-- No document is where a draft is. -/
theorem placeOf_draftPath_ne_documentPath (h : isModuleName md.name = true) {path : String}
    (hpath : Path.Named path) :
    fs.placeOf (draftPath path) ≠ fs.placeOf (documentPath directory md) := by
  rw [placeOf_documentPath h, placeOf, components_draftPath hpath, Path.place_append]
  intro heq
  exact draftName_ne_documentName path md (List.singleton_inj.1 (List.append_inj_right' heq rfl))

/-- What has become of a tree when documents were written to a directory. -/
structure Holds (directory : String) (ms : List ModuleDef) (fs fs' : FileSystem) : Prop where
  plain : fs'.Plain
  current_eq : fs'.current = fs.current
  directories : ∀ l, fs.hasDirectory l = true → fs'.hasDirectory l = true
  documents : ∀ md ∈ ms, fs'.readText (documentPath directory md) = .ok (documentText md)
  /-- What is at no document's place is as it was. -/
  kept : ∀ l, (∀ md ∈ ms, fs.placeOf (documentPath directory md) ≠ l) → fs'.at? l = fs.at? l

/-- **An export without faults writes every document**, each one in its place. -/
theorem exportEach_of_clean (h : fs.Plain) (directory : String)
    (hnames : ∀ md ∈ ms, isModuleName md.name = true) (hnodup : (ms.map (·.name)).Nodup)
    (hclean : (fs.exportEach directory ms).2.2 = []) :
    (fs.exportEach directory ms).2.1 = ms.map (documentPath directory) ∧
      Holds directory ms fs (fs.exportEach directory ms).1 := by
  induction ms generalizing fs with
  | nil =>
    exact ⟨rfl, h, rfl, fun _ => id, fun _ hmd => absurd hmd List.not_mem_nil, fun _ _ => rfl⟩
  | cons md ms ih =>
    obtain ⟨hname, hothers⟩ := List.forall_mem_cons.1 hnames
    rw [List.map_cons, List.nodup_cons] at hnodup
    cases hmade : fs.writeText (documentPath directory md) (documentText md) with
    | error fault =>
      have hmade : fs.writeText (Path.join directory (md.name ++ ".kmd.json")) (documentText md) =
        .error fault := hmade
      simp only [exportEach, hmade] at hclean
      cases hclean
    | ok made =>
      have hwritten : fs.writeText (Path.join directory (md.name ++ ".kmd.json"))
        (documentText md) = .ok made := hmade
      simp only [exportEach, hwritten] at hclean ⊢
      have hplain := plain_write h hmade
      have hcurrent := current_written h hmade
      obtain ⟨hpaths, hrest⟩ := ih hplain hothers hnodup.2 hclean
      have hplaces := placeOf_congr hcurrent
      have hnamed : Path.Named (documentPath directory md) :=
        Path.named_join (md.follows_documentName hname) directory
      refine ⟨congrArg _ hpaths, hrest.plain, hrest.current_eq.trans hcurrent, fun l hl => ?_,
        List.forall_mem_cons.2 ⟨?_, hrest.documents⟩, fun l hl => ?_⟩
      · exact hrest.directories l ((hasDirectory_written h hmade l).trans hl)
      · rw [readText_iff hnamed hrest.plain, hrest.current_eq, placeOf_congr hrest.current_eq]
        refine ⟨(enters_written hnamed h hmade).mono hrest.directories, ?_⟩
        -- the documents that follow are in other places
        rw [hrest.kept _ fun other hmem => placeOf_documentPath_ne hname (hothers other hmem)
          fun heq => hnodup.1 (heq ▸ List.mem_map_of_mem hmem), at?_written h hmade,
          if_pos (hplaces _)]
      · obtain ⟨hfirst, hlater⟩ := List.forall_mem_cons.1 hl
        rw [hrest.kept l fun other hmem => (hplaces _).trans_ne (hlater other hmem),
          at?_written h hmade, if_neg (Ne.symm hfirst)]

/-- **An export that reports nothing leaves every document in its place.** -/
theorem exports_of_clean (h : fs.Plain) {model : Option Model} {m : Model} (hmodel : model = some m)
    (hnames : ∀ md ∈ m.modules.values, isModuleName md.name = true)
    (hnodup : (m.modules.values.map (·.name)).Nodup)
    (hclean : (fs.exports (some directory) model).reported = []) :
    (fs.exports (some directory) model).exported =
        m.modules.values.map (documentPath directory) ∧
      (fs.exports (some directory) model).files.Plain ∧
      (fs.exports (some directory) model).files.current = fs.current ∧
      ∀ md ∈ m.modules.values, (fs.exports (some directory) model).files.readText
        (documentPath directory md) = .ok (documentText md) := by
  subst hmodel
  have hgrows := grows_makeTreeTo h ((Path.components directory).length + 1) directory
  cases hmake : fs.makeTreeTo ((Path.components directory).length + 1) directory with
  | mk made fault =>
    rw [hmake] at hgrows
    cases fault with
    | some fault =>
      simp only [exports, exportModel, makeTree, hmake] at hclean
      cases hclean
    | none =>
      simp only [exports, exportModel, makeTree, hmake] at hclean ⊢
      by_cases hempty : (made.exportEach directory m.modules.values).2.2.isEmpty = true
      · rw [if_pos hempty] at hclean ⊢
        obtain ⟨hpaths, hholds⟩ := exportEach_of_clean hgrows.plain directory hnames hnodup
          (List.isEmpty_iff.1 hempty)
        exact ⟨hpaths, hholds.plain, hholds.current_eq.trans hgrows.current_eq, hholds.documents⟩
      · rw [if_neg hempty] at hclean
        exact absurd (List.isEmpty_iff.2 hclean) hempty

end FileSystem

/-! ## Runs -/

section Runs

variable {fs : FileSystem} {s : Settings} {o : Overlay} {g : Glob} {m : Model}
  {primary dependencies : List String} {run : Run} {directory : String}

/-- The model of a build is merged from what was loaded. -/
theorem merge_of_build (h : (Build.ofLocations fs g o primary dependencies).model = some m) :
    merge o (Loading.ofLocations fs g primary dependencies).documents = .ok m := by
  rw [Build.ofLocations, Build.ofLoading] at h
  split at h
  · cases h
  · split at h
    · next hmerge =>
      obtain rfl := Option.some.inj h
      exact hmerge
    · cases h

/-- A build that reports nothing has a model. -/
theorem exists_model_of_build (h : (Build.ofLocations fs g o primary dependencies).reported = []) :
    ∃ m, (Build.ofLocations fs g o primary dependencies).model = some m := by
  rw [Build.ofLocations, Build.ofLoading] at h ⊢
  split
  · next hvoid =>
    rw [if_pos hvoid] at h
    have hnone : (Loading.ofLocations fs g primary dependencies).reported = [] := h
    rw [Loading.isVoid, hnone] at hvoid
    cases hvoid
  · next hvoid =>
    rw [if_neg hvoid] at h
    split
    · exact ⟨_, rfl⟩
    · next failed hmerge =>
      rw [hmerge] at h
      obtain rfl := (List.append_eq_nil_iff.1 h).2
      rw [merge_eq] at hmerge
      split at hmerge
      · cases hmerge
      · next hsome => exact absurd (List.isEmpty_iff.2 (Except.error.inj hmerge)) hsome

/-- **The files that are rendered have different paths that destinations lead to.** -/
theorem producedFiles_renderAll (e : Engine) (m : Model) (o : Overlay) (b : Binding) :
    (∀ f ∈ producedFiles (renderAll e m o b),
      ∃ destination, destinationPath destination = .ok f.1) ∧
      ((producedFiles (renderAll e m o b)).map (·.1)).Nodup := by
  constructor
  · intro f hf
    obtain ⟨file, hfile, rfl⟩ := List.mem_map.1 hf
    obtain ⟨r, hr, hproduced⟩ := List.mem_filterMap.1 hfile
    have hnone : Resolved [] := fun f hf => absurd hf List.not_mem_nil
    obtain ⟨j, -, files, hcomes⟩ := exists_of_forall₂ (forall₂_collectAfter _ hnone _) r hr
    obtain ⟨text, first, -, -, hresolves⟩ := (hcomes.produces hproduced).offers
    exact ⟨_, destinationPath_eq_ok_iff.2 hresolves⟩
  · rw [producedFiles, List.map_map]
    exact (JobResult.nodup_paths_refuseDuplicates [] _).1

/-- The output root of a run is that of its settings. -/
theorem output_of_target {t : Run.Target} (h : Run.target fs s = .ok (some t)) :
    s.output = some t.output := by
  rw [Run.target] at h
  split at h
  · cases h
  · next output houtput =>
    obtain ⟨templates, -, h⟩ := exists_of_bind h
    obtain ⟨engine, -, h⟩ := exists_of_bind h
    obtain rfl := Option.some.inj (Except.ok.inj h)
    exact houtput

/-- Nothing that a run does after the export is in the way of a path: if the output root is emptied,
the path goes nowhere below it, and no file is written in its place. -/
def Outlasts (fs : FileSystem) (s : Settings) (run : Run) (path : String) : Prop :=
  ∀ output, s.output = some output → (s.delete = true → fs.Skirts output path) ∧
    ∀ f ∈ run.report.written, fs.placeOf (Path.join output f) ≠ fs.placeOf path

/-- **A file that the export leaves is there in the end** if nothing is in the way of it. -/
theorem Course.readText {b : Build} {t : Option Run.Target} {path text : String}
    (hcourse : Course fs s o b t run) (htarget : Run.target fs s = .ok t)
    (hplain : (fs.exports s.modelOutput b.model).files.Plain)
    (hcurrent : (fs.exports s.modelOutput b.model).files.current = fs.current)
    (hpath : Path.Named path) (houtlasts : Outlasts fs s run path)
    (hdrafts : ∀ other, Path.Named other →
      fs.placeOf (FileSystem.draftPath other) ≠ fs.placeOf path)
    (hread : (fs.exports s.modelOutput b.model).files.readText path = .ok text) :
    run.files.readText path = .ok text := by
  cases hcourse with
  | halted _ exported => rwa [exported.files]
  | unbound _ _ _ files _ => rwa [files]
  | @complete t m bound results w run model clean binding rendered written report =>
    obtain ⟨hlegal, hdistinct⟩ := producedFiles_renderAll t.engine m o bound
    rw [rendered] at hlegal hdistinct
    obtain ⟨hskirts, hplaces⟩ := houtlasts _ (output_of_target htarget)
    rw [report] at hplaces
    have hplace := FileSystem.placeOf_congr hcurrent
    have hlists : ((fs.exports s.modelOutput b.model).files.writeAll t.output ⟨s.delete, s.keep⟩
        (producedFiles results)).2 = w := congrArg Prod.snd written
    have hfiles : ((fs.exports s.modelOutput b.model).files.writeAll t.output ⟨s.delete, s.keep⟩
        (producedFiles results)).1 = run.files := congrArg Prod.fst written
    rw [← hfiles]
    refine FileSystem.readText_writeAll hplain hlegal hdistinct hpath
      ⟨fun hdelete => ?_, fun f hf => ?_, fun f hf => ?_⟩ hread
    · rw [FileSystem.Skirts, hplace, hcurrent]
      exact hskirts hdelete
    · rw [hplace, hplace]
      exact hplaces f (hlists ▸ hf)
    · obtain ⟨_, hf⟩ := hlegal f hf
      rw [hplace, hplace]
      exact hdrafts _ ((destinationPath_eq_ok_iff.1 hf).named_join t.output)

/-- **What a clean run exports are the documents of all modules, and those that nothing is in the
way of are there in the end.** -/
theorem lasting_generate (h : fs.Plain) (hrun : generate fs s = .ok run)
    (hclean : run.report.reported = []) :
    (s.modelOutput = none → run.report.exported = []) ∧
      ∀ directory, s.modelOutput = some directory → ∃ o g m, fs.readOverlay s.overlay = .ok o ∧
        Glob.parse s.pattern = .ok g ∧
        (Build.ofLocations fs g o s.primary s.dependencies).model = some m ∧
        run.report.exported = m.modules.values.map (documentPath directory) ∧
        ∀ md ∈ m.modules.values, Outlasts fs s run (documentPath directory md) →
          run.files.readText (documentPath directory md) = .ok (FileSystem.documentText md) := by
  obtain ⟨o, g, t, ho, hg, ht, hcourse⟩ := exists_course hrun
  obtain ⟨hbuilt, hexported⟩ := hcourse.clean hclean
  refine ⟨fun hnone => ?_, fun directory hdirectory => ?_⟩
  · rw [hcourse.exported_eq, fs.exports_none (.inl hnone)]
  · obtain ⟨m, hmodel⟩ := exists_model_of_build hbuilt
    obtain ⟨hnodup, hnames⟩ := names_of_merge (merge_of_build hmodel)
    have hexports := FileSystem.exports_of_clean h hmodel hnames hnodup (hdirectory ▸ hexported)
    rw [← hdirectory] at hexports
    obtain ⟨hpaths, hplain, hcurrent, hdocuments⟩ := hexports
    refine ⟨o, g, m, ho, hg, hmodel, hcourse.exported_eq.trans hpaths, fun md hmd houtlasts => ?_⟩
    have hname := hnames md hmd
    exact hcourse.readText ht hplain hcurrent
      (Path.named_join (md.follows_documentName hname) directory) houtlasts
      (fun other hother => FileSystem.placeOf_draftPath_ne_documentPath hname hother)
      (hdocuments md hmd)

end Runs

/-- A document and a template that makes one file of its module. -/
def smallFileSystem : FileSystem :=
  ⟨[(["work"], .directory false),
    (["work", "core.json"], .file (.text "\x7b\"name\":\"core\",\"version\":\"1\"\x7d")),
    (["work", "set"], .directory false),
    (["work", "set", "module.tera"], .file (.text "core.rs\nnew"))], ["work"]⟩

theorem plain_smallFileSystem : smallFileSystem.Plain :=
  FileSystem.plain_of_entries (by simp [smallFileSystem]) (by decide +kernel)

/-- Settings with an output root that is to be emptied first, and a place for the model. -/
def smallSettings (directory : String) : Settings :=
  { Settings.default with
    primary := ["core.json"]
    templates := some "set"
    output := some "out"
    modelOutput := some directory
    delete := true }

/-- Beside the output root, a document lasts. -/
theorem lasting_generate_beside :
    ∃ run, generate smallFileSystem (smallSettings "model") = .ok run ∧
    run.report.reported = [] ∧ run.report.exported = ["model/core.kmd.json"] ∧
    ∃ md, run.files.readText "model/core.kmd.json" = .ok (FileSystem.documentText md) := by
  have hany : (generate smallFileSystem (smallSettings "model")).toOption.any (fun run =>
      decide (run.report.reported = []) &&
        (decide (run.report.exported = ["model/core.kmd.json"]) &&
          decide (run.report.written = ["core.rs"]))) = true := by decide +kernel
  obtain ⟨run, hrun, hall⟩ := exists_of_any_toOption hany
  simp only [Bool.and_eq_true, decide_eq_true_eq] at hall
  obtain ⟨hclean, hexported, hwritten⟩ := hall
  refine ⟨run, hrun, hclean, hexported, ?_⟩
  obtain ⟨o, g, m, -, -, -, hpaths, hlasting⟩ :=
    (lasting_generate plain_smallFileSystem hrun hclean).2 "model" rfl
  rw [hexported] at hpaths
  obtain ⟨md, hvalues, hpath⟩ := List.map_eq_singleton_iff.1 hpaths.symm
  have hread := hlasting md (hvalues ▸ List.mem_singleton_self md)
  rw [hpath] at hread
  refine ⟨md, hread fun output houtput => ?_⟩
  obtain rfl := Option.some.inj houtput
  rw [hwritten]
  have hinits : ∀ front ∈ (Path.components "model/core.kmd.json").inits, front ≠ [] →
      ¬ (smallFileSystem.placeOf "out" <+: Path.place ["work"] front ∧
        smallFileSystem.placeOf "out" ≠ Path.place ["work"] front) := by decide +kernel
  exact ⟨fun _ front hfront hne => hinits front ((List.mem_inits _ _).2 hfront) hne,
    by decide +kernel⟩

/-- **A document is lost if the model goes below an output root that is to be emptied**, though
nothing is reported. -/
theorem not_lasting_nested :
    ¬ ∀ (fs : FileSystem) (s : Settings) (run : Run), fs.Plain → generate fs s = .ok run →
      run.report.reported = [] →
        ∀ path ∈ run.report.exported, ∃ text, run.files.readText path = .ok text := by
  intro hall
  have hany : (generate smallFileSystem (smallSettings "out/model")).toOption.any (fun run =>
      decide (run.report.reported = []) &&
        (decide ("out/model/core.kmd.json" ∈ run.report.exported) &&
          (run.files.readText "out/model/core.kmd.json").toOption.isNone)) = true := by
    decide +kernel
  obtain ⟨run, hrun, hlost⟩ := exists_of_any_toOption hany
  simp only [Bool.and_eq_true, decide_eq_true_eq] at hlost
  obtain ⟨hclean, hexported, hnone⟩ := hlost
  obtain ⟨text, hread⟩ := hall _ _ run plain_smallFileSystem hrun hclean _ hexported
  rw [hread] at hnone
  cases hnone

end InterfaceGen
