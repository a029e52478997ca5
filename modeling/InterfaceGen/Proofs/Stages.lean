import InterfaceGen.Proofs.Course
import InterfaceGen.Proofs.Diagnosis
import InterfaceGen.Proofs.Outcomes

/-!
# Proofs/Stages — a run that reports anything before rendering leaves the output root alone

Every diagnostic tells the stage that recorded it (`Diagnostic.stage`). A run gets to rendering only
if nothing was reported while documents were loaded, merged and bound, and from then on it reports
failures to render and to write only. So if anything of an early stage is in the report, or if the
run cannot begin, then the files are as the export alone leaves them. Main statement:
`files_runGeneration`.
-/

namespace InterfaceGen

/-! ## Stages -/

/-- The stages of a run. -/
inductive Stage where
  | loading
  | merging
  | exporting
  | binding
  | rendering
  | writing
  deriving Repr, DecidableEq

/-- Whether templates are bound after the stage, and files are written after it only if nothing was
recorded. -/
def Stage.isEarly : Stage → Bool
  | .loading | .merging | .binding => true
  | .exporting | .rendering | .writing => false

/-- The stage at which a diagnostic is recorded. -/
def Diagnostic.stage : Diagnostic → Stage
  | .input _ _ | .parse _ _ | .noDocuments _ => .loading
  | .missingTemplate _ | .unknownTemplateKind _ => .binding
  | .exportModel _ _ => .exporting
  | .render _ _ _ => .rendering
  | .write _ _ => .writing
  | _ => .merging

/-- Diagnostics are recorded at a stage. -/
def RecordedAt (stage : Stage) (ds : List Diagnostic) : Prop := ∀ d ∈ ds, d.stage = stage

theorem recordedAt_nil (stage : Stage) : RecordedAt stage [] :=
  fun _ hd => absurd hd List.not_mem_nil

theorem recordedAt_append {stage : Stage} {front back : List Diagnostic} :
    RecordedAt stage (front ++ back) ↔ RecordedAt stage front ∧ RecordedAt stage back :=
  List.forall_mem_append

theorem recordedAt_failures {α : Type} {stage : Stage} {results : List (Except Diagnostic α)}
    (h : ∀ r ∈ results, ∀ d, r = .error d → d.stage = stage) :
    RecordedAt stage (failures results) := by
  intro d hd
  obtain ⟨r, hr, hd⟩ := List.mem_filterMap.1 hd
  cases r with
  | ok a => cases hd
  | error other =>
    obtain rfl := Option.some.inj hd
    exact h _ hr _ rfl

/-! ## What each stage records -/

section Loading

variable {fs : FileSystem} {g : Glob}

theorem recordedAt_documentsAt (fs : FileSystem) (g : Glob) (location : String) :
    RecordedAt .loading (fs.documentsAt g location).2 := by
  rw [FileSystem.documentsAt]
  split
  · exact recordedAt_nil _
  · split
    · intro d hd
      obtain ⟨r, -, hr⟩ := List.mem_filterMap.1 hd
      cases r with
      | ok found => cases hr
      | error fault =>
        obtain rfl := Option.some.inj hr
        rfl
    · intro d hd
      obtain rfl := List.mem_singleton.1 hd
      rfl

theorem recordedAt_discover (fs : FileSystem) (g : Glob) (locations : List String) :
    RecordedAt .loading (fs.discover g locations).2 := by
  intro d hd
  obtain ⟨found, hfound, hd⟩ := List.mem_flatMap.1 hd
  obtain ⟨location, -, rfl⟩ := List.mem_map.1 hfound
  exact recordedAt_documentsAt fs g location d hd

theorem stage_of_loadDocument {origin : Origin} {path : String} {d : Diagnostic}
    (h : fs.loadDocument origin path = .error d) : d.stage = .loading := by
  rw [FileSystem.loadDocument, map_eq_error_iff, FileSystem.readDocument] at h
  split at h
  · cases h
    rfl
  · next text _ =>
    cases hparse : Document.parse text with
    | ok document =>
      rw [hparse] at h
      cases h
    | error fault =>
      rw [hparse] at h
      cases h
      rfl

/-- **Loading records what it cannot load.** -/
theorem recordedAt_loading (fs : FileSystem) (g : Glob) (primary dependencies : List String) :
    RecordedAt .loading (Loading.ofLocations fs g primary dependencies).reported := by
  simp only [Loading.ofLocations, recordedAt_append]
  refine ⟨⟨⟨recordedAt_discover fs g primary, recordedAt_discover fs g dependencies⟩, ?_⟩, ?_⟩
  · split
    · intro d hd
      obtain rfl := List.mem_singleton.1 hd
      rfl
    · exact recordedAt_nil _
  · refine recordedAt_failures fun r hr d hd => ?_
    subst hd
    rcases List.mem_append.1 hr with hr | hr
    · obtain ⟨path, -, hload⟩ := List.mem_map.1 hr
      exact stage_of_loadDocument hload
    · obtain ⟨path, -, hload⟩ := List.mem_map.1 hr
      exact stage_of_loadDocument hload

end Loading

section Merging

/-- What documents say is looked at while they are merged. -/
theorem Diagnostic.stage_of_isFault {d : Diagnostic} (h : d.isFault = true) :
    d.stage = .merging := by
  cases d with
  | invalidDefinition _ _ => rfl
  | duplicateDefinition _ _ _ _ => rfl
  | versionConflict _ _ _ => rfl
  | unknownImport _ _ => rfl
  | unresolvedReference _ _ => rfl
  | ambiguousReference _ _ _ => rfl
  | unimportedModule _ _ _ _ => rfl
  | kindMismatch _ _ _ => rfl
  | _ => cases h

/-- **Merging records what does not fit together.** -/
theorem recordedAt_merging (o : Overlay) (documents : List Loaded) :
    RecordedAt .merging (diagnostics (merge o documents)) := by
  intro d hd
  rcases List.mem_append.1 ((Loaded.perm_diagnostics o documents).mem_iff.1 hd) with hfault | hcycle
  · exact Diagnostic.stage_of_isFault (Loaded.isFault_of_mem_faults_faultAt documents d hfault)
  · rcases List.mem_append.1 hcycle with hd | hd
    · obtain ⟨_, -, rfl⟩ := List.mem_map.1 hd
      rfl
    · obtain ⟨_, -, rfl⟩ := List.mem_map.1 hd
      rfl

/-- What is reported before there is anything to bind is recorded early. -/
theorem isEarly_of_mem_build {fs : FileSystem} {g : Glob} {o : Overlay}
    {primary dependencies : List String} {d : Diagnostic}
    (hd : d ∈ (Build.ofLocations fs g o primary dependencies).reported) :
    d.stage.isEarly = true := by
  have hloading := recordedAt_loading fs g primary dependencies
  rw [Build.ofLocations, Build.ofLoading] at hd
  split at hd
  · rw [hloading d hd]
    rfl
  · split at hd
    · rw [hloading d hd]
      rfl
    · next failed hmerge =>
      rcases List.mem_append.1 hd with hd | hd
      · rw [hloading d hd]
        rfl
      · have hmerging :=
          recordedAt_merging o (Loading.ofLocations fs g primary dependencies).documents
        rw [hmerge] at hmerging
        rw [hmerging d hd]
        rfl

end Merging

section Output

theorem recordedAt_exportEach (fs : FileSystem) (directory : String) (ms : List ModuleDef) :
    RecordedAt .exporting (fs.exportEach directory ms).2.2 := by
  induction ms generalizing fs with
  | nil => exact recordedAt_nil _
  | cons m ms ih =>
    simp only [FileSystem.exportEach]
    split
    · exact ih _
    · exact List.forall_mem_cons.2 ⟨rfl, ih fs⟩

theorem recordedAt_exportModel {fs fs' : FileSystem} {m : Model} {directory : String}
    {ds : List Diagnostic} (h : fs.exportModel m directory = (fs', .error ds)) :
    RecordedAt .exporting ds := by
  rw [FileSystem.exportModel] at h
  split at h
  · obtain rfl := Except.error.inj (congrArg Prod.snd h)
    exact List.forall_mem_singleton.2 rfl
  · next made _ =>
    have heach := recordedAt_exportEach made directory m.modules.values
    have hfailed := congrArg Prod.snd h
    simp only at hfailed
    split at hfailed
    · cases hfailed
    · exact Except.error.inj hfailed ▸ heach

/-- **Exporting records what it cannot write.** -/
theorem recordedAt_exports (fs : FileSystem) (directory : Option String) (model : Option Model) :
    RecordedAt .exporting (fs.exports directory model).reported := by
  cases directory with
  | none => exact recordedAt_nil _
  | some directory =>
    cases model with
    | none => exact recordedAt_nil _
    | some m =>
      simp only [FileSystem.exports]
      split
      · exact recordedAt_nil _
      · next ds hexport =>
        exact recordedAt_exportModel hexport

/-- **Binding records why templates do not serve the model**, and then something. -/
theorem recordedAt_binding {t : TemplateSet} {m : Model} {ds : List Diagnostic}
    (h : t.bind m = .error ds) : ds ≠ [] ∧ RecordedAt .binding ds := by
  simp only [TemplateSet.bind] at h
  split at h
  · cases h
  · next hsome =>
    obtain rfl := Except.error.inj h
    refine ⟨fun hnil => hsome (List.isEmpty_iff.2 hnil), recordedAt_append.2 ⟨?_, ?_⟩⟩
    · simp only [TemplateSet.unknownKinds, RecordedAt, List.forall_mem_map]
      exact fun _ _ => rfl
    · simp only [TemplateSet.missingKinds, RecordedAt, List.forall_mem_map]
      exact fun _ _ => rfl

/-- **Rendering records the jobs that fail.** -/
theorem recordedAt_rendering (e : Engine) (m : Model) (o : Overlay) (b : Binding) :
    RecordedAt .rendering ((renderAll e m o b).filterMap JobResult.reported?) := by
  intro d hd
  obtain ⟨r, hr, hd⟩ := List.mem_filterMap.1 hd
  have hnone : Resolved [] := fun f hf => absurd hf List.not_mem_nil
  obtain ⟨j, -, files, hcomes⟩ := exists_of_forall₂ (forall₂_collectAfter _ hnone _) r hr
  obtain ⟨message, rfl⟩ := hcomes.reports hd
  rfl

theorem recordedAt_writeEach (fs : FileSystem) (root : String) (keep : Bool)
    (files : List (String × String)) :
    RecordedAt .writing (fs.writeEach root keep files).2.reported := by
  induction files generalizing fs with
  | nil => exact recordedAt_nil _
  | cons f files ih =>
    obtain ⟨path, text⟩ := f
    have hone : RecordedAt .writing (fs.writeOne root keep path text).2.reported := by
      simp only [FileSystem.writeOne]
      split
      · exact recordedAt_nil _
      · split
        · exact recordedAt_nil _
        · exact List.forall_mem_singleton.2 rfl
    exact recordedAt_append.2 ⟨hone, ih _⟩

/-- **Writing records what it cannot clear or write.** -/
theorem recordedAt_writing (fs : FileSystem) (root : String) (options : WriteOptions)
    (files : List (String × String)) :
    RecordedAt .writing (fs.writeAll root options files).2.reported := by
  have hcleared : RecordedAt .writing (if options.delete then fs.clear root else (fs, [])).2 := by
    split
    · rw [FileSystem.clear]
      split
      · exact recordedAt_nil _
      · exact List.forall_mem_singleton.2 rfl
      · exact recordedAt_nil _
    · exact recordedAt_nil _
  exact recordedAt_append.2 ⟨hcleared, recordedAt_writeEach _ root options.keep files⟩

end Output

/-! ## Runs -/

/-- A run, given what it loaded, tells what was recorded early, and then leaves the files as the
export alone leaves them: as they were, unless there is a model and a place for it. -/
structure HaltsEarly (fs : FileSystem) (s : Settings) (b : Build) (run : Run) : Prop where
  /-- What was recorded while documents were loaded and merged is reported. -/
  build : ∀ d ∈ b.reported, d ∈ run.report.reported ∧ d.stage.isEarly = true
  /-- What was recorded while templates were bound is reported. -/
  binding : ∀ t m ds, Run.target fs s = .ok (some t) → b.model = some m → b.reported = [] →
    t.templates.bind m = .error ds →
      ds ≠ [] ∧ ∀ d ∈ ds, d ∈ run.report.reported ∧ d.stage.isEarly = true
  files : ∀ d ∈ run.report.reported, d.stage.isEarly = true →
    run.files = (fs.exports s.modelOutput b.model).files
  unchanged : ∀ d ∈ run.report.reported, d.stage.isEarly = true →
    s.modelOutput = none ∨ b.model = none → run.files = fs

variable {fs : FileSystem} {s : Settings} {o : Overlay} {b : Build} {t : Option Run.Target}
  {run : Run} {d : Diagnostic}

/-- **What is reported early is followed by no change to the files but the export's.** -/
theorem Course.files_of_isEarly (h : Course fs s o b t run) (hd : d ∈ run.report.reported)
    (hearly : d.stage.isEarly = true) : run.files = (fs.exports s.modelOutput b.model).files := by
  cases h with
  | halted _ exported => exact exported.files
  | unbound _ _ _ files _ => exact files
  | complete _ _ _ rendered written report =>
    -- nothing of an early stage is in the report of a run that writes its files
    rw [report] at hd
    have hlate : d.stage.isEarly = false := by
      rcases List.mem_append.1 hd with hd | hd
      · rcases List.mem_append.1 hd with hd | hd
        · rw [recordedAt_exports _ _ _ d hd]
          rfl
        · rw [← rendered] at hd
          rw [recordedAt_rendering _ _ _ _ d hd]
          rfl
      · have hwritten : _ = _ := congrArg (fun x => x.2.reported) written
        rw [← hwritten] at hd
        rw [recordedAt_writing _ _ _ _ d hd]
        rfl
    exact absurd (hearly.symm.trans hlate) nofun

/-- What loading and merging record is reported. -/
theorem Course.mem_of_build (h : Course fs s o b t run) (hd : d ∈ b.reported) :
    d ∈ run.report.reported := by
  cases h with
  | halted _ exported =>
    rw [exported.report]
    exact List.mem_append_left _ hd
  | unbound _ clean _ _ _ =>
    rw [clean] at hd
    exact absurd hd List.not_mem_nil
  | complete _ clean _ _ _ _ =>
    rw [clean] at hd
    exact absurd hd List.not_mem_nil

/-- What binding records is reported. -/
theorem Course.mem_of_bind {target : Run.Target} {m : Model} {ds : List Diagnostic}
    (h : Course fs s o b (some target) run) (hmodel : b.model = some m) (hclean : b.reported = [])
    (hbind : target.templates.bind m = .error ds) (hd : d ∈ ds) : d ∈ run.report.reported := by
  cases h with
  | halted reason _ =>
    rcases reason with hnone | hnone | hsome
    · exact absurd (hnone.symm.trans hmodel) nofun
    · exact absurd hnone nofun
    · exact absurd hclean hsome
  | unbound model _ binding _ report =>
    obtain rfl := Option.some.inj (model.symm.trans hmodel)
    obtain rfl := Except.error.inj (binding.symm.trans hbind)
    rw [report]
    exact List.mem_append_right _ hd
  | complete model _ binding _ _ _ =>
    obtain rfl := Option.some.inj (model.symm.trans hmodel)
    exact absurd (binding.symm.trans hbind) nofun

/-- **Whatever stops a run before rendering, the files are as the export alone leaves them**: if the
run cannot begin they are as they were, and if anything was recorded while documents were loaded and
merged or templates were bound, nothing is written to the output root or deleted from it. -/
theorem files_runGeneration (fs : FileSystem) (s : Settings) :
    (∀ fault, generate fs s = .error fault → (Program.runGeneration fs s).files = fs) ∧
      ∀ run, generate fs s = .ok run → (Program.runGeneration fs s).files = run.files ∧
        ∃ o g, fs.readOverlay s.overlay = .ok o ∧ Glob.parse s.pattern = .ok g ∧
          HaltsEarly fs s (Build.ofLocations fs g o s.primary s.dependencies) run := by
  refine ⟨fun fault h => ?_, fun run h => ⟨?_, ?_⟩⟩
  · rw [Program.runGeneration, h]
    rfl
  · rw [Program.runGeneration, h]
  · obtain ⟨o, g, t, ho, hg, ht, hcourse⟩ := exists_course h
    refine ⟨o, g, ho, hg, fun d hd => ⟨hcourse.mem_of_build hd, isEarly_of_mem_build hd⟩,
      fun target m ds htarget hmodel hclean hbind => ?_, fun d hd => hcourse.files_of_isEarly hd,
      fun d hd hearly hnone => ?_⟩
    · obtain rfl := Except.ok.inj (ht.symm.trans htarget)
      obtain ⟨hne, hbinding⟩ := recordedAt_binding hbind
      refine ⟨hne, fun d hd => ⟨hcourse.mem_of_bind hmodel hclean hbind hd, ?_⟩⟩
      rw [hbinding d hd]
      rfl
    · rw [hcourse.files_of_isEarly hd hearly, fs.exports_none hnone]

/-- A document and one that is none, and a file in the output root. -/
def brokenFileSystem : FileSystem :=
  ⟨[(["work"], .directory false),
    (["work", "core.json"], .file (.text "\x7b\"name\":\"core\",\"version\":\"1\"\x7d")),
    (["work", "torn.json"], .file (.text "torn")), (["work", "set"], .directory false),
    (["work", "set", "module.tera"], .file (.text "core.rs\nnew")),
    (["work", "out"], .directory false),
    (["work", "out", "core.rs"], .file (.text "mine"))], ["work"]⟩

/-- Settings with an output root that is to be emptied first. -/
def emptyingSettings : Settings :=
  { Settings.default with
    primary := ["core.json", "torn.json"]
    templates := some "set"
    output := some "out"
    modelOutput := some "model"
    delete := true }

/-- One document that cannot be parsed keeps the output root as it is; the model is exported. -/
theorem files_runGeneration_broken : ∃ run, generate brokenFileSystem emptyingSettings = .ok run ∧
    (run.report.reported.any fun d => d.stage.isEarly) = true ∧
    run.files.at? ["work", "out", "core.rs"] = some (.file (.text "mine")) ∧
    run.report.exported = ["model/core.kmd.json"] ∧
    ∃ o g, brokenFileSystem.readOverlay none = .ok o ∧ Glob.parse defaultPattern = .ok g ∧
      HaltsEarly brokenFileSystem emptyingSettings
        (Build.ofLocations brokenFileSystem g o ["core.json", "torn.json"] []) run := by
  have hany : (generate brokenFileSystem emptyingSettings).toOption.any (fun run =>
      (run.report.reported.any fun d => d.stage.isEarly) &&
        (decide (run.files.at? ["work", "out", "core.rs"] = some (.file (.text "mine"))) &&
          decide (run.report.exported = ["model/core.kmd.json"]))) = true := by decide +kernel
  obtain ⟨run, hrun, hall⟩ := exists_of_any_toOption hany
  simp only [Bool.and_eq_true, decide_eq_true_eq] at hall
  obtain ⟨hearly, hfile, hexported⟩ := hall
  exact ⟨run, hrun, hearly, hfile, hexported,
    ((files_runGeneration brokenFileSystem emptyingSettings).2 run hrun).2⟩

end InterfaceGen
