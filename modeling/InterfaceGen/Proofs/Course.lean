import InterfaceGen.Program
import InterfaceGen.Proofs.Reading

/-!
# Proofs/Course — a run halts after the export, fails to bind, or writes its files

What is printed on the way has no bearing on the files and the report. These depend on what the
stages yield: the documents, the export, the binding, the results of rendering and what became of
the files. There are three courses (`Course`), and in all of them the export comes first. Main
statement: `exists_course`.
-/

namespace InterfaceGen

/-! ## Exports -/

/-- What an export comes to: the files it leaves, the documents it wrote, and what was reported. -/
structure Exports where
  files : FileSystem
  exported : List String
  reported : List Diagnostic

/-- The export of a model to a directory. Nothing is done unless there are both. -/
def FileSystem.exports (fs : FileSystem) (directory : Option String) (model : Option Model) :
    Exports :=
  match directory, model with
  | some directory, some m =>
    match fs.exportModel m directory with
    | (files, .ok paths) => ⟨files, paths, []⟩
    | (files, .error ds) => ⟨files, [], ds⟩
  | _, _ => ⟨fs, [], []⟩

theorem FileSystem.exports_none (fs : FileSystem) {directory : Option String} {model : Option Model}
    (h : directory = none ∨ model = none) : fs.exports directory model = ⟨fs, [], []⟩ := by
  rcases h with rfl | rfl
  · rfl
  · cases directory <;> rfl

/-! ## Courses -/

/-- The files that jobs have produced, as they are written. -/
def producedFiles (results : List JobResult) : List (String × String) :=
  (results.filterMap JobResult.file?).map fun f => (f.path, f.content)

/-- A run that has loaded its documents and gone through the export. -/
structure Run.Exported (run : Run) (fs : FileSystem) (s : Settings) (b : Build) : Prop where
  files : run.files = (fs.exports s.modelOutput b.model).files
  report : run.report = ⟨[], [], (fs.exports s.modelOutput b.model).exported,
    b.reported ++ (fs.exports s.modelOutput b.model).reported, b.warnings⟩

/-- What a run comes to that began with these files and settings, if this is what it loaded. -/
inductive Course (fs : FileSystem) (s : Settings) (o : Overlay) (b : Build) :
    Option Run.Target → Run → Prop
  /-- Nothing is rendered: there is no model or no output root, or something was reported. -/
  | halted {t : Option Run.Target} {run : Run}
      (reason : b.model = none ∨ t = none ∨ b.reported ≠ []) (exported : run.Exported fs s b) :
      Course fs s o b t run
  /-- The templates do not serve the model. -/
  | unbound {t : Run.Target} {m : Model} {ds : List Diagnostic} {run : Run}
      (model : b.model = some m) (clean : b.reported = [])
      (binding : t.templates.bind m = .error ds)
      (files : run.files = (fs.exports s.modelOutput b.model).files)
      (report : run.report = ⟨[], [], (fs.exports s.modelOutput b.model).exported,
        (fs.exports s.modelOutput b.model).reported ++ ds, b.warnings⟩) :
      Course fs s o b (some t) run
  /-- The files are rendered and written. -/
  | complete {t : Run.Target} {m : Model} {bound : Binding} {results : List JobResult} {w : Written}
      {run : Run} (model : b.model = some m) (clean : b.reported = [])
      (binding : t.templates.bind m = .ok bound) (rendered : renderAll t.engine m o bound = results)
      (written : (fs.exports s.modelOutput b.model).files.writeAll t.output ⟨s.delete, s.keep⟩
        (producedFiles results) = (run.files, w))
      (report : run.report = ⟨w.written, w.skipped, (fs.exports s.modelOutput b.model).exported,
        (fs.exports s.modelOutput b.model).reported ++ results.filterMap JobResult.reported? ++
          w.reported, b.warnings⟩) :
      Course fs s o b (some t) run

namespace Run

variable {fs : FileSystem} {s : Settings} {o : Overlay} {b : Build} {t : Option Target}
  {r run : Run}
  {m : Model}

/-- **A run that is done with loading goes through the export.** -/
theorem exported_exportModel (hfiles : r.files = fs)
    (hreport : r.report = ⟨[], [], [], b.reported, b.warnings⟩) (hmodel : b.model = some m) :
    (match s.modelOutput with
      | some directory => r.exportModel m directory
      | none => r).Exported fs s b := by
  subst hfiles
  cases houtput : s.modelOutput with
  | none =>
    have hexports : r.files.exports s.modelOutput b.model = ⟨r.files, [], []⟩ :=
      r.files.exports_none (.inl houtput)
    refine ⟨?_, ?_⟩
    · rw [hexports]
    · rw [hexports, hreport, List.append_nil]
  | some directory =>
    have hexports : r.files.exports s.modelOutput b.model =
        match r.files.exportModel m directory with
        | (files, .ok paths) => ⟨files, paths, []⟩
        | (files, .error ds) => ⟨files, [], ds⟩ := by
      rw [houtput, hmodel]
      rfl
    cases hexport : r.files.exportModel m directory with
    | mk files outcome =>
      rw [hexport] at hexports
      have hentered :
          (r.enter "Exporting model").files.exportModel m directory = (files, outcome) :=
        hexport
      simp only [exportModel, hentered]
      cases outcome with
      | ok paths =>
        refine ⟨by rw [hexports]; rfl, ?_⟩
        rw [hexports]
        show { r.report with exported := paths } = _
        rw [hreport, List.append_nil]
      | error ds =>
        refine ⟨by rw [hexports]; rfl, ?_⟩
        rw [hexports]
        show { r.report with reported := r.report.reported ++ ds } = _
        rw [hreport]

/-- A run that goes on to its templates binds them, or renders and writes. -/
theorem Exported.course (h : r.Exported fs s b) (hmodel : b.model = some m)
    (hclean : b.reported = []) (t : Target) :
    Course fs s o b (some t) (r.bindAndRender s t.output t.templates t.engine m o) := by
  obtain ⟨hfiles, hreport⟩ := h
  rw [hclean, List.nil_append] at hreport
  rw [bindAndRender]
  cases hbind : t.templates.bind m with
  | error ds =>
    refine .unbound hmodel hclean hbind hfiles ?_
    show { r.report with reported := r.report.reported ++ ds } = _
    rw [hreport]
  | ok bound =>
    refine .complete hmodel hclean hbind rfl (w := (r.files.writeAll t.output ⟨s.delete, s.keep⟩
      (producedFiles (renderAll t.engine m o bound))).2) ?_ ?_
    · rw [← hfiles]
      rfl
    · show Report.mk _ _ r.report.exported (r.report.reported ++ _ ++ _) r.report.warnings = _
      rw [hreport]
      rfl

/-- What follows once there is a model is one of the courses. -/
theorem course_afterMerge (hfiles : r.files = fs)
    (hreport : r.report = ⟨[], [], [], b.reported, b.warnings⟩) (hmodel : b.model = some m)
    (t : Option Target) : Course fs s o b t (r.afterMerge s o t m b.reported.isEmpty) := by
  have hexported := exported_exportModel (s := s) hfiles hreport hmodel
  simp only [afterMerge]
  cases t with
  | none => exact .halted (.inr (.inl rfl)) hexported
  | some t =>
    simp only
    split
    · next hempty => exact hexported.course hmodel (List.isEmpty_iff.1 hempty) t
    · next hempty =>
      exact .halted (.inr (.inr fun hnil => hempty (List.isEmpty_iff.2 hnil)))
        ⟨hexported.files, hexported.report⟩

/-- **A run takes one of the courses** once its documents are loaded. -/
theorem course_loadAndGo (r : Run) (hreport : r.report = ⟨[], [], [], [], []⟩) (s : Settings)
    (g : Glob) (o : Overlay) (t : Option Target) :
    Course r.files s o (Build.ofLocations r.files g o s.primary s.dependencies) t
      (r.loadAndGo s g o t) := by
  have hentered : (r.enter "Loading documents").files = r.files := rfl
  simp only [loadAndGo, hentered]
  generalize Build.ofLocations r.files g o s.primary s.dependencies = b
  split
  · next hmodel =>
    have hexports : r.files.exports s.modelOutput b.model = ⟨r.files, [], []⟩ :=
      r.files.exports_none (.inr hmodel)
    refine .halted (.inl hmodel) ⟨by rw [hexports]; rfl, ?_⟩
    rw [hexports, List.append_nil]
    show Report.mk r.report.written r.report.skipped r.report.exported
      (r.report.reported ++ b.reported) b.warnings = _
    rw [hreport]
    rfl
  · next m hmodel =>
    refine course_afterMerge ?_ ?_ hmodel t
    · rfl
    · show Report.mk r.report.written r.report.skipped r.report.exported b.reported b.warnings = _
      rw [hreport]

end Run

/-- **Every run that can begin takes one of the courses.** -/
theorem exists_course {fs : FileSystem} {s : Settings} {run : Run} (h : generate fs s = .ok run) :
    ∃ o g t, fs.readOverlay s.overlay = .ok o ∧ Glob.parse s.pattern = .ok g ∧
      Run.target fs s = .ok t ∧
        Course fs s o (Build.ofLocations fs g o s.primary s.dependencies) t run := by
  obtain ⟨_, -, h⟩ := exists_of_bind h
  obtain ⟨o, ho, h⟩ := exists_of_bind h
  obtain ⟨g, hg, h⟩ := exists_of_bind h
  obtain ⟨t, ht, h⟩ := exists_of_bind h
  obtain rfl := Except.ok.inj h
  exact ⟨o, g, t, ho, mapError_eq_ok_iff.1 hg, ht,
    Run.course_loadAndGo (Run.ready fs s t) rfl s g o t⟩

namespace Course

variable {fs : FileSystem} {s : Settings} {o : Overlay} {b : Build} {t : Option Run.Target}
  {run : Run}

/-- Every run tells what it has exported. -/
theorem exported_eq (h : Course fs s o b t run) :
    run.report.exported = (fs.exports s.modelOutput b.model).exported := by
  cases h with
  | halted _ exported => rw [exported.report]
  | unbound _ _ _ _ report => rw [report]
  | complete _ _ _ _ _ report => rw [report]

/-- A run that reports nothing has loaded and exported without faults. -/
theorem clean (h : Course fs s o b t run) (hclean : run.report.reported = []) :
    b.reported = [] ∧ (fs.exports s.modelOutput b.model).reported = [] := by
  cases h with
  | halted _ exported =>
    rw [exported.report] at hclean
    exact List.append_eq_nil_iff.1 hclean
  | unbound _ clean _ _ report =>
    rw [report] at hclean
    exact ⟨clean, (List.append_eq_nil_iff.1 hclean).1⟩
  | complete _ clean _ _ _ report =>
    rw [report] at hclean
    exact ⟨clean, (List.append_eq_nil_iff.1 (List.append_eq_nil_iff.1 hclean).1).1⟩

end Course

end InterfaceGen
