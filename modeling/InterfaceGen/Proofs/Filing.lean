import InterfaceGen.Proofs.Naming

/-!
# Proofs/Filing — a built-in set files every local entity whose path no other one has

The templates of a built-in set render for every entity of a merged model, and lead below the output
root. So the only jobs that are reported are those that lead to the path of an earlier job: two
entities whose names are the same in the case that the language asks for. Main statement:
`filed_of_merge`.
-/

namespace InterfaceGen

/-! ## Jobs that offer files -/

section Offering

variable {render : Job → Except String String} {jobs : List Job} {i k : Nat} {j : Job}
  {path content : String}

theorem resolved_nil : Resolved [] := fun _ hf => absurd hf List.not_mem_nil

variable (render) in
theorem comes_collect (hj : jobs[i]? = some j) : ∃ r, (collect render jobs)[i]? = some r ∧
    j.Comes (((collect render jobs).take i).filterMap JobResult.file?) (render j) r :=
  comes_collectAfter render resolved_nil hj

/-- A result is that of the job in its place. -/
theorem exists_job_of_collect {r : JobResult} (h : (collect render jobs)[k]? = some r) :
    ∃ j, jobs[k]? = some j ∧
      j.Comes (((collect render jobs).take k).filterMap JobResult.file?) (render j) r := by
  have hlength : (collect render jobs).length = jobs.length :=
    (forall₂_collectAfter render resolved_nil jobs).length_eq.symm
  have hk : k < jobs.length := hlength ▸ (List.getElem?_eq_some_iff.1 h).1
  have hj := List.getElem?_eq_getElem hk
  obtain ⟨s, hs, hcomes⟩ := comes_collect render hj
  obtain rfl := Option.some.inj (hs.symm.trans h)
  exact ⟨_, hj, hcomes⟩

/-- A job that offers a file fails exactly if its path was taken before. -/
theorem failed_iff_produced (hj : jobs[i]? = some j) (hoffers : Offers (render j) path content) :
    (∃ d, (collect render jobs)[i]? = some (.failed d)) ↔ ∃ k f, k < i ∧
      (collect render jobs)[k]? = some (.produced f) ∧ f.path = path := by
  obtain ⟨r, hr, hcomes⟩ := comes_collect render hj
  have hsame : ∀ {k : Nat} {f : OutputFile}, (collect render jobs)[k]? = some (.produced f) →
      (Path.same f.path path = true ↔ f.path = path) := by
    intro k f hf
    obtain ⟨other, -, hother⟩ := exists_job_of_collect hf
    obtain ⟨_, _, -, -, hresolves⟩ := (hother.produces rfl).offers
    obtain ⟨_, _, -, -, hpath⟩ := hoffers
    exact hresolves.same_iff hpath
  rw [hr]
  simp only [Option.some.injEq, hcomes.failed_iff hoffers, mem_files_take]
  exact ⟨fun ⟨f, ⟨k, hk, hf⟩, hpath⟩ => ⟨k, f, hk, hf, (hsame hf).1 hpath⟩,
    fun ⟨k, f, hk, hf, hpath⟩ => ⟨f, ⟨k, hk, hf⟩, (hsame hf).2 hpath⟩⟩

/-- A job that offers a file and does not fail produces it. -/
theorem produced_of_not_failed (hj : jobs[i]? = some j)
    (hoffers : Offers (render j) path content)
    (h : ¬ ∃ d, (collect render jobs)[i]? = some (.failed d)) :
    (collect render jobs)[i]? = some (.produced ⟨path, content, j.template, j.entity.words⟩) := by
  obtain ⟨r, hr, hcomes⟩ := comes_collect render hj
  rw [hr] at h ⊢
  cases hcomes with
  | unrendered failed => exact absurd ⟨_, rfl⟩ h
  | misplaced rendered line notBlank nowhere refused => exact absurd ⟨_, rfl⟩ h
  | taken produces mem same => exact absurd ⟨_, rfl⟩ h
  | blank rendered line isBlank =>
    rw [rendered] at hoffers
    have hresolves := (hoffers.resolves line).1
    rw [Text.trimmed_eq_empty_iff.2 isBlank] at hresolves
    exact absurd hresolves Path.not_resolves_empty
  | @produced f produces new =>
    obtain ⟨hpath, hcontent⟩ := produces.offers.unique hoffers
    obtain ⟨_, _, _, _⟩ := f
    rw [← hpath, ← hcontent, ← produces.template_eq, ← produces.entity_eq]

/-- **A job that offers a file fails exactly if an earlier one offers a file at its path**: of the
jobs that do, the first one produces it. -/
theorem failed_iff_offers (hj : jobs[i]? = some j) (hoffers : Offers (render j) path content) :
    (∃ d, (collect render jobs)[i]? = some (.failed d)) ↔ ∃ k other rest, k < i ∧
      jobs[k]? = some other ∧ Offers (render other) path rest := by
  rw [failed_iff_produced hj hoffers]
  constructor
  · rintro ⟨k, f, hk, hf, rfl⟩
    obtain ⟨other, hother, hcomes⟩ := exists_job_of_collect hf
    exact ⟨k, other, _, hk, hother, (hcomes.produces rfl).offers⟩
  · rintro ⟨k, other, rest, hk, hother, hpath⟩
    by_cases hfailed : ∃ d, (collect render jobs)[k]? = some (.failed d)
    · obtain ⟨before, f, hbefore, hf⟩ := (failed_iff_produced hother hpath).1 hfailed
      exact ⟨before, f, hbefore.trans hk, hf⟩
    · exact ⟨k, _, hk, produced_of_not_failed hother hpath hfailed, rfl⟩

end Offering

/-! ## Jobs that are placed by their destinations -/

namespace Job

/-- A template yields the destination of the job and, after a line break, what is in the file. -/
structure Placed (l : Language) (j : Job) (answer : Except String String) : Prop where
  renders : ∃ content, answer = .ok (j.destination l ++ "\n" ++ content)
  /-- The destination is a whole line as it is. -/
  plain : Text.trimmed (j.destination l) = j.destination l ∧ '\n' ∉ (j.destination l).toList
  leads : j.destination l = "" ∨ ∃ path, Path.Resolves (j.destination l) path

variable {l : Language} {j : Job} {answer : Except String String} {path content : String}
  {earlier : List OutputFile} {d : Diagnostic}

theorem Placed.offers (h : j.Placed l answer)
    (hanswer : answer = .ok (j.destination l ++ "\n" ++ content))
    (hpath : Path.Resolves (j.destination l) path) : Offers answer path content :=
  ⟨_, j.destination l, hanswer, ⟨h.plain.2, .inl rfl⟩, by rwa [h.plain.1]⟩

/-- What a job offers is at its destination. -/
theorem Placed.resolves (h : j.Placed l answer) (hoffers : Offers answer path content) :
    Path.Resolves (j.destination l) path := by
  obtain ⟨rest, rfl⟩ := h.renders
  have hline := (hoffers.resolves ⟨h.plain.2, .inl rfl⟩).1
  rwa [h.plain.1] at hline

/-- A job that is placed fails only because of an earlier file. -/
theorem Placed.taken (h : j.Placed l answer) (hcomes : j.Comes earlier answer (.failed d)) :
    ∃ f first, j.Produces answer f ∧ first ∈ earlier ∧ Path.same first.path f.path = true ∧
      d = JobResult.duplicate f first := by
  obtain ⟨content, hrenders⟩ := h.renders
  cases hcomes with
  | unrendered failed => cases hrenders.symm.trans failed
  | @misplaced text first rest fault rendered line notBlank nowhere refused =>
    obtain rfl := Except.ok.inj (hrenders.symm.trans rendered)
    have hline : Text.FirstLine (j.destination l ++ "\n" ++ content) (j.destination l) content :=
      ⟨h.plain.2, .inl rfl⟩
    obtain rfl : j.destination l = first :=
      (Text.firstLine_eq hline).1.symm.trans (Text.firstLine_eq line).1
    rcases h.leads with hnone | ⟨path, hpath⟩
    · rw [hnone] at notBlank
      cases notBlank
    · rw [h.plain.1] at nowhere
      exact absurd hpath (nowhere path)
  | @taken f first produces mem same => exact ⟨f, first, produces, mem, same, rfl⟩

end Job

section Placing

variable {l : Language} {render : Job → Except String String} {jobs : List Job} {i : Nat} {j : Job}
  {path : String} {d : Diagnostic}

/-- **A job fails exactly if it leads to the path of an earlier one**, if every job is placed. -/
theorem failed_iff_shares (h : ∀ j ∈ jobs, j.Placed l (render j)) (hj : jobs[i]? = some j) :
    (∃ d, (collect render jobs)[i]? = some (.failed d)) ↔
      ∃ k other, k < i ∧ jobs[k]? = some other ∧ j.Shares l other := by
  have hplaced := h j (List.mem_of_getElem? hj)
  constructor
  · rintro ⟨d, hd⟩
    obtain ⟨_, hjob, hcomes⟩ := exists_job_of_collect hd
    obtain rfl := Option.some.inj (hj.symm.trans hjob)
    obtain ⟨f, -, hproduces, -⟩ := hplaced.taken hcomes
    obtain ⟨k, other, rest, hk, hother, hoffers⟩ :=
      (failed_iff_offers hj hproduces.offers).1 ⟨d, hd⟩
    exact ⟨k, other, hk, hother, f.path, hplaced.resolves hproduces.offers,
      (h other (List.mem_of_getElem? hother)).resolves hoffers⟩
  · rintro ⟨k, other, hk, hother, path, hpath, hshared⟩
    obtain ⟨content, hcontent⟩ := hplaced.renders
    have hotherPlaced := h other (List.mem_of_getElem? hother)
    obtain ⟨rest, hrest⟩ := hotherPlaced.renders
    exact (failed_iff_offers hj (hplaced.offers hcontent hpath)).2
      ⟨k, other, rest, hk, hother, hotherPlaced.offers hrest hshared⟩

/-- A report names the file that is at the path already. -/
theorem duplicate_of_failed (h : ∀ j ∈ jobs, j.Placed l (render j))
    (hd : (collect render jobs)[i]? = some (.failed d)) : ∃ k first f, k < i ∧
      (collect render jobs)[k]? = some (.produced first) ∧ d = JobResult.duplicate f first ∧
        first.path = f.path := by
  obtain ⟨j, hj, hcomes⟩ := exists_job_of_collect hd
  obtain ⟨f, first, hproduces, hmem, hsame, rfl⟩ := (h j (List.mem_of_getElem? hj)).taken hcomes
  obtain ⟨k, hk, hfirst⟩ := mem_files_take.1 hmem
  obtain ⟨_, -, hother⟩ := exists_job_of_collect hfirst
  obtain ⟨_, _, -, -, hresolves⟩ := (hother.produces rfl).offers
  obtain ⟨_, _, -, -, hpath⟩ := hproduces.offers
  exact ⟨k, first, f, hk, hfirst, rfl, (hresolves.same_iff hpath).1 hsame⟩

/-- A job that leads to no earlier job's path produces its file. -/
theorem produced_of_placed (h : ∀ j ∈ jobs, j.Placed l (render j)) (hj : jobs[i]? = some j)
    (hpath : Path.Resolves (j.destination l) path)
    (hnew : ∀ k other, k < i → jobs[k]? = some other → ¬ j.Shares l other) :
    ∃ content, render j = .ok (j.destination l ++ "\n" ++ content) ∧
      (collect render jobs)[i]? =
        some (.produced ⟨path, content, j.template, j.entity.words⟩) := by
  have hplaced := h j (List.mem_of_getElem? hj)
  obtain ⟨content, hcontent⟩ := hplaced.renders
  refine ⟨content, hcontent, produced_of_not_failed hj (hplaced.offers hcontent hpath) ?_⟩
  rw [failed_iff_shares h hj]
  exact fun ⟨k, other, hk, hother, hshares⟩ => hnew k other hk hother hshares

/-- Of jobs no two of which lead to one path, none leads to the path of an earlier one. -/
theorem not_shares_of_pairwise (h : jobs.Pairwise fun other j => ¬ j.Shares l other) {k : Nat}
    {other : Job} (hk : k < i) (hj : jobs[i]? = some j) (hother : jobs[k]? = some other) :
    ¬ j.Shares l other := by
  obtain ⟨hi, rfl⟩ := List.getElem?_eq_some_iff.1 hj
  obtain ⟨hbefore, rfl⟩ := List.getElem?_eq_some_iff.1 hother
  exact List.pairwise_iff_getElem.1 h k i hbefore hi hk

/-- **Jobs no two of which lead to one path are not reported.** -/
theorem reported_of_pairwise (h : ∀ j ∈ jobs, j.Placed l (render j))
    (hnew : jobs.Pairwise fun other j => ¬ j.Shares l other) :
    (collect render jobs).filterMap JobResult.reported? = [] := by
  rw [List.filterMap_eq_nil_iff]
  intro r hr
  obtain ⟨i, hi⟩ := List.mem_iff_getElem?.1 hr
  cases hreported : r.reported? with
  | none => rfl
  | some d =>
    rw [JobResult.reported?_eq_some_iff.1 hreported] at hi
    obtain ⟨j, hj, -⟩ := exists_job_of_collect hi
    obtain ⟨k, other, hk, hother, hshares⟩ := (failed_iff_shares h hj).1 ⟨d, hi⟩
    exact absurd hshares (not_shares_of_pairwise hnew hk hj hother)

end Placing

/-! ## Files of a model -/

/-- With the templates of a language, bound as `b` and read into `e`, the local entities of the
model have their files, but for those that share a path. -/
structure Model.FiledBy (m : Model) (o : Overlay) (l : Language) (e : Engine) (b : Binding) :
    Prop where
  /-- Every template renders for every local entity of its kind. What it yields is the destination
  and, after a line break, the content of the file… -/
  renders : ∀ j ∈ Job.ofModel m b, ∃ content,
    e.render (templateCalls m o) j.template (j.values m.toJson o) =
      .ok (j.destination l ++ "\n" ++ content)
  /-- …and the destination leads below the output root, unless the template is the factory of an
  abstract class. -/
  leads : ∀ j ∈ Job.ofModel m b,
    (∃ path, Path.Resolves (j.destination l) path) ↔ j.isIdle l = false
  /-- Two jobs lead to one path exactly if their destinations have the same segments, other than
  empty ones. -/
  shares_iff : ∀ j ∈ Job.ofModel m b, ∀ other ∈ Job.ofModel m b, j.Shares l other ↔
    (j.isIdle l = false ∧ other.isIdle l = false) ∧
      (j.segments l).filter (· ≠ "") = (other.segments l).filter (· ≠ "")
  /-- Every local entity has a job that leads somewhere. -/
  served : ∀ d entity, m.HasLocal d entity →
    ∃ j ∈ Job.ofModel m b, j.module = d ∧ j.entity = entity ∧ j.isIdle l = false
  /-- A job is reported exactly if it leads to the path of an earlier one… -/
  failed_iff : ∀ (i : Nat) (j : Job), (Job.ofModel m b)[i]? = some j →
    ((∃ d, (renderAll e m o b)[i]? = some (.failed d)) ↔
      ∃ k other, k < i ∧ (Job.ofModel m b)[k]? = some other ∧ j.Shares l other)
  /-- …in words that name the file that is there. -/
  named : ∀ (i : Nat) (d : Diagnostic), (renderAll e m o b)[i]? = some (.failed d) →
    ∃ k first f, k < i ∧ (renderAll e m o b)[k]? = some (.produced first) ∧
      d = JobResult.duplicate f first ∧ first.path = f.path
  /-- The first job that leads to a path produces the file there. -/
  produced : ∀ (i : Nat) (j : Job) (path : String), (Job.ofModel m b)[i]? = some j →
    Path.Resolves (j.destination l) path →
      (∀ k other, k < i → (Job.ofModel m b)[k]? = some other → ¬ j.Shares l other) →
        ∃ content, e.render (templateCalls m o) j.template (j.values m.toJson o) =
            .ok (j.destination l ++ "\n" ++ content) ∧
          (renderAll e m o b)[i]? =
            some (.produced ⟨path, content, j.template, j.entity.words⟩)
  /-- If no job leads to the path of an earlier one, nothing is reported and every local entity has
  its file. -/
  clean : (Job.ofModel m b).Pairwise (fun other j => ¬ j.Shares l other) →
    (renderAll e m o b).filterMap JobResult.reported? = [] ∧
      ∀ d entity, m.HasLocal d entity → ∃ j ∈ Job.ofModel m b, j.module = d ∧ j.entity = entity ∧
        ∃ f ∈ (renderAll e m o b).filterMap JobResult.file?, f.template = j.template ∧
          f.entity = entity.words ∧ Path.Resolves (j.destination l) f.path

section Merged

variable {m : Model} {o : Overlay} {documents : List Loaded} {l : Language} {j : Job} {e : Engine}

/-- A job is about a module only if it is its own. -/
theorem Model.HasLocal.eq_module {d other : ModuleDef} (h : m.HasLocal d (.module other)) :
    other = d := by
  cases h
  rfl

/-- The jobs of a merged model have valid names. -/
theorem named_of_merge {b : Binding} (h : merge o documents = .ok m)
    (hj : j ∈ Job.ofModel m b) : j.Named := by
  obtain ⟨hlocal, -⟩ := (Job.mem_ofModel_iff (coherent_of_merge h)).1 hj
  obtain ⟨hmodule, hnames⟩ := names_of_hasLocal h hlocal
  exact ⟨hmodule, hnames⟩

/-- **The jobs of a merged model are placed** by the templates of a built-in set. -/
theorem placed_of_merge (h : merge o documents = .ok m) (he : e.Checked l)
    (hj : j ∈ Job.ofModel m l.binding) :
    j.Placed l (e.render (templateCalls m o) j.template (j.values m.toJson o)) := by
  obtain ⟨hlocal, htemplate⟩ := (Job.mem_ofModel_iff (coherent_of_merge h)).1 hj
  have hnamed := named_of_merge h hj
  have hbound : (j.template, j.entity.kind) ∈ l.binding := by
    obtain ⟨⟨template, kind⟩, hmem, heq⟩ := List.mem_map.1 htemplate
    obtain ⟨hmem, hkind⟩ := List.mem_filter.1 hmem
    rwa [← heq, ← of_decide_eq_true hkind]
  obtain ⟨t, ht, hsafe, hline⟩ := he _ _ hbound
  have hown : ∀ d, j.entity = .module d → d = j.module := by
    intro d hd
    rw [hd] at hlocal
    exact hlocal.eq_module
  obtain ⟨content, hrender⟩ := Engine.render_of_opening ht (by decide) hsafe hline
    (j.fits_values m.toJson o) m o
  rw [Job.text_opening _ _ hown] at hrender
  refine ⟨⟨content, hrender⟩, hnamed.plain_destination l, ?_⟩
  cases hidle : j.isIdle l with
  | true => exact .inl (Job.destination_of_idle hidle)
  | false => exact .inr ((hnamed.resolves_destination l).2 hidle)

/-- Every kind has a template that is no factory. -/
theorem Language.exists_template (l : Language) (kind : EntityKind) :
    ∃ template ∈ l.binding.templatesFor kind, template ≠ factoryTemplate := by
  cases l <;> cases kind <;> decide

/-- **The engine of a built-in set files the local entities of a merged model.** -/
theorem filedBy_of_merge (h : merge o documents = .ok m) (he : e.Checked l) :
    m.FiledBy o l e l.binding := by
  have hcoherent := coherent_of_merge h
  have hplaced : ∀ j ∈ Job.ofModel m l.binding,
      j.Placed l (e.render (templateCalls m o) j.template (j.values m.toJson o)) :=
    fun j hj => placed_of_merge h he hj
  have hserved : ∀ d entity, m.HasLocal d entity → ∃ j ∈ Job.ofModel m l.binding,
      j.module = d ∧ j.entity = entity ∧ j.isIdle l = false := by
    intro d entity hlocal
    obtain ⟨template, htemplate, hfactory⟩ := l.exists_template entity.kind
    exact ⟨⟨template, d, entity⟩, (Job.mem_ofModel_iff hcoherent).2 ⟨hlocal, htemplate⟩, rfl, rfl,
      Job.isIdle_of_ne hfactory l⟩
  have hleads : ∀ j ∈ Job.ofModel m l.binding,
      (∃ path, Path.Resolves (j.destination l) path) ↔ j.isIdle l = false :=
    fun j hj => (named_of_merge h hj).resolves_destination l
  refine {
    renders := fun j hj => (hplaced j hj).renders
    leads := hleads
    shares_iff := fun j hj other hother =>
      (named_of_merge h hj).shares_iff (named_of_merge h hother) l
    served := hserved
    failed_iff := fun i j hj => failed_iff_shares hplaced hj
    named := fun i d hd => duplicate_of_failed hplaced hd
    produced := fun i j path hj hpath hnew => produced_of_placed hplaced hj hpath hnew
    clean := fun hnew => ⟨reported_of_pairwise hplaced hnew, fun d entity hlocal => ?_⟩ }
  obtain ⟨j, hj, hmodule, hentity, hidle⟩ := hserved d entity hlocal
  obtain ⟨path, hpath⟩ := (hleads j hj).2 hidle
  obtain ⟨i, hi⟩ := List.mem_iff_getElem?.1 hj
  obtain ⟨content, -, hfile⟩ := produced_of_placed hplaced hi hpath
    fun k other hk hother => not_shares_of_pairwise hnew hk hi hother
  exact ⟨j, hj, hmodule, hentity, _, List.mem_filterMap.2 ⟨_, List.mem_of_getElem? hfile, rfl⟩, rfl,
    congrArg Entity.words hentity, hpath⟩

/-- **A built-in set can be read and bound to every merged model, and files its local entities**,
but for those that share a path. -/
theorem filed_of_merge {name : String} (h : merge o documents = .ok m)
    (hname : Language.ofName? name = some l) : ∃ t e b, TemplateSet.builtIn name = .ok t ∧
      t.engine = .ok e ∧ t.bind m = .ok b ∧ m.FiledBy o l e b := by
  obtain ⟨e, he, hchecked⟩ := l.exists_engine name
  exact ⟨_, e, _, Language.builtIn_eq hname, he, l.bind_builtIn name m,
    filedBy_of_merge h hchecked⟩

end Merged

/-- The sample is filed in both languages. -/
theorem filed_of_merge_sample : ∃ m, merge Overlay.empty sample = .ok m ∧
    Language.ofName? "rust" = some .rust ∧ Language.ofName? "typescript" = some .typescript ∧
    (∃ t e b, TemplateSet.builtIn "rust" = .ok t ∧ t.engine = .ok e ∧ t.bind m = .ok b ∧
      m.FiledBy Overlay.empty .rust e b) ∧
    ∃ t e b, TemplateSet.builtIn "typescript" = .ok t ∧ t.engine = .ok e ∧ t.bind m = .ok b ∧
      m.FiledBy Overlay.empty .typescript e b := by
  obtain ⟨m, hm⟩ := exists_merge_sample
  exact ⟨m, hm, rfl, rfl, filed_of_merge hm rfl, filed_of_merge hm rfl⟩

/-- Two types whose names are the same in snake case. -/
def homonyms : List Loaded :=
  [⟨"src/core.json", .local, {
    name := "core"
    version := "1.0"
    doc := none
    imports := []
    code := .null
    aliases := [⟨"FooBar", none, "String"⟩, ⟨"Foo_Bar", none, "String"⟩]
    complexTypes := []
    remoteClasses := []
    origin := none }⟩]

/-- **A second type with the name of a first one in another case is reported.** -/
theorem not_clean_homonyms : ¬ ∀ (documents : List Loaded) (m : Model) (name : String)
    (t : TemplateSet) (e : Engine) (b : Binding), merge Overlay.empty documents = .ok m →
      TemplateSet.builtIn name = .ok t → t.engine = .ok e → t.bind m = .ok b →
        (renderAll e m Overlay.empty b).filterMap JobResult.reported? = [] := by
  intro hall
  have hany : (merge Overlay.empty homonyms).toOption.any (fun m =>
      decide ((Job.ofModel m Language.rust.binding).map (·.destination .rust) =
        ["src/core/mod.rs", "src/core/foo_bar.rs", "src/core/foo_bar.rs"])) = true := by
    rw [merge, show Loaded.sorted homonyms = homonyms from List.mergeSort_singleton _]
    decide +kernel
  obtain ⟨m, hm, hpaths⟩ := exists_of_any_toOption hany
  have hpaths := of_decide_eq_true hpaths
  have hjob : ∀ (i : Nat) (destination : String), ["src/core/mod.rs", "src/core/foo_bar.rs",
      "src/core/foo_bar.rs"][i]? = some destination →
        ∃ j, (Job.ofModel m Language.rust.binding)[i]? = some j ∧
          j.destination .rust = destination := fun i destination hi => by
    rwa [← hpaths, List.getElem?_map, Option.map_eq_some_iff] at hi
  obtain ⟨first, hfirst, hthere⟩ := hjob 1 "src/core/foo_bar.rs" rfl
  obtain ⟨second, hsecond, hhere⟩ := hjob 2 "src/core/foo_bar.rs" rfl
  have hpath : Path.Resolves "src/core/foo_bar.rs" "src/core/foo_bar.rs" :=
    destinationPath_eq_ok_iff.1 (by decide +kernel)
  have hshares : second.Shares .rust first := by
    rw [Job.Shares, hhere, hthere]
    exact ⟨_, hpath, hpath⟩
  obtain ⟨e, he, hchecked⟩ := Language.rust.exists_engine "rust"
  obtain ⟨d, hd⟩ := ((filedBy_of_merge hm hchecked).failed_iff 2 second hsecond).2
    ⟨1, first, by decide, hfirst, hshares⟩
  have hclean := hall homonyms m "rust" _ e _ hm (Language.builtIn_eq rfl) he
    (Language.rust.bind_builtIn "rust" m)
  cases List.filterMap_eq_nil_iff.1 hclean _ (List.mem_of_getElem? hd)

end InterfaceGen
