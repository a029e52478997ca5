import InterfaceGen.Proofs.Destinations
import InterfaceGen.Proofs.Lists

/-!
# Proofs/Outcomes — every job comes to one result, and the first file at a path stays

Whatever the templates yield, a job comes to a file, to nothing or to a report, depending on its own
text and on the files of the jobs before it (`Job.Comes`). A file is refused exactly if one of these
has the same path, so the files that stay have different paths. Main statement: `accounts_collect`.
-/

namespace InterfaceGen

/-! ## What a job comes to -/

/-- A template yields a file: the first line of its text leads to a path, and the rest is the
content. -/
def Offers (answer : Except String String) (path content : String) : Prop :=
  ∃ text first, answer = .ok text ∧ Text.FirstLine text first content ∧
    Path.Resolves (Text.trimmed first) path

/-- A file that a job produces if its template yields `answer`. -/
structure Job.Produces (j : Job) (answer : Except String String) (f : OutputFile) : Prop where
  offers : Offers answer f.path f.content
  template_eq : f.template = j.template
  entity_eq : f.entity = j.entity.words

/-- What a job comes to, given what its template yields and the files of the jobs before it. -/
inductive Job.Comes (earlier : List OutputFile) (j : Job) (answer : Except String String) :
    JobResult → Prop
  /-- The template fails. -/
  | unrendered {message : String} (failed : answer = .error message) :
      Comes earlier j answer (.failed (.render j.template j.entity.words message))
  /-- A blank first line means no file. -/
  | blank {text first rest : String} (rendered : answer = .ok text)
      (line : Text.FirstLine text first rest) (isBlank : Text.isBlankText first = true) :
      Comes earlier j answer (.nothing j.template j.entity.words)
  /-- The first line is no destination below the output root. -/
  | misplaced {text first rest : String} {fault : DestinationFault} (rendered : answer = .ok text)
      (line : Text.FirstLine text first rest) (notBlank : Text.isBlankText first = false)
      (nowhere : ∀ path, ¬ Path.Resolves (Text.trimmed first) path)
      (refused : destinationPath (Text.trimmed first) = .error fault) :
      Comes earlier j answer (.failed (.render j.template j.entity.words fault.message))
  /-- An earlier file has the same path. -/
  | taken {f first : OutputFile} (produces : j.Produces answer f) (mem : first ∈ earlier)
      (same : Path.same first.path f.path = true) :
      Comes earlier j answer (.failed (JobResult.duplicate f first))
  /-- The file is the first one at its path. -/
  | produced {f : OutputFile} (produces : j.Produces answer f)
      (new : ∀ first ∈ earlier, Path.same first.path f.path = false) :
      Comes earlier j answer (.produced f)

/-- The results account for the jobs, if `render` is what their templates yield. -/
structure Accounts (render : Job → Except String String) (jobs : List Job)
    (results : List JobResult) : Prop where
  /-- Each job has one result, in its place. -/
  length_eq : results.length = jobs.length
  /-- It is what the job comes to after the files of the jobs before it. -/
  comes : ∀ (i : Nat) (j : Job), jobs[i]? = some j → ∃ r, results[i]? = some r ∧
    j.Comes ((results.take i).filterMap JobResult.file?) (render j) r
  /-- A job that yields a file fails exactly if an earlier job produced one at its path. -/
  failed_iff : ∀ (i : Nat) (j : Job) (path content : String), jobs[i]? = some j →
    Offers (render j) path content → ((∃ d, results[i]? = some (.failed d)) ↔
      ∃ k first, k < i ∧ results[k]? = some (.produced first) ∧ Path.same first.path path = true)
  /-- No two files have the same path. -/
  distinct : (results.filterMap JobResult.file?).Pairwise fun f g => Path.same f.path g.path = false
  /-- The files are those of some jobs, in the order of the jobs. -/
  files : ∃ producing, producing.Sublist jobs ∧ List.Forall₂ (fun j f => j.Produces (render j) f)
    producing (results.filterMap JobResult.file?)
  /-- The reports are on some jobs, one on each of them, in the order of the jobs. -/
  reported : ∃ failing, failing.Sublist jobs ∧
    List.Forall₂ (fun j d => ∃ message, d = .render j.template j.entity.words message)
      failing (results.filterMap JobResult.reported?)

theorem Offers.resolves {text first rest path content : String} (h : Offers (.ok text) path content)
    (hline : Text.FirstLine text first rest) :
    Path.Resolves (Text.trimmed first) path ∧ content = rest := by
  obtain ⟨_, other, htext, hother, hpath⟩ := h
  obtain rfl := Except.ok.inj htext
  obtain ⟨rfl, rfl⟩ := Text.firstLine_eq hline
  obtain ⟨hfirst, hrest⟩ := Text.firstLine_eq hother
  rw [hfirst]
  exact ⟨hpath, hrest.symm⟩

/-- What a template yields is one file at most. -/
theorem Offers.unique {answer : Except String String} {path content other rest : String}
    (h : Offers answer path content) (hother : Offers answer other rest) :
    path = other ∧ content = rest := by
  obtain ⟨text, first, rfl, hline, hpath⟩ := h
  obtain ⟨hresolves, rfl⟩ := hother.resolves hline
  exact ⟨hpath.unique hresolves, rfl⟩

namespace JobResult

theorem file?_eq_some_iff {r : JobResult} {f : OutputFile} :
    r.file? = some f ↔ r = .produced f := by
  cases r <;> simp [file?]

theorem reported?_eq_some_iff {r : JobResult} {d : Diagnostic} :
    r.reported? = some d ↔ r = .failed d := by
  cases r <;> simp [reported?]

end JobResult

namespace Job

variable {earlier : List OutputFile} {j : Job} {answer : Except String String} {r : JobResult}

theorem Comes.produces {f : OutputFile} (h : j.Comes earlier answer r) (hf : r.file? = some f) :
    j.Produces answer f := by
  rw [JobResult.file?_eq_some_iff] at hf
  subst hf
  cases h with
  | produced produces new => exact produces

theorem Comes.reports {d : Diagnostic} (h : j.Comes earlier answer r) (hd : r.reported? = some d) :
    ∃ message, d = .render j.template j.entity.words message := by
  rw [JobResult.reported?_eq_some_iff] at hd
  subst hd
  cases h with
  | unrendered failed => exact ⟨_, rfl⟩
  | misplaced rendered line notBlank nowhere refused => exact ⟨_, rfl⟩
  | taken produces mem same =>
    rw [JobResult.duplicate, produces.template_eq, produces.entity_eq]
    exact ⟨_, rfl⟩

/-- **A job whose template yields a file fails exactly if the path is taken.** -/
theorem Comes.failed_iff {path content : String} (h : j.Comes earlier answer r)
    (hoffers : Offers answer path content) :
    (∃ d, r = .failed d) ↔ ∃ f ∈ earlier, Path.same f.path path = true := by
  cases h with
  | unrendered failed =>
    obtain ⟨text, first, hanswer, -⟩ := hoffers
    exact absurd (failed.symm.trans hanswer) nofun
  | blank rendered line isBlank =>
    rw [rendered] at hoffers
    have hresolves := (hoffers.resolves line).1
    rw [Text.trimmed_eq_empty_iff.2 isBlank] at hresolves
    exact absurd hresolves Path.not_resolves_empty
  | misplaced rendered line notBlank nowhere refused =>
    rw [rendered] at hoffers
    exact absurd (hoffers.resolves line).1 (nowhere path)
  | taken produces mem same =>
    obtain ⟨rfl, -⟩ := produces.offers.unique hoffers
    exact iff_of_true ⟨_, rfl⟩ ⟨_, mem, same⟩
  | produced produces new =>
    obtain ⟨rfl, -⟩ := produces.offers.unique hoffers
    refine iff_of_false (fun ⟨d, hd⟩ => by cases hd) ?_
    rintro ⟨f, hf, hsame⟩
    rw [new f hf] at hsame
    cases hsame

/-- Only which files there are before a job counts. -/
theorem Comes.of_mem_iff {others : List OutputFile} (h : j.Comes earlier answer r)
    (hmem : ∀ f, f ∈ earlier ↔ f ∈ others) : j.Comes others answer r := by
  cases h with
  | unrendered failed => exact .unrendered failed
  | blank rendered line isBlank => exact .blank rendered line isBlank
  | misplaced rendered line notBlank nowhere refused =>
    exact .misplaced rendered line notBlank nowhere refused
  | taken produces mem same => exact .taken produces ((hmem _).1 mem) same
  | produced produces new => exact .produced produces fun f hf => new f ((hmem f).2 hf)

end Job

namespace JobResult

/-- A result after some files: a file at the path of one of them is refused. -/
def refuse (earlier : List OutputFile) : JobResult → JobResult
  | .produced file =>
    match earlier.find? (·.path == file.path) with
    | some first => .failed (duplicate file first)
    | none => .produced file
  | r => r

/-- **One result is refused or kept, and then it counts for those that follow.** -/
theorem refuseDuplicates_cons (earlier : List OutputFile) (r : JobResult) (rest : List JobResult) :
    refuseDuplicates earlier (r :: rest) =
      r.refuse earlier :: refuseDuplicates ((r.refuse earlier).file?.toList ++ earlier) rest := by
  cases r with
  | nothing template entity => rfl
  | failed reported => rfl
  | produced file =>
    rw [refuseDuplicates, refuse]
    cases earlier.find? (·.path == file.path) <;> rfl

end JobResult

/-- Some files are at paths that destinations lead to. -/
def Resolved (files : List OutputFile) : Prop :=
  ∀ f ∈ files, ∃ destination, Path.Resolves destination f.path

namespace Job

variable {earlier : List OutputFile}

/-- **A job comes to its own result, refused if the path is taken.** -/
theorem comes_refuse (hearlier : Resolved earlier) (j : Job) (answer : Except String String) :
    j.Comes earlier answer ((j.result answer).refuse earlier) := by
  cases answer with
  | error message => exact .unrendered rfl
  | ok text =>
    obtain ⟨first, rest, hline⟩ := Text.exists_firstLine text
    rw [result, ofText_eq hline]
    split
    · next hblank => exact .blank rfl hline hblank
    · next hblank =>
      cases hpath : destinationPath (Text.trimmed first) with
      | error fault =>
        exact .misplaced rfl hline (by simpa using hblank)
          (fun path => not_resolves_of_destinationPath hpath) hpath
      | ok path =>
        have hresolves := destinationPath_eq_ok_iff.1 hpath
        have hproduces : j.Produces (.ok text) ⟨path, rest, j.template, j.entity.words⟩ :=
          ⟨⟨text, first, rfl, hline, hresolves⟩, rfl, rfl⟩
        have hsame : ∀ f ∈ earlier, Path.same f.path path = true ↔ f.path = path := by
          intro f hf
          obtain ⟨destination, hf⟩ := hearlier f hf
          exact hf.same_iff hresolves
        rw [JobResult.refuse]
        split
        · next f hfind =>
          have hmem := List.mem_of_find?_eq_some hfind
          exact .taken hproduces hmem ((hsame f hmem).2 (by simpa using List.find?_some hfind))
        · next hfind =>
          refine .produced hproduces fun f hf => ?_
          rw [Bool.eq_false_iff, ne_eq, hsame f hf]
          simpa using List.find?_eq_none.1 hfind f hf

end Job

/-! ## Runs -/

/-- What some jobs yield after the files of earlier ones. -/
def collectAfter (render : Job → Except String String) (earlier : List OutputFile)
    (jobs : List Job) : List JobResult :=
  JobResult.refuseDuplicates earlier (jobs.map fun j => j.result (render j))

section Runs

variable (render : Job → Except String String) {earlier : List OutputFile} {jobs : List Job}

/-- **One job comes to its result, and the others are run after its file.** -/
theorem collectAfter_cons (hearlier : Resolved earlier) (j : Job) (jobs : List Job) :
    ∃ r, collectAfter render earlier (j :: jobs) =
        r :: collectAfter render (r.file?.toList ++ earlier) jobs ∧
      j.Comes earlier (render j) r ∧ Resolved (r.file?.toList ++ earlier) := by
  have hcomes := j.comes_refuse hearlier (render j)
  refine ⟨_, JobResult.refuseDuplicates_cons earlier _ _, hcomes, fun f hf => ?_⟩
  rcases List.mem_append.1 hf with hf | hf
  · obtain ⟨text, first, -, -, hresolves⟩ := (hcomes.produces (Option.mem_toList.1 hf)).offers
    exact ⟨_, hresolves⟩
  · exact hearlier f hf

/-- The results are those of the jobs, item by item. -/
theorem forall₂_collectAfter (hearlier : Resolved earlier) (jobs : List Job) :
    List.Forall₂ (fun j r => ∃ files, j.Comes files (render j) r) jobs
      (collectAfter render earlier jobs) := by
  induction jobs generalizing earlier with
  | nil => exact .nil
  | cons j jobs ih =>
    obtain ⟨r, hcons, hcomes, hnext⟩ := collectAfter_cons render hearlier j jobs
    rw [hcons]
    exact .cons ⟨earlier, hcomes⟩ (ih hnext)

/-- **Each job comes to its result after the files of the jobs before it.** -/
theorem comes_collectAfter (hearlier : Resolved earlier) {i : Nat} {j : Job}
    (hj : jobs[i]? = some j) : ∃ r, (collectAfter render earlier jobs)[i]? = some r ∧
      j.Comes (earlier ++ ((collectAfter render earlier jobs).take i).filterMap JobResult.file?)
        (render j) r := by
  induction jobs generalizing earlier i with
  | nil => exact absurd hj (by simp)
  | cons first jobs ih =>
    obtain ⟨r, hcons, hcomes, hnext⟩ := collectAfter_cons render hearlier first jobs
    rw [hcons]
    cases i with
    | zero =>
      obtain rfl := Option.some.inj hj
      refine ⟨r, rfl, ?_⟩
      rwa [List.take_zero, List.filterMap_nil, List.append_nil]
    | succ i =>
      obtain ⟨s, hs, hlater⟩ := ih hnext hj
      refine ⟨s, hs, hlater.of_mem_iff fun f => ?_⟩
      rw [List.take_succ_cons, List.filterMap_cons]
      cases r.file? with
      | none => simp
      | some file => simp [or_left_comm]

end Runs

/-- The files before a place are those that are produced at an earlier one. -/
theorem mem_files_take {results : List JobResult} {i : Nat} {f : OutputFile} :
    f ∈ (results.take i).filterMap JobResult.file? ↔
      ∃ k, k < i ∧ results[k]? = some (.produced f) := by
  simp only [List.mem_filterMap, JobResult.file?_eq_some_iff, exists_eq_right]
  rw [List.mem_iff_getElem?]
  refine exists_congr fun k => ?_
  rw [List.getElem?_take]
  split
  · next h => simp [h]
  · next h => simp [h]

/-- **Every job comes to one result**: to a file, to nothing, or to a report. It fails exactly if
its template fails, its destination is refused or its path is that of an earlier file, and the files
are in the order of the jobs and at different paths. -/
theorem accounts_collect (render : Job → Except String String) (jobs : List Job) :
    Accounts render jobs (collect render jobs) := by
  have hnone : Resolved [] := fun f hf => absurd hf List.not_mem_nil
  have hall := forall₂_collectAfter render hnone jobs
  have hcomes : ∀ (i : Nat) (j : Job), jobs[i]? = some j →
      ∃ r, (collect render jobs)[i]? = some r ∧
        j.Comes (((collect render jobs).take i).filterMap JobResult.file?) (render j) r :=
    fun i j hj => comes_collectAfter render hnone hj
  have hfiles := exists_sublist_of_forall₂ (fun _ _ _ ⟨_, h⟩ hf => h.produces hf) hall
  have hreported := exists_sublist_of_forall₂ (fun _ _ _ ⟨_, h⟩ hd => h.reports hd) hall
  refine ⟨hall.length_eq.symm, hcomes, ?_, ?_, hfiles, hreported⟩
  · intro i j path content hj hoffers
    obtain ⟨r, hr, h⟩ := hcomes i j hj
    rw [hr]
    simp only [Option.some.injEq, h.failed_iff hoffers, mem_files_take]
    exact ⟨fun ⟨f, ⟨k, hk, hf⟩, hsame⟩ => ⟨k, f, hk, hf, hsame⟩,
      fun ⟨k, f, hk, hf, hsame⟩ => ⟨f, ⟨k, hk, hf⟩, hsame⟩⟩
  · obtain ⟨producing, -, hproducing⟩ := hfiles
    have hresolves : Resolved ((collect render jobs).filterMap JobResult.file?) := by
      intro f hf
      obtain ⟨j, -, hj⟩ := exists_of_forall₂ hproducing f hf
      obtain ⟨text, first, -, -, hpath⟩ := hj.offers
      exact ⟨_, hpath⟩
    have hnodup := (JobResult.nodup_paths_refuseDuplicates []
      (jobs.map fun j => j.result (render j))).1
    refine (List.pairwise_map.1 hnodup).imp_of_mem fun {f g} hf hg hne => ?_
    obtain ⟨_, hf⟩ := hresolves f hf
    obtain ⟨_, hg⟩ := hresolves g hg
    rw [Bool.eq_false_iff, ne_eq, hf.same_iff hg]
    exact hne

end InterfaceGen
