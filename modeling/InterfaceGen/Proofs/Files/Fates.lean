import InterfaceGen.Proofs.Files.Drafts

/-!
# Proofs/Files/Fates — each file of a list is written, skipped or fails, one after the other

What happens to one file (`Befalls`) is said by its fate, and what happens to a list is that the
files meet their fates in order (`Meets`). So whatever a step keeps is kept to the end: directories
stay, the only new files are those that were written, and a file is lost only to a draft of its name
or to a file that is written in its place. Main statements: `exists_meets`, `Meets.new`,
`Meets.kept`.
-/

namespace InterfaceGen

/-! ## Fates -/

/-- What becomes of a file that is to be written. -/
inductive Fate where
  | written
  | skipped
  | failed (fault : FileFault)
  deriving Repr, DecidableEq

namespace Fate

/-- Why a file failed. -/
def fault? : Fate → Option FileFault
  | .failed fault => some fault
  | _ => none

/-- What is reported of a file of this fate. -/
def reported? (root path : String) (fate : Fate) : Option Diagnostic :=
  fate.fault?.map fun fault => .write (Path.join root path) fault.message

end Fate

/-- Files with their fates. -/
abbrev Fates := List ((String × String) × Fate)

/-- The files are listed by their fates, in order; what was reported before comes first. -/
structure Fates.Tallies (root : String) (before : List Diagnostic) (fates : Fates) (w : Written) :
    Prop where
  written_eq : w.written = (fates.filter (·.2 = .written)).map (·.1.1)
  skipped_eq : w.skipped = (fates.filter (·.2 = .skipped)).map (·.1.1)
  reported_eq : w.reported = before ++ fates.filterMap fun x => x.2.reported? root x.1.1

/-- Files are listed after those before them. -/
theorem Fates.Tallies.append {root : String} {before : List Diagnostic} {front back : Fates}
    {w v : Written} (hfront : front.Tallies root before w) (hback : back.Tallies root [] v) :
    Fates.Tallies root before (front ++ back)
      ⟨w.written ++ v.written, w.skipped ++ v.skipped, w.reported ++ v.reported⟩ := by
  refine ⟨?_, ?_, ?_⟩
  · rw [List.filter_append, List.map_append, hfront.written_eq, hback.written_eq]
  · rw [List.filter_append, List.map_append, hfront.skipped_eq, hback.skipped_eq]
  · rw [List.filterMap_append, hfront.reported_eq, hback.reported_eq, List.nil_append,
      List.append_assoc]

namespace FileSystem

variable {fs fs' : FileSystem} {root path : String} {keep : Bool} {f : String × String}
  {fate : Fate} {fates front back : Fates} {x : (String × String) × Fate} {l : Location}
  {c : Content}

/-! ## One file -/

/-- What happens to a file of some fate. -/
inductive Befalls (root : String) (keep : Bool) (f : String × String) (fs : FileSystem) :
    Fate → FileSystem → Prop
  | written {fs' : FileSystem} (hnew : keep = true → fs.exists? (Path.join root f.1) = false)
      (h : Delivers (Path.join root f.1) f.2 fs fs') : Befalls root keep f fs .written fs'
  | skipped (hkeep : keep = true) (hold : fs.exists? (Path.join root f.1) = true) :
      Befalls root keep f fs .skipped fs
  | failed {fs' : FileSystem} {fault : FileFault} (h : Leaves (Path.join root f.1) none fs fs') :
      Befalls root keep f fs (.failed fault) fs'

/-- **Every file meets a fate, and is reported by it.** -/
theorem exists_befalls (h : fs.Plain) (root : String) (keep : Bool) (text : String)
    (hpath : Path.Named (Path.join root path)) :
    ∃ fate, Befalls root keep (path, text) fs fate (fs.writeOne root keep path text).1 ∧
      Fates.Tallies root [] [((path, text), fate)] (fs.writeOne root keep path text).2 := by
  by_cases hskip : (keep && fs.exists? (Path.join root path)) = true
  · have hone : fs.writeOne root keep path text = (fs, ⟨[], [path], []⟩) := if_pos hskip
    obtain ⟨hkeep, hold⟩ := Bool.and_eq_true_iff.1 hskip
    rw [hone]
    exact ⟨.skipped, .skipped hkeep hold, rfl, rfl, rfl⟩
  · have hnew : keep = true → fs.exists? (Path.join root path) = false :=
      fun hkeep => Bool.eq_false_iff.2 fun hold => hskip (Bool.and_eq_true_iff.2 ⟨hkeep, hold⟩)
    cases hwhole : fs.writeWhole (Path.join root path) text with
    | mk done outcome =>
      have hcases := writeWhole_cases h hpath text
      rw [hwhole] at hcases
      rcases hcases with ⟨houtcome, hdelivers⟩ | ⟨fault, houtcome, hleaves⟩
      · obtain rfl : outcome = none := houtcome
        have hone : fs.writeOne root keep path text = (done, ⟨[path], [], []⟩) :=
          (if_neg hskip).trans (by rw [hwhole])
        rw [hone]
        exact ⟨.written, .written hnew hdelivers, rfl, rfl, rfl⟩
      · obtain rfl : outcome = some fault := houtcome
        have hone : fs.writeOne root keep path text =
            (done, ⟨[], [], [.write (Path.join root path) fault.message]⟩) :=
          (if_neg hskip).trans (by rw [hwhole])
        rw [hone]
        exact ⟨.failed fault, .failed hleaves, rfl, rfl, rfl⟩

namespace Befalls

theorem plain (h : Befalls root keep f fs fate fs') (hplain : fs.Plain) : fs'.Plain := by
  cases h with
  | written _ h => exact h.leaves.plain
  | skipped _ _ => exact hplain
  | failed h => exact h.plain

theorem current_eq (h : Befalls root keep f fs fate fs') : fs'.current = fs.current := by
  cases h with
  | written _ h => exact h.leaves.current_eq
  | skipped _ _ => rfl
  | failed h => exact h.current_eq

theorem hasDirectory (h : Befalls root keep f fs fate fs') (hl : fs.hasDirectory l = true) :
    fs'.hasDirectory l = true := by
  cases h with
  | written _ h => exact h.leaves.directories l hl
  | skipped _ _ => exact hl
  | failed h => exact h.directories l hl

/-- A file that is there afterwards was there before or is the one that was written. -/
theorem new (h : Befalls root keep f fs fate fs') (hfile : fs'.at? l = some (.file c)) :
    fs.at? l = some (.file c) ∨
      fate = .written ∧ l = fs.placeOf (Path.join root f.1) ∧ c = .text f.2 := by
  cases h with
  | written _ h =>
    exact (h.leaves.new l c hfile).imp_right fun ⟨hl, hc⟩ => ⟨rfl, hl, (Option.some.inj hc).symm⟩
  | skipped _ _ => exact .inl hfile
  | failed h => exact (h.new l c hfile).imp_right fun ⟨_, hc⟩ => absurd hc nofun

/-- A file is lost only to the draft of a file that is not skipped or to one that is written. -/
theorem kept (h : Befalls root keep f fs fate fs') (hfile : fs.at? l = some (.file c)) :
    fs'.at? l = some (.file c) ∨
      fate ≠ .skipped ∧ l = fs.placeOf (draftPath (Path.join root f.1)) ∨
        fate = .written ∧ l = fs.placeOf (Path.join root f.1) := by
  cases h with
  | written _ h =>
    exact (h.leaves.kept l c hfile).imp_right
      (Or.imp (fun hl => ⟨nofun, hl⟩) fun ⟨hl, _⟩ => ⟨rfl, hl⟩)
  | skipped _ _ => exact .inl hfile
  | failed h =>
    exact (h.kept l c hfile).imp_right
      (Or.imp (fun hl => ⟨nofun, hl⟩) fun ⟨_, hwritten⟩ => absurd rfl hwritten)

end Befalls

/-! ## A list of files -/

/-- Files meet their fates, one after the other. -/
inductive Meets (root : String) (keep : Bool) : Fates → FileSystem → FileSystem → Prop
  | nil (fs : FileSystem) : Meets root keep [] fs fs
  | cons {f : String × String} {fate : Fate} {fates : Fates} {fs mid fs' : FileSystem}
      (first : Befalls root keep f fs fate mid)
      (rest : Meets root keep fates mid fs') : Meets root keep ((f, fate) :: fates) fs fs'

/-- **The files of a list meet their fates in order, and are reported by them.** -/
theorem exists_meets (h : fs.Plain) (root : String) (keep : Bool) {files : List (String × String)}
    (hfiles : ∀ f ∈ files, Path.Named (Path.join root f.1)) :
    ∃ fates : Fates, fates.map (·.1) = files ∧
      Meets root keep fates fs (fs.writeEach root keep files).1 ∧
        fates.Tallies root [] (fs.writeEach root keep files).2 := by
  induction files generalizing fs with
  | nil => exact ⟨[], rfl, .nil fs, rfl, rfl, rfl⟩
  | cons f files ih =>
    obtain ⟨path, text⟩ := f
    obtain ⟨hpath, hrest⟩ : Path.Named (Path.join root path) ∧
        ∀ f ∈ files, Path.Named (Path.join root f.1) := List.forall_mem_cons.1 hfiles
    obtain ⟨fate, hfirst, hone⟩ := exists_befalls h root keep text hpath
    obtain ⟨fates, rfl, hmeets, hothers⟩ := ih (hfirst.plain h) hrest
    exact ⟨((path, text), fate) :: fates, rfl, .cons hfirst hmeets, hone.append hothers⟩

namespace Meets

theorem plain (h : Meets root keep fates fs fs') (hplain : fs.Plain) : fs'.Plain := by
  induction h with
  | nil => exact hplain
  | cons first _ ih => exact ih (first.plain hplain)

theorem current_eq (h : Meets root keep fates fs fs') : fs'.current = fs.current := by
  induction h with
  | nil => rfl
  | cons first _ ih => exact ih.trans first.current_eq

theorem hasDirectory (h : Meets root keep fates fs fs') (hl : fs.hasDirectory l = true) :
    fs'.hasDirectory l = true := by
  induction h with
  | nil => exact hl
  | cons first _ ih => exact ih (first.hasDirectory hl)

/-- **A path whose directory is entered before is entered afterwards.** -/
theorem enters (h : Meets root keep fates fs fs') {cs : List Component}
    (henters : fs.Enters fs.current cs) : fs'.Enters fs'.current cs := by
  rw [h.current_eq]
  exact henters.mono fun _ => h.hasDirectory

/-- **The only new files are those that were written**, with their texts. -/
theorem new (h : Meets root keep fates fs fs') (hfile : fs'.at? l = some (.file c)) :
    fs.at? l = some (.file c) ∨
      ∃ x ∈ fates, x.2 = .written ∧ l = fs.placeOf (Path.join root x.1.1) ∧ c = .text x.1.2 := by
  induction h with
  | nil => exact .inl hfile
  | cons first _ ih =>
    rcases ih hfile with hmid | ⟨x, hx, hwritten, hl, hc⟩
    · exact (first.new hmid).imp_right fun hnew => ⟨_, List.mem_cons_self, hnew⟩
    · rw [placeOf_congr first.current_eq] at hl
      exact .inr ⟨x, List.mem_cons_of_mem _ hx, hwritten, hl, hc⟩

/-- **A file is lost only to a draft of its name or to a file that is written in its place.** -/
theorem kept (h : Meets root keep fates fs fs') (hfile : fs.at? l = some (.file c)) :
    fs'.at? l = some (.file c) ∨ ∃ x ∈ fates,
      x.2 ≠ .skipped ∧ l = fs.placeOf (draftPath (Path.join root x.1.1)) ∨
        x.2 = .written ∧ l = fs.placeOf (Path.join root x.1.1) := by
  induction h with
  | nil => exact .inl hfile
  | cons first _ ih =>
    rcases first.kept hfile with hmid | hlost
    · rcases ih hmid with hfile' | ⟨x, hx, hlost⟩
      · exact .inl hfile'
      · rw [placeOf_congr first.current_eq, placeOf_congr first.current_eq] at hlost
        exact .inr ⟨x, List.mem_cons_of_mem _ hx, hlost⟩
    · exact .inr ⟨_, List.mem_cons_self, hlost⟩

/-- A list in two parts meets its fates part by part. -/
theorem append (h : Meets root keep (front ++ back) fs fs') :
    ∃ mid, Meets root keep front fs mid ∧ Meets root keep back mid fs' := by
  induction front generalizing fs with
  | nil => exact ⟨fs, .nil fs, h⟩
  | cons x front ih =>
    cases h with
    | cons first rest =>
      obtain ⟨mid, hfront, hback⟩ := ih rest
      exact ⟨mid, .cons first hfront, hback⟩

/-- A file meets its fate between those before it and those after it. -/
theorem split (h : Meets root keep (front ++ x :: back) fs fs') :
    ∃ before after, Meets root keep front fs before ∧ Befalls root keep x.1 before x.2 after ∧
      Meets root keep back after fs' := by
  obtain ⟨before, hfront, hmeets⟩ := h.append
  cases hmeets with
  | cons first rest => exact ⟨before, _, hfront, first, rest⟩

end Meets

end FileSystem

end InterfaceGen
