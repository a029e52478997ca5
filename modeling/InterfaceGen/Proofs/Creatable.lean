import InterfaceGen.Proofs.Files.Making
import InterfaceGen.Proofs.Reading

/-!
# Proofs/Creatable — where settings are accepted, the directory for the model can be made

The check of the settings looks upwards for the nearest path that is there; the export makes what is
missing from the top down. Both come upon whatever is in the way: nothing is below it, and the paths
above are spelled plainly, so the check does not go past it (`find?_pathsAbove`). They differ in
what comes after the last name of the path. A dot keeps the directory from being made, and a slash
keeps a file in its place from being found; the check goes on above, where neither is left
(`EndsWell`). Main statements: `creatable_of_validate` and, for the other endings,
`not_creatable_dotted`.
-/

namespace InterfaceGen

namespace FileSystem

variable {fs : FileSystem} {path : String} {front : List Component}

/-! ## Endings -/

/-- What comes after the last name of a path does no harm: with a dot there the directory is there
already, with a slash nothing else is. -/
structure EndsWell (fs : FileSystem) (path : String) : Prop where
  dot : endsWithDots path = true → fs.hasDirectory (fs.placeOf path) = true
  slash : path.endsWith "/" = true → fs.at? (fs.placeOf path) ≠ none →
    fs.hasDirectory (fs.placeOf path) = true

/-- If the place of a path is taken and the path ends well, it ends with the name. -/
theorem EndsWell.named (h : fs.EndsWell path) (hstops : fs.Stops path (Path.inner path)) :
    Path.Named path := by
  have hthere := hstops.something
  have hno := hstops.no_directory
  rw [← placeOf_eq] at hthere hno
  exact named_of_endsWithDots (Bool.eq_false_iff.2 fun hdots => hno (h.dot hdots))
    fun hslash => hno (h.slash hslash hthere)

theorem LeadsDown.endsWell (h : fs.LeadsDown path) (hplain : fs.Plain) (hmakes : fs.Makes path) :
    fs.EndsWell path := by
  obtain ⟨hclear, hdots⟩ := (h.makes_iff hplain).1 hmakes
  refine ⟨hdots, fun _ hthere => ?_⟩
  by_contra hno
  exact hthere (at?_placeOf_of_clear hclear hno)

/-! ## Going up -/

theorem Stops.inner_ne_nil (h : fs.Stops path front) (hdown : fs.LeadsDown path) :
    Path.inner path ≠ [] := by
  intro hnil
  obtain rfl := List.prefix_nil.1 (hnil ▸ h.initial)
  exact h.no_directory hdown.start

/-- Nothing is below what is in the way, so a path that goes further leads nowhere. -/
theorem Stops.not_exists (h : fs.Stops path front) (hdown : fs.LeadsDown path) (hplain : fs.Plain)
    (hless : front ≠ Path.inner path) : ¬ fs.exists? path = true := by
  intro hexists
  obtain ⟨l, e, hlocate⟩ := exists?_eq_true_iff.1 hexists
  obtain ⟨rfl, he⟩ := locate_eq_ok hplain.linkless hlocate
  refine h.no_directory (hplain.hasDirectory_of_below (hdown.below_placeOf h.initial hless) ?_)
  exact he ▸ Option.some_ne_none e

/-- What is in the way of a path and not in its place is in the way of the path above. -/
theorem Stops.above {above name : String} (h : fs.Stops path front)
    (hcomponents : Path.components path = Path.components above ++ [.normal name])
    (hless : front ≠ Path.inner path) : fs.Stops above front := by
  have horigin := origin_above hcomponents fs.current
  refine ⟨?_, horigin ▸ h.something, horigin ▸ h.no_directory⟩
  have hfront := h.initial
  rw [inner_eq_concat hcomponents] at hfront hless
  exact (List.prefix_concat_iff.1 hfront).resolve_left hless

/-- A path that ends with a name leads to what is in its place. -/
theorem Stops.exists (h : fs.Stops path (Path.inner path)) (hdown : fs.LeadsDown path)
    (hplain : fs.Plain) (hnamed : Path.Named path) : fs.exists? path = true := by
  obtain ⟨above, name, -, hcomponents⟩ := hdown.exists_above (h.inner_ne_nil hdown)
  have hthere := h.something
  rw [← placeOf_eq] at hthere
  refine (exists?_iff hnamed hplain).2 ⟨?_, hthere⟩
  rw [placeOf_eq_concat hcomponents] at hthere
  rw [hcomponents, List.dropLast_concat]
  exact (hdown.upward hcomponents).enters hplain (hplain.stands _ _ hthere)

end FileSystem

namespace Settings

open FileSystem

variable {fs : FileSystem} {s : Settings} {path : String} {front : List Component} {depth : Nat}

/-- **On its way up the check comes upon what is in the way of a path**, by induction on the depth:
before that nothing is there, and the paths above end with names. -/
theorem find?_pathsAbove (h : fs.LeadsDown path) (hplain : fs.Plain) (hstops : fs.Stops path front)
    (hnamed : front = Path.inner path → Path.Named path)
    (hdepth : (Path.components path).length < depth) :
    ∃ above, (pathsAbove depth path).find? fs.exists? = some above ∧
      fs.isDirectory above = false := by
  induction depth generalizing path with
  | zero => exact absurd hdepth (Nat.not_lt_zero _)
  | succ depth ih =>
    have hne := hstops.inner_ne_nil h
    have hempty : path ≠ "" := by
      rintro rfl
      exact hne rfl
    rw [pathsAbove, if_neg hempty]
    by_cases hwhole : front = Path.inner path
    · rw [hwhole] at hstops
      rw [List.find?_cons_of_pos (hstops.exists h hplain (hnamed hwhole))]
      refine ⟨path, rfl, Bool.eq_false_iff.2 fun hdirectory => hstops.no_directory ?_⟩
      rw [← placeOf_eq]
      exact hasDirectory_of_isDirectory hplain.linkless hdirectory
    · rw [List.find?_cons_of_neg (hstops.not_exists h hplain hwhole)]
      obtain ⟨above, name, hparent, hcomponents⟩ := h.exists_above hne
      have habove := h.upward hcomponents
      have hstops := hstops.above hcomponents hwhole
      have hlength : (Path.components above).length < depth := by
        rw [hcomponents, List.length_append, List.length_singleton] at hdepth
        omega
      simp only [hparent]
      exact ih habove hstops (fun _ => habove.named_above hparent (hstops.inner_ne_nil habove))
        hlength

theorem checkCreatable_of_stops (h : fs.LeadsDown path) (hplain : fs.Plain)
    (hstops : fs.Stops path front) (hnamed : front = Path.inner path → Path.Named path) :
    checkCreatable fs path = .error (.notCreatable path) := by
  obtain ⟨above, hfind, hno⟩ := find?_pathsAbove h hplain hstops hnamed (Nat.lt_succ_self _)
  simp [checkCreatable, hfind, hno]

/-! ## What is accepted -/

section Checks

variable {ε α : Type} {f : Unit → Except ε α} {a : α}

/-- What comes after a check goes well, if all does. -/
theorem of_check {bad : Bool} {fault : ε}
    (h : (if bad = true then (do let r ← throw fault; f r) else f ()) = .ok a) : f () = .ok a := by
  split at h
  · cases h
  · exact h

theorem of_checkOptional {value : Option String} {bad : String → Bool} {fault : String → ε}
    (h : (match value with
      | some path => if bad path = true then (do let r ← throw (fault path); f r) else f ()
      | none => f ()) = .ok a) : f () = .ok a := by
  cases value with
  | none => exact h
  | some path => exact of_check h

end Checks

/-- Settings are accepted only with a directory for the model that passes its check. -/
theorem checkCreatable_of_validate (hpath : s.modelOutput = some path)
    (h : s.validate fs = .ok ()) : checkCreatable fs path = .ok () := by
  rw [validate] at h
  -- The locations, the templates, the overlay, and that there is something to make.
  have h := of_check h
  have h := of_checkOptional h
  have h := of_checkOptional h
  have h := of_check h
  -- The directories that are there.
  obtain ⟨_, -, h⟩ := exists_of_bind h
  obtain ⟨_, -, h⟩ := exists_of_bind h
  obtain ⟨_, h, -⟩ := exists_of_bind h
  rw [hpath] at h
  exact mapError_eq_ok_iff.1 h

end Settings

/-- **If settings are accepted, the directory for the model is made with all that is missing above
it**, as long as its path ends well; otherwise it is never made. Settings are not accepted if
something that is no directory is in its way, or in its place and the path ends well. -/
theorem creatable_of_validate {fs : FileSystem} {s : Settings} {path : String} (hplain : fs.Plain)
    (hpath : s.modelOutput = some path) (hdown : fs.LeadsDown path) :
    (s.validate fs = .ok () → fs.EndsWell path → fs.Makes path) ∧
      (¬ fs.EndsWell path → (fs.makeTree path).2 ≠ none) ∧
        ∀ front, fs.Stops path front → (front = Path.inner path → fs.EndsWell path) →
          ∃ fault, s.validate fs = .error fault := by
  have hrejects : ∀ front, fs.Stops path front → (front = Path.inner path → fs.EndsWell path) →
      s.validate fs ≠ .ok () := by
    intro front hstops hends hvalid
    have hcheck := Settings.checkCreatable_of_validate hpath hvalid
    rw [Settings.checkCreatable_of_stops hdown hplain hstops] at hcheck
    · cases hcheck
    · intro hwhole
      exact (hends hwhole).named (hwhole ▸ hstops)
  refine ⟨fun hvalid hends => ?_, fun hends hmade => ?_, fun front hstops hends => ?_⟩
  · refine (hdown.makes_iff hplain).2 ⟨fun ⟨front, hstops⟩ => ?_, hends.dot⟩
    exact hrejects front hstops (fun _ => hends) hvalid
  · exact hends (hdown.endsWell hplain (hdown.makes_of_makeTree hplain hmade))
  · cases hvalid : s.validate fs with
    | error fault => exact ⟨fault, rfl⟩
    | ok _ => exact absurd hvalid (hrejects front hstops hends)

/-- A working directory with a directory of documents, and a file beside it. -/
def notesFileSystem : FileSystem :=
  ⟨[(["work"], .directory false), (["work", "idl"], .directory false),
    (["work", "notes"], .file (.text "notes"))], ["work"]⟩

theorem plain_notesFileSystem : notesFileSystem.Plain :=
  FileSystem.plain_of_entries (by simp [notesFileSystem]) (by decide +kernel)

/-- Nothing keeps directories from being made there. -/
theorem not_readonly_notesFileSystem (l : Location) :
    notesFileSystem.at? l ≠ some (.directory true) := by
  intro hreadonly
  by_cases hroot : l = []
  · rw [hroot] at hreadonly
    cases hreadonly
  · have hentries : ∀ x ∈ notesFileSystem.entries, x.2 ≠ .directory true := by decide +kernel
    exact hentries _ (FileSystem.mem_entries_of_at? hreadonly hroot) rfl

/-- Settings that only ask for the merged documents. -/
def modelSettings (directory : String) : Settings :=
  { Settings.default with
    primary := ["idl"]
    modelOutput := some directory }

/-- Directories are made below missing ones, whatever slashes follow, and not below a file. -/
theorem creatable_of_validate_missing : notesFileSystem.Makes "./new/deep/model//" ∧
    ∃ fault, (modelSettings "notes/model").validate notesFileSystem = .error fault := by
  constructor
  · refine (creatable_of_validate plain_notesFileSystem (s := modelSettings "./new/deep/model//")
      rfl ⟨by decide +kernel, by decide +kernel⟩).1 (by decide +kernel) ⟨?_, ?_⟩
    · decide +kernel
    · decide +kernel
  · refine (creatable_of_validate plain_notesFileSystem (s := modelSettings "notes/model") rfl
      ⟨by decide +kernel, by decide +kernel⟩).2.2 [.normal "notes"] ⟨?_, ?_, ?_⟩ ?_
    · decide +kernel
    · decide +kernel
    · decide +kernel
    · exact fun hwhole => absurd hwhole (by decide +kernel)

/-- **Settings are accepted with a directory that is not made**, if a dot comes after a missing
name, and with one that is a file, if a slash comes after its name. -/
theorem not_creatable_dotted :
    ¬ (∀ (fs : FileSystem) (s : Settings) (path : String), fs.Plain →
      (∀ l, fs.at? l ≠ some (.directory true)) → s.modelOutput = some path → fs.LeadsDown path →
        s.validate fs = .ok () → (fs.makeTree path).2 = none) ∧
    ¬ ∀ (fs : FileSystem) (s : Settings) (path : String), fs.Plain →
      (∀ l, fs.at? l ≠ some (.directory true)) → s.modelOutput = some path → fs.LeadsDown path →
        ∀ front, fs.Stops path front → ∃ fault, s.validate fs = .error fault := by
  constructor
  · intro hall
    have hmade := hall notesFileSystem (modelSettings "new/.") "new/." plain_notesFileSystem
      not_readonly_notesFileSystem rfl ⟨by decide +kernel, by decide +kernel⟩ (by decide +kernel)
    have hfault : (notesFileSystem.makeTree "new/.").2 = some .notFound := by decide +kernel
    rw [hfault] at hmade
    cases hmade
  · intro hall
    obtain ⟨fault, hrejected⟩ := hall notesFileSystem (modelSettings "notes/") "notes/"
      plain_notesFileSystem not_readonly_notesFileSystem rfl ⟨by decide +kernel, by decide +kernel⟩
      [.normal "notes"] ⟨by decide +kernel, by decide +kernel, by decide +kernel⟩
    have hvalid : (modelSettings "notes/").validate notesFileSystem = .ok () := by decide +kernel
    rw [hvalid] at hrejected
    cases hrejected

end InterfaceGen
