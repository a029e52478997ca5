import InterfaceGen.Proofs.Files.Delivery

/-!
# Proofs/Files/Sparing — a file stays unless files are written or emptied in its way

A file that is there is lost in three ways only: a directory above it or on the way to it is
emptied, another file is written in its place, or a draft is. If none of these happens (`Spared`),
then the file is read as before. Main statement: `readText_writeAll`.
-/

namespace InterfaceGen

namespace FileSystem

variable {fs : FileSystem} {root path text : String} {options : WriteOptions}
  {files : List (String × String)} {written : List String} {l : Location}

/-! ## Emptying a directory -/

/-- Emptying a directory leaves alone what is not below it. -/
theorem at?_clear (h : fs.Plain) (hl : ¬ Location.Below (fs.placeOf root) l) :
    (fs.clear root).1.at? l = fs.at? l := by
  rcases (confined_clear h.linkless root).kept l hl with hsame | ⟨hnone, hmade, -⟩
  · exact hsame
  · exact absurd (hnone.symm.trans ((shrinks_clear h root).kept l _ hmade)) nofun

/-- What a path leads to by way of components of its own is not below the root. -/
def Skirts (fs : FileSystem) (root path : String) : Prop :=
  ∀ front, front <+: Path.components path → front ≠ [] →
    ¬ Location.Below (fs.placeOf root) (Path.place fs.current front)

theorem Skirts.place (hpath : Path.Named path) (hskirts : fs.Skirts root path) :
    ¬ Location.Below (fs.placeOf root) (fs.placeOf path) := by
  obtain ⟨front, name, -, -, hcomponents⟩ := hpath.components_eq
  exact hskirts _ (List.prefix_refl _) (hcomponents ▸ List.concat_ne_nil _ _)

/-- **A path that goes nowhere below the root leads where it led when the root is emptied.** -/
theorem Skirts.enters (h : fs.Plain) (hpath : Path.Named path) (hskirts : fs.Skirts root path)
    (henters : fs.Enters fs.current (Path.components path).dropLast) :
    (fs.clear root).1.Enters fs.current (Path.components path).dropLast := by
  refine henters.congr (fun hnil => ?_) fun front hfront hne =>
    at?_clear h (hskirts front (hfront.trans (List.dropLast_prefix _)) hne)
  -- the path is a single name, in the working directory
  obtain ⟨front, name, -, -, hcomponents⟩ := hpath.components_eq
  rw [hcomponents, List.dropLast_concat] at hnil
  rw [hnil, List.nil_append] at hcomponents
  have hhere : ¬ Location.Below (fs.placeOf root) fs.current := by
    intro hbelow
    refine hskirts.place hpath ?_
    have hname : fs.placeOf path = fs.current ++ [name] := by
      rw [placeOf, hcomponents]
      rfl
    rw [hname]
    refine ⟨hbelow.1.trans (List.prefix_append _ _), fun heq => ?_⟩
    have hle := hbelow.1.length_le
    rw [heq, List.length_append, List.length_singleton] at hle
    omega
  rw [hcomponents] at henters
  exact (hasDirectory_congr (at?_clear h hhere)).trans henters

/-! ## Writing files -/

/-- No file that is written, no draft and no directory that is emptied is in the way of a path. -/
structure Spared (fs : FileSystem) (root : String) (options : WriteOptions)
    (files : List (String × String)) (written : List String) (path : String) : Prop where
  skirts : options.delete = true → fs.Skirts root path
  written : ∀ f ∈ written, fs.placeOf (Path.join root f) ≠ fs.placeOf path
  drafts : ∀ f ∈ files, fs.placeOf (draftPath (Path.join root f.1)) ≠ fs.placeOf path

/-- **A file that is spared is read as before.** -/
theorem readText_writeAll (h : fs.Plain)
    (hlegal : ∀ f ∈ files, ∃ destination, destinationPath destination = .ok f.1)
    (hdistinct : (files.map (·.1)).Nodup) (hpath : Path.Named path)
    (hspared : Spared fs root options files (fs.writeAll root options files).2.written path)
    (hread : fs.readText path = .ok text) :
    (fs.writeAll root options files).1.readText path = .ok text := by
  obtain ⟨hplain, hcurrent, -⟩ := shrinks_begin h root options
  obtain ⟨fates, hfates, hnodup, hpaths, hmeets, htallies⟩ :=
    exists_fates hplain root options.keep hlegal hdistinct
  replace hmeets : Meets root options.keep fates (fs.begin root options).1
    (fs.writeAll root options files).1 := hmeets
  have hwritten : (fs.writeAll root options files).2.written =
    (fates.filter (·.2 = .written)).map (·.1.1) := htallies.written_eq
  obtain ⟨henters, hfile⟩ := (readText_iff hpath h).1 hread
  have hbegun : (fs.begin root options).1.Enters fs.current (Path.components path).dropLast ∧
      (fs.begin root options).1.at? (fs.placeOf path) = some (.file (.text text)) := by
    rw [begin]
    split
    · next hdelete =>
      have hskirts := hspared.skirts hdelete
      exact ⟨hskirts.enters h hpath henters, (at?_clear h (hskirts.place hpath)).trans hfile⟩
    · exact ⟨henters, hfile⟩
  have hplaces := placeOf_congr hcurrent
  rw [readText_iff hpath (hmeets.plain hplain), placeOf_congr hmeets.current_eq, hplaces]
  refine ⟨hmeets.enters (hcurrent.symm ▸ hbegun.1), (hmeets.kept hbegun.2).resolve_right ?_⟩
  rintro ⟨x, hx, ⟨-, hdraft⟩ | ⟨hfate, hplace⟩⟩
  · rw [hplaces] at hdraft
    exact hspared.drafts x.1 (hfates ▸ List.mem_map_of_mem hx) hdraft.symm
  · rw [hplaces] at hplace
    refine hspared.written x.1.1 ?_ hplace.symm
    rw [hwritten]
    exact List.mem_map_of_mem (List.mem_filter.2 ⟨hx, decide_eq_true hfate⟩)

end FileSystem

end InterfaceGen
