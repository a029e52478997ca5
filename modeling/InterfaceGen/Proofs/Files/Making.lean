import InterfaceGen.Proofs.Files.Following

/-!
# Proofs/Files/Making — a directory is made unless something is in its way or its path ends in dots

A path without steps up leads from where it starts (`LeadsDown`) through directories as far as there
are any. If nothing comes next, and not a file (`Blocked`), the rest can be made from the top down:
the paths above are spelled plainly, so they end with names. Only the path itself need not. Slashes
after its name do not matter, but a dot asks for the directory before it is there. Main statement:
`LeadsDown.makes_iff`.
-/

namespace InterfaceGen

/-! ## How a path ends -/

theorem Text.exists_pieces_concat (sep : Char) (s : String) :
    ∃ front last, pieces sep s = front ++ [last] :=
  ⟨_, _, (List.dropLast_concat_getLast (pieces_ne_nil sep s)).symm⟩

namespace Path

variable {base path name : String}

/-- The path without the slashes at its end, unless nothing is left then. Irreducible, since
deciding which of the two it is by evaluation never ends. -/
@[irreducible]
def trimmed (path : String) : String :=
  if String.ofList (path.toList.reverse.dropWhile (· == '/')).reverse = "" then path
  else String.ofList (path.toList.reverse.dropWhile (· == '/')).reverse

theorem not_endsWith_bare (path : String) :
    ¬ (String.ofList (path.toList.reverse.dropWhile (· == '/')).reverse).endsWith "/" = true := by
  rw [endsWith_slash_iff]
  rintro ⟨front, hfront⟩
  have hlist : path.toList.reverse.dropWhile (· == '/') = '/' :: front.toList.reverse := by
    have h := congrArg (fun s : String => s.toList.reverse) hfront
    simpa using h
  have hhead := List.head?_dropWhile_not (· == '/') path.toList.reverse
  rw [hlist] at hhead
  simp at hhead

theorem same_trimmed (path : String) : same (trimmed path) path = true := by
  rw [same, decide_eq_true_eq, trimmed]
  split
  · rfl
  · next hne => exact components_trimmed hne

/-- A path that ends with an empty piece ends with a slash. -/
theorem endsWith_of_pieces {front : List String} (h : Text.pieces '/' path = front ++ [""])
    (hne : path ≠ "") : path.endsWith "/" = true := by
  cases hsplit : Text.splitLast? '/' path.toList with
  | none =>
    rw [Text.pieces_of_not_mem (Text.not_mem_of_splitLast?_eq_none hsplit)] at h
    have hlast := congrArg List.getLast? h
    rw [List.getLast?_singleton, List.getLast?_concat] at hlast
    exact absurd (Option.some.inj hlast) hne
  | some halves =>
    obtain ⟨before, after⟩ := halves
    have hpath : path = String.ofList before ++ "/" ++ String.ofList after :=
      String.toList_inj.1 (by simpa using Text.append_of_splitLast? hsplit)
    have hafter : '/' ∉ (String.ofList after).toList := by
      rw [String.toList_ofList]
      exact Text.not_mem_of_splitLast? hsplit
    rw [hpath, Text.pieces_append_slash, Text.pieces_of_not_mem hafter] at h
    have hlast := congrArg List.getLast? h
    rw [List.getLast?_concat, List.getLast?_concat] at hlast
    rw [hpath, Option.some.inj hlast, String.append_empty]
    exact endsWith_slash_iff.2 ⟨_, rfl⟩

end Path

namespace FileSystem

variable {fs fs' made : FileSystem} {l m : Location} {path above name : String} {follow : Bool}
  {c : Content} {front : List Component} {pieces : List String} {fault : FileFault}
  {onLink : Location → List String → Except FileFault Target} {depth : Nat}

/-- **A path that ends neither with a dot nor with a slash ends with a name.** -/
theorem named_of_endsWithDots (hdots : endsWithDots path = false)
    (hslash : ¬ path.endsWith "/" = true) : Path.Named path := by
  obtain ⟨front, last, hpieces⟩ := Text.exists_pieces_concat '/' path
  have hne : path ≠ "" := by
    rintro rfl
    exact absurd hdots (by decide)
  have hlast : last ≠ "" := by
    rintro rfl
    exact hslash (Path.endsWith_of_pieces hpieces hne)
  have hmem : last ∈ Text.pieces '/' path :=
    hpieces ▸ List.mem_append_right _ (List.mem_singleton_self last)
  rw [endsWithDots, hpieces, List.filter_append, List.filter_cons_of_pos (by simpa using hlast),
    List.filter_nil, List.getLast?_concat] at hdots
  simp only [Bool.or_eq_false_iff, beq_eq_false_iff_ne] at hdots
  exact ⟨front, last, hpieces, hlast, hdots.1, hdots.2, Text.not_mem_of_mem_pieces hmem⟩

theorem endsWithDots_of_named (h : Path.Named path) : endsWithDots path = false := by
  obtain ⟨front, name, hpieces, hname⟩ := h
  rw [endsWithDots, hpieces, List.filter_append, List.filter_cons_of_pos (by simpa using hname.1),
    List.filter_nil, List.getLast?_concat]
  simp [hname.2.1, hname.2.2.1]

/-- Slashes at the end do not make a path end with a dot, or with none. -/
theorem endsWithDots_append_slashes {slashes : List Char} (hslashes : ∀ c ∈ slashes, c = '/')
    (base : String) : endsWithDots (base ++ String.ofList slashes) = endsWithDots base := by
  refine Path.append_slashes (p := fun path => endsWithDots path = endsWithDots base) hslashes rfl
    fun path hpath => ?_
  rw [← hpath, endsWithDots, Text.pieces_concat_slash, List.filter_append]
  simp [endsWithDots]

/-- A path that ends with a name before its slashes is left with this name. -/
theorem named_trimmed (hdots : endsWithDots path = false) : Path.Named (Path.trimmed path) := by
  obtain ⟨slashes, hslashes, hsplit⟩ := Path.exists_append_slashes path
  rw [← hsplit, endsWithDots_append_slashes hslashes] at hdots
  rw [Path.trimmed, if_neg]
  · exact named_of_endsWithDots hdots (Path.not_endsWith_bare path)
  · intro hempty
    rw [hempty] at hdots
    exact absurd hdots (by decide)

theorem endsWithDots_trimmed (path : String) :
    endsWithDots (Path.trimmed path) = endsWithDots path := by
  obtain ⟨slashes, hslashes, hsplit⟩ := Path.exists_append_slashes path
  rw [Path.trimmed]
  split
  · rfl
  · rw [← endsWithDots_append_slashes hslashes, hsplit]

/-! ## Paths that lead down -/

theorem place_lead (path : String) (here : Location) (cs : List Component) :
    Path.place here (Path.lead path ++ cs) = Path.place (origin path here) cs := by
  rw [Path.lead, origin]
  split
  · rfl
  · split <;> rfl

theorem placeOf_eq (fs : FileSystem) (path : String) :
    fs.placeOf path = Path.place (origin path fs.current) (Path.inner path) := by
  rw [placeOf, Path.components_eq, place_lead]

/-- A path without steps up, from a directory that is there. -/
structure LeadsDown (fs : FileSystem) (path : String) : Prop where
  no_parent : Component.parent ∉ Path.components path
  start : fs.hasDirectory (origin path fs.current) = true

section Above

/-! A path that ends with a name, and the path above it. -/

variable (hcomponents : Path.components path = Path.components above ++ [.normal name])
include hcomponents

theorem inner_eq_concat : Path.inner path = Path.inner above ++ [.normal name] := by
  rw [Path.inner_eq_filter, hcomponents, List.filter_append, ← Path.inner_eq_filter]
  rfl

theorem placeOf_eq_concat (fs : FileSystem) : fs.placeOf path = fs.placeOf above ++ [name] := by
  rw [placeOf, hcomponents, Path.place_append]
  rfl

theorem not_prefix_above (fs : FileSystem) : ¬ fs.placeOf path <+: fs.placeOf above := by
  intro hbefore
  have hlength := hbefore.length_le
  rw [placeOf_eq_concat hcomponents, List.length_append, List.length_singleton] at hlength
  omega

theorem origin_above (here : Location) : origin above here = origin path here := by
  have hstart : above.startsWith "/" = path.startsWith "/" := by
    rw [Bool.eq_iff_iff, ← Path.root_mem_components_iff, ← Path.root_mem_components_iff,
      hcomponents]
    simp
  rw [origin, hstart, origin]

theorem LeadsDown.upward (h : fs.LeadsDown path) : fs.LeadsDown above := by
  refine ⟨fun hmem => h.no_parent ?_, ?_⟩
  · rw [hcomponents]
    exact List.mem_append_left _ hmem
  · rw [origin_above hcomponents]
    exact h.start

end Above

namespace LeadsDown

theorem names (h : fs.LeadsDown path) : ∀ c ∈ Path.inner path, ∃ name, c = .normal name := by
  intro c hc
  have hfollows := Path.follows_of_mem_inner hc
  cases c with
  | root => exact hfollows.elim
  | current => exact hfollows.elim
  | parent =>
    refine absurd ?_ h.no_parent
    rw [Path.components_eq]
    exact List.mem_append_right _ hc
  | normal name => exact ⟨name, rfl⟩

/-- **A directory at the place of a path is reached through directories.** -/
theorem enters (h : fs.LeadsDown path) (hplain : fs.Plain)
    (hdirectory : fs.hasDirectory (fs.placeOf path) = true) :
    fs.Enters fs.current (Path.components path) := by
  have hlead : fs.Enters fs.current (Path.lead path) := by
    rw [← List.append_nil (Path.lead path), enters_lead]
    exact h.start
  rw [placeOf, Path.components_eq] at hdirectory
  rw [Path.components_eq]
  exact hplain.enters_append hlead h.names hdirectory

theorem inner_ne_nil (h : fs.LeadsDown path) (hno : ¬ fs.hasDirectory (fs.placeOf path) = true) :
    Path.inner path ≠ [] := by
  intro hnil
  rw [placeOf_eq, hnil] at hno
  exact hno h.start

theorem ne_empty (h : fs.LeadsDown path) (hno : ¬ fs.hasDirectory (fs.placeOf path) = true) :
    path ≠ "" := by
  rintro rfl
  exact hno h.start

/-- A path with names ends with one, below the path above it. -/
theorem exists_above (h : fs.LeadsDown path) (hne : Path.inner path ≠ []) :
    ∃ above name, Path.parent? path = some above ∧
      Path.components path = Path.components above ++ [.normal name] := by
  obtain ⟨front, c, hinner⟩ : ∃ front c, Path.inner path = front ++ [c] :=
    ⟨_, _, (List.dropLast_concat_getLast hne).symm⟩
  obtain ⟨name, rfl⟩ := h.names c (hinner ▸ List.mem_append_right _ (List.mem_singleton_self c))
  have hcomponents : Path.components path = Path.lead path ++ front ++ [.normal name] := by
    rw [Path.components_eq, hinner, List.append_assoc]
  have hparent : Path.parent? path = some (Path.ofComponents (Path.lead path ++ front)) := by
    rw [Path.parent?, hcomponents, List.reverse_concat]
    simp
  refine ⟨_, name, hparent, ?_⟩
  rw [Path.components_parent hparent, hcomponents, List.dropLast_concat]

/-- The path above ends with a name, unless it leads to where the path starts. -/
theorem named_above (h : fs.LeadsDown above) (hparent : Path.parent? path = some above)
    (hne : Path.inner above ≠ []) : Path.Named above := by
  obtain ⟨other, name, -, hcomponents⟩ := h.exists_above hne
  have hspelling : Path.ofComponents (Path.components above) = above := by
    rw [Path.components_parent hparent]
    exact (Path.parent_eq hparent).symm
  exact Path.named_of_spelling hcomponents hspelling

theorem hasDirectory_above (h : fs.LeadsDown above) (hparent : Path.parent? path = some above)
    (hdots : endsWithDots above = true) : fs.hasDirectory (fs.placeOf above) = true := by
  by_contra hno
  rw [endsWithDots_of_named (h.named_above hparent (h.inner_ne_nil hno))] at hdots
  cases hdots

/-- The place of a path is below where fewer of its names lead. -/
theorem below_placeOf (h : fs.LeadsDown path) (hfront : front <+: Path.inner path)
    (hless : front ≠ Path.inner path) :
    Location.Below (Path.place (origin path fs.current) front) (fs.placeOf path) := by
  obtain ⟨back, hinner⟩ := hfront
  have hne : back ≠ [] := by
    rintro rfl
    exact hless ((List.append_nil front).symm.trans hinner)
  have hnames : ∀ c ∈ back, ∃ name, c = .normal name := fun c hc =>
    h.names c (hinner ▸ List.mem_append_right _ hc)
  rw [placeOf_eq, ← hinner, Path.place_append]
  exact below_place hne hnames _

end LeadsDown

/-! ## What stops a path -/

/-- Where the first names of a path lead is something that is no directory. -/
structure Stops (fs : FileSystem) (path : String) (front : List Component) : Prop where
  initial : front <+: Path.inner path
  something : fs.at? (Path.place (origin path fs.current) front) ≠ none
  no_directory : ¬ fs.hasDirectory (Path.place (origin path fs.current) front) = true

/-- Something is in the way of a path, or where it leads. -/
def Blocked (fs : FileSystem) (path : String) : Prop := ∃ front, fs.Stops path front

/-- **A path that goes through directories only leads to its place**, whatever it ends with. -/
theorem find_of_entered (follow : Bool) (hne : path ≠ "")
    (h : fs.Enters fs.current (Path.components path)) : ∃ readonly,
      fs.find follow path = .ok (.entry (fs.placeOf path) (.directory readonly)) := by
  obtain ⟨readonly, hdirectory⟩ := hasDirectory_iff.1 h.hasDirectory
  obtain ⟨pieces, hsteps, hpieces⟩ := exists_steps path
  rw [Path.components_eq, enters_lead, ← hpieces] at h
  have hplace : fs.placeOf path =
      Path.place (origin path fs.current) (pieces.filterMap Component.ofPiece?) := by
    rw [placeOf_eq, hpieces]
  have hwalk : fs.walkWith follow (fs.walkTo follow maxLinks) (origin path fs.current)
      ((pieces ++ []).filter (· ≠ "")) = _ := walkWith_append_of_enters h
  rw [List.append_nil, ← hplace, List.filter_nil, walkWith, placeOf, hdirectory] at hwalk
  refine ⟨readonly, ?_⟩
  rw [find, if_neg hne, hsteps]
  exact hwalk

theorem eq_notFound_of_walkWith (h : fs.Linkless)
    (hclear : ∀ front c, front <+: pieces.filterMap Component.ofPiece? →
      fs.at? (Path.place l front) ≠ some (.file c))
    (hwalk : fs.walkWith follow onLink l (pieces.filter (· ≠ "")) = .error fault) :
    fault = .notFound := by
  induction pieces generalizing l with
  | nil =>
    rw [List.filter_nil, walkWith] at hwalk
    split at hwalk
    · cases hwalk
    · exact (Except.error.inj hwalk).symm
  | cons piece pieces ih =>
    rcases ofPiece?_cases piece with hpiece | hpiece | hpiece
    · rw [walkWith_of_none hpiece] at hwalk
      rw [List.filterMap_cons_none hpiece] at hclear
      exact ih hclear hwalk
    · rw [walkWith_of_parent hpiece] at hwalk
      rw [List.filterMap_cons_some hpiece] at hclear
      exact ih (fun front c hfront => hclear (.parent :: front) c
        ((List.prefix_cons_inj _).2 hfront)) hwalk
    · rw [walkWith_of_name hpiece] at hwalk
      rw [List.filterMap_cons_some hpiece] at hclear
      have hnext : ∀ front c, front <+: pieces.filterMap Component.ofPiece? →
          fs.at? (Path.place (l ++ [piece]) front) ≠ some (.file c) := fun front c hfront =>
        hclear (.normal piece :: front) c ((List.prefix_cons_inj _).2 hfront)
      split at hwalk
      · split at hwalk
        · cases hwalk
        · exact (Except.error.inj hwalk).symm
      · exact ih hnext hwalk
      · next c hfile => exact absurd hfile (hnext [] c List.nil_prefix)
      · next hlink => exact absurd hlink (h _ _)

/-- **A path that no file blocks leads somewhere unless something is missing.** -/
theorem eq_notFound_of_find (h : fs.Linkless) (hclear : ¬ fs.Blocked path)
    (hfind : fs.find follow path = .error fault) : fault = .notFound := by
  rw [find] at hfind
  split at hfind
  · exact (Except.error.inj hfind).symm
  · obtain ⟨pieces, hsteps, hpieces⟩ := exists_steps path
    rw [hsteps] at hfind
    refine eq_notFound_of_walkWith h (fun front c hfront hfile => hclear ⟨front, ?_⟩) hfind
    refine ⟨hpieces ▸ hfront, ?_, not_hasDirectory_of_file hfile⟩
    rw [hfile]
    exact Option.some_ne_none _

theorem Stops.below (hcomponents : Path.components path = Path.components above ++ [.normal name])
    (h : fs.Stops above front) : fs.Stops path front := by
  have horigin := origin_above hcomponents fs.current
  refine ⟨?_, horigin ▸ h.something, horigin ▸ h.no_directory⟩
  rw [inner_eq_concat hcomponents]
  exact h.initial.trans (List.prefix_append _ _)

theorem Stops.of_same {other : String} (h : fs.Stops path front)
    (hsame : Path.same path other = true) : fs.Stops other front := by
  have horigin : origin path fs.current = origin other fs.current := by
    rw [origin, Path.startsWith_eq_of_same hsame, origin]
  exact ⟨Path.inner_eq_of_same hsame ▸ h.initial, horigin ▸ h.something, horigin ▸ h.no_directory⟩

/-- At the place of a path that nothing blocks is a directory or nothing. -/
theorem at?_placeOf_of_clear (hclear : ¬ fs.Blocked path)
    (hno : ¬ fs.hasDirectory (fs.placeOf path) = true) : fs.at? (fs.placeOf path) = none := by
  by_contra hthere
  rw [placeOf_eq] at hno hthere
  exact hclear ⟨_, List.prefix_refl _, hthere, hno⟩

/-! ## Making one directory -/

theorem makeDirectory_eq (fs : FileSystem) (path : String) :
    fs.makeDirectory path = match fs.find false (Path.trimmed path) with
      | .ok (.free l) => .ok (fs.put l (.directory false))
      | .ok (.entry _ _) => .error .alreadyExists
      | .error f => .error f := by
  rw [Path.trimmed]
  rfl

theorem components_trimmed_eq (path : String) :
    Path.components (Path.trimmed path) = Path.components path :=
  of_decide_eq_true (Path.same_trimmed path)

theorem placeOf_trimmed_eq (fs : FileSystem) (path : String) :
    fs.placeOf (Path.trimmed path) = fs.placeOf path := by
  rw [placeOf, components_trimmed_eq, placeOf]

theorem hasDirectory_of_isDirectory (h : fs.Linkless) (hdirectory : fs.isDirectory path = true) :
    fs.hasDirectory (fs.placeOf path) = true := by
  obtain ⟨l, readonly, hlocate⟩ := isDirectory_iff.1 hdirectory
  obtain ⟨rfl, hl⟩ := locate_eq_ok h hlocate
  exact hasDirectory_iff.2 ⟨readonly, hl⟩

theorem hasDirectory_of_made (h : fs.Linkless) (hmade : fs.makeDirectory path = .ok made) :
    made.hasDirectory (fs.placeOf path) = true := by
  obtain ⟨hnone, rfl⟩ := makeDirectory_eq_ok h hmade
  have hroot := ne_nil_of_not_hasDirectory (not_hasDirectory_of_none hnone)
  exact hasDirectory_iff.2 ⟨false, at?_put_self fs hroot _⟩

/-- A directory that is there is not made again. -/
theorem makeDirectory_of_entered (hne : path ≠ "")
    (h : fs.Enters fs.current (Path.components path)) :
    fs.makeDirectory path = .error .alreadyExists ∧ fs.isDirectory path = true := by
  constructor
  · have htrimmed : Path.trimmed path ≠ "" := by
      rw [Path.trimmed]
      split
      · exact hne
      · assumption
    rw [← components_trimmed_eq] at h
    obtain ⟨readonly, hfind⟩ := find_of_entered false htrimmed h
    rw [makeDirectory_eq, hfind]
  · obtain ⟨readonly, hfind⟩ := find_of_entered true hne h
    exact isDirectory_iff.2 ⟨fs.placeOf path, readonly, by rw [locate, hfind]⟩

/-- **A directory is made where nothing is**, in a directory, if the path ends with its name. -/
theorem makeDirectory_of_free (h : fs.Linkless) (hdots : endsWithDots path = false)
    (henters : fs.Enters fs.current (Path.components path).dropLast)
    (hnone : fs.at? (fs.placeOf path) = none) :
    fs.makeDirectory path = .ok (fs.put (fs.placeOf path) (.directory false)) := by
  rw [← components_trimmed_eq] at henters
  rw [makeDirectory_eq, find_of_enters (named_trimmed hdots) h henters, targetAt,
    placeOf_trimmed_eq, hnone]

/-- Only something that is missing keeps a directory from being made where nothing is, if no file
is in the way. -/
theorem eq_notFound_of_makeDirectory (h : fs.Linkless) (hclear : ¬ fs.Blocked path)
    (hnone : fs.at? (fs.placeOf path) = none) (hmake : fs.makeDirectory path = .error fault) :
    fault = .notFound := by
  rw [makeDirectory_eq] at hmake
  split at hmake
  · cases hmake
  · next hfind =>
    obtain ⟨rfl, he⟩ := find_eq_entry h hfind
    rw [placeOf_trimmed_eq, hnone] at he
    cases he
  · next hfind =>
    rw [← Except.error.inj hmake]
    exact eq_notFound_of_find h (fun ⟨front, hstops⟩ =>
      hclear ⟨front, hstops.of_same (Path.same_trimmed path)⟩) hfind

/-- Steps lead to where nothing is by a name at their end. -/
theorem exists_concat_of_walkWith (h : fs.Linkless)
    (hwalk : fs.walkWith follow onLink l pieces = .ok (.free m)) :
    ∃ front name, pieces = front ++ [name] ∧ name ≠ "." ∧ name ≠ ".." := by
  induction pieces generalizing l with
  | nil =>
    rw [walkWith] at hwalk
    split at hwalk <;> cases hwalk
  | cons piece pieces ih =>
    have hcons : (∃ front name, pieces = front ++ [name] ∧ name ≠ "." ∧ name ≠ "..") →
        ∃ front name, piece :: pieces = front ++ [name] ∧ name ≠ "." ∧ name ≠ ".." := by
      rintro ⟨front, name, rfl, hname⟩
      exact ⟨piece :: front, name, rfl, hname⟩
    rw [walkWith] at hwalk
    split at hwalk
    · exact hcons (ih hwalk)
    · next hdot =>
      split at hwalk
      · exact hcons (ih hwalk)
      · next hup =>
        simp only at hwalk
        split at hwalk
        · split at hwalk
          · next hrest =>
            obtain rfl := List.isEmpty_iff.1 (Bool.and_eq_true_iff.1 hrest).1
            exact ⟨[], piece, rfl, hdot, hup⟩
          · cases hwalk
        · exact hcons (ih hwalk)
        · split at hwalk <;> cases hwalk
        · next hlink => exact absurd hlink (h _ _)

/-- **No directory is made at the end of a path that ends with a dot.** -/
theorem endsWithDots_of_makeDirectory (h : fs.Linkless) (hmade : fs.makeDirectory path = .ok made) :
    endsWithDots path = false := by
  rw [makeDirectory_eq] at hmade
  split at hmade
  · next hfind =>
    rw [find] at hfind
    split at hfind
    · cases hfind
    · obtain ⟨front, name, hsteps, hdot, hup⟩ := exists_concat_of_walkWith h hfind
      rw [steps] at hsteps
      split at hsteps
      · have hlast := congrArg List.getLast? hsteps
        rw [List.getLast?_concat, List.getLast?_concat] at hlast
        exact absurd (Option.some.inj hlast).symm hdot
      · rw [List.append_nil] at hsteps
        rw [← endsWithDots_trimmed, endsWithDots, hsteps, List.getLast?_concat]
        simp [hdot, hup]
  · cases hmade
  · cases hmade

/-! ## Making a directory and those above it -/

theorem LeadsDown.grows (h : fs.LeadsDown path) (hgrows : Grows fs fs') : fs'.LeadsDown path := by
  refine ⟨h.no_parent, ?_⟩
  rw [hgrows.current_eq]
  exact hgrows.hasDirectory h.start

/-- **The directory itself comes last**: it is made, or there, in the tree as it was or after the
path above was made. -/
theorem last_of_makeTreeTo (h : fs.Plain) (hne : path ≠ "")
    (hmade : fs.makeTreeTo (depth + 1) path = (made, none)) : ∃ mid, Grows fs mid ∧
      (mid = fs ∨
        ∃ above, Path.parent? path = some above ∧ fs.makeTreeTo depth above = (mid, none)) ∧
      (mid.makeDirectory path = .ok made ∨ mid.isDirectory path = true ∧ made = mid) := by
  rw [makeTreeTo, if_neg hne] at hmade
  split at hmade
  · next hone =>
    cases hmade
    exact ⟨fs, .refl h, .inl rfl, .inl hone⟩
  · split at hmade
    · cases hmade
    · next above hparent =>
      have hgrows := grows_makeTreeTo h depth above
      split at hmade
      · cases hmade
      · next mid heq =>
        rw [heq] at hgrows
        refine ⟨mid, hgrows, .inr ⟨above, hparent, heq⟩, ?_⟩
        split at hmade
        · next hone =>
          cases hmade
          exact .inl hone
        · split at hmade
          · next his =>
            cases hmade
            exact .inr ⟨his, rfl⟩
          · cases hmade
  · split at hmade
    · next his =>
      cases hmade
      exact ⟨fs, .refl h, .inl rfl, .inr ⟨his, rfl⟩⟩
    · cases hmade

/-- **A directory whose making meets no fault is there.** -/
theorem hasDirectory_of_makeTreeTo (h : fs.Plain) (hne : path ≠ "")
    (hmade : fs.makeTreeTo depth path = (made, none)) :
    made.hasDirectory (fs.placeOf path) = true := by
  cases depth with
  | zero => cases hmade
  | succ depth =>
    obtain ⟨mid, hgrows, -, hlast⟩ := last_of_makeTreeTo h hne hmade
    rw [← placeOf_congr hgrows.current_eq]
    rcases hlast with hone | ⟨his, rfl⟩
    · exact hasDirectory_of_made hgrows.plain.linkless hone
    · exact hasDirectory_of_isDirectory hgrows.plain.linkless his

namespace LeadsDown

/-- A directory that is there is left as it is. -/
theorem makeTreeTo_of_hasDirectory (h : fs.LeadsDown path) (hplain : fs.Plain)
    (hdirectory : fs.hasDirectory (fs.placeOf path) = true) (depth : Nat) :
    fs.makeTreeTo (depth + 1) path = (fs, none) := by
  rw [makeTreeTo]
  split
  · rfl
  · next hne =>
    obtain ⟨hmake, his⟩ := makeDirectory_of_entered hne (h.enters hplain hdirectory)
    simp only [hmake, his, if_true]

/-- **Only what a path leads through is made**, by induction on the depth. -/
theorem at?_of_makeTreeTo (h : fs.LeadsDown path) (hplain : fs.Plain)
    (hl : ¬ l <+: fs.placeOf path) (hmade : fs.makeTreeTo depth path = (made, none)) :
    made.at? l = fs.at? l := by
  induction depth generalizing path made with
  | zero => cases hmade
  | succ depth ih =>
    by_cases hdirectory : fs.hasDirectory (fs.placeOf path) = true
    · rw [h.makeTreeTo_of_hasDirectory hplain hdirectory] at hmade
      cases hmade
      rfl
    · obtain ⟨above, name, hparent, hcomponents⟩ := h.exists_above (h.inner_ne_nil hdirectory)
      obtain ⟨mid, hgrows, hmid, hlast⟩ :=
        last_of_makeTreeTo hplain (h.ne_empty hdirectory) hmade
      have hkept : mid.at? l = fs.at? l := by
        rcases hmid with rfl | ⟨other, hother, hmid⟩
        · rfl
        · obtain rfl := Option.some.inj (hparent.symm.trans hother)
          refine ih (h.upward hcomponents) (fun hbefore => hl ?_) hmid
          rw [placeOf_eq_concat hcomponents]
          exact hbefore.trans (List.prefix_append _ _)
      rcases hlast with hone | ⟨-, rfl⟩
      · obtain ⟨-, rfl⟩ := makeDirectory_eq_ok hgrows.plain.linkless hone
        rw [← hkept, placeOf_congr hgrows.current_eq]
        refine at?_put_ne _ ?_ _
        rintro rfl
        exact hl (List.prefix_refl _)
      · exact hkept

/-- **What is missing is made from the top down** if nothing is in the way, by induction on the
depth: the path above ends with a name, or leads to where the path starts. -/
theorem exists_makeTreeTo (h : fs.LeadsDown path) (hplain : fs.Plain) (hclear : ¬ fs.Blocked path)
    (hdots : endsWithDots path = true → fs.hasDirectory (fs.placeOf path) = true)
    (hdepth : (Path.components path).length < depth) :
    ∃ made, fs.makeTreeTo depth path = (made, none) ∧
      made.hasDirectory (fs.placeOf path) = true := by
  induction depth generalizing path with
  | zero => exact absurd hdepth (Nat.not_lt_zero _)
  | succ depth ih =>
    by_cases hdirectory : fs.hasDirectory (fs.placeOf path) = true
    · exact ⟨fs, h.makeTreeTo_of_hasDirectory hplain hdirectory depth, hdirectory⟩
    · have hnone := at?_placeOf_of_clear hclear hdirectory
      have hname := Bool.eq_false_iff.2 fun hdot => hdirectory (hdots hdot)
      obtain ⟨above, name, hparent, hcomponents⟩ := h.exists_above (h.inner_ne_nil hdirectory)
      have habove := h.upward hcomponents
      have hlength : (Path.components above).length < depth := by
        rw [hcomponents, List.length_append, List.length_singleton] at hdepth
        omega
      obtain ⟨mid, hmade, hmid⟩ := ih habove (fun ⟨front, hstops⟩ =>
        hclear ⟨front, hstops.below hcomponents⟩) (habove.hasDirectory_above hparent) hlength
      rw [makeTreeTo, if_neg (h.ne_empty hdirectory)]
      cases hmake : fs.makeDirectory path with
      | ok made => exact ⟨made, rfl, hasDirectory_of_made hplain.linkless hmake⟩
      | error fault =>
        -- Only the second attempt can succeed: now the directory above is there.
        obtain rfl := eq_notFound_of_makeDirectory hplain.linkless hclear hnone hmake
        have hgrows := grows_makeTreeTo hplain depth above
        rw [hmade] at hgrows
        have hplaces := placeOf_congr hgrows.current_eq
        have hfree : mid.at? (mid.placeOf path) = none := by
          rw [hplaces, habove.at?_of_makeTreeTo hplain (not_prefix_above hcomponents fs) hmade,
            hnone]
        have henters : mid.Enters mid.current (Path.components path).dropLast := by
          rw [hcomponents, List.dropLast_concat]
          refine (habove.grows hgrows).enters hgrows.plain ?_
          rwa [hplaces]
        have hmake := makeDirectory_of_free hgrows.plain.linkless hname henters hfree
        simp only [hparent, hmade, hmake]
        exact ⟨_, rfl, hplaces path ▸ hasDirectory_of_made hgrows.plain.linkless hmake⟩

/-- **A path that ends with a dot is made only where it is there**: the directory itself comes last,
and making those above it does not make it. -/
theorem hasDirectory_of_dots (h : fs.LeadsDown path) (hplain : fs.Plain)
    (hdots : endsWithDots path = true) (hmade : fs.makeTreeTo depth path = (made, none)) :
    fs.hasDirectory (fs.placeOf path) = true := by
  by_contra hno
  obtain ⟨above, name, hparent, hcomponents⟩ := h.exists_above (h.inner_ne_nil hno)
  cases depth with
  | zero => cases hmade
  | succ depth =>
    obtain ⟨mid, hgrows, hmid, hone | ⟨his, rfl⟩⟩ :=
      last_of_makeTreeTo hplain (h.ne_empty hno) hmade
    · rw [endsWithDots_of_makeDirectory hgrows.plain.linkless hone] at hdots
      cases hdots
    · have hthere := hasDirectory_of_isDirectory hgrows.plain.linkless his
      rcases hmid with rfl | ⟨other, hother, hmid⟩
      · exact hno hthere
      · obtain rfl := Option.some.inj (hparent.symm.trans hother)
        have hkept := (h.upward hcomponents).at?_of_makeTreeTo hplain
          (not_prefix_above hcomponents fs) hmid
        rw [placeOf_congr hgrows.current_eq, hasDirectory_congr hkept] at hthere
        exact hno hthere

/-- No directory is below what was none, or in its place: what was there stays. -/
theorem not_blocked (h : fs.LeadsDown path) (hgrows : Grows fs made)
    (hdirectory : made.hasDirectory (fs.placeOf path) = true) : ¬ fs.Blocked path := by
  rintro ⟨front, hstops⟩
  have hno : ¬ made.hasDirectory (Path.place (origin path fs.current) front) = true := by
    obtain ⟨e, he⟩ := Option.ne_none_iff_exists'.1 hstops.something
    rw [hasDirectory_congr ((hgrows.kept _ e he).trans he.symm)]
    exact hstops.no_directory
  by_cases hwhole : front = Path.inner path
  · rw [hwhole, ← placeOf_eq] at hno
    exact hno hdirectory
  · refine hno (hgrows.plain.hasDirectory_of_below (h.below_placeOf hstops.initial hwhole) ?_)
    exact fun hnone => not_hasDirectory_of_none hnone hdirectory

end LeadsDown

/-- A directory is made at a path, with those above it: nothing that is there is touched. -/
def Makes (fs : FileSystem) (path : String) : Prop :=
  ∃ made, fs.makeTree path = (made, none) ∧ Grows fs made ∧
    made.hasDirectory (fs.placeOf path) = true

/-- **A directory is made at a path just if nothing is in its way** and, with a dot at the end of
the path, it is there already. -/
theorem LeadsDown.makes_iff (h : fs.LeadsDown path) (hplain : fs.Plain) : fs.Makes path ↔
    ¬ fs.Blocked path ∧ (endsWithDots path = true → fs.hasDirectory (fs.placeOf path) = true) := by
  have hgrows := grows_makeTreeTo hplain ((Path.components path).length + 1) path
  constructor
  · rintro ⟨made, hmade, hgrows, hdirectory⟩
    exact ⟨h.not_blocked hgrows hdirectory, fun hdots => h.hasDirectory_of_dots hplain hdots hmade⟩
  · rintro ⟨hclear, hdots⟩
    obtain ⟨made, hmade, hdirectory⟩ :=
      h.exists_makeTreeTo hplain hclear hdots (Nat.lt_succ_self _)
    rw [hmade] at hgrows
    exact ⟨made, hmade, hgrows, hdirectory⟩

/-- Without a fault the directory is there, and nothing else was touched. -/
theorem LeadsDown.makes_of_makeTree (h : fs.LeadsDown path) (hplain : fs.Plain)
    (hmade : (fs.makeTree path).2 = none) : fs.Makes path := by
  have hgrows := grows_makeTreeTo hplain ((Path.components path).length + 1) path
  refine ⟨(fs.makeTree path).1, Prod.ext rfl hmade, hgrows, ?_⟩
  by_cases hne : path = ""
  · subst hne
    exact hgrows.hasDirectory h.start
  · exact hasDirectory_of_makeTreeTo hplain hne (Prod.ext rfl hmade)

end FileSystem

end InterfaceGen
