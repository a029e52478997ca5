import InterfaceGen.Proofs.Files.Tree

/-!
# Proofs/Files/Along — a path that ends with a name leads into the directory above it

Without links the directories on the way are all that can stop a path: if its components but the
last lead from directory to directory (`Enters`), then the path leads to its place, whatever is
there, and else nowhere (`find_of_enters`, `enters_of_find`). So a path keeps leading to its place
as long as directories stay, and paths with the same directory lead there or not together. Main
statements: `locate_iff`, `exists?_iff`.
-/

namespace InterfaceGen

/-! ## Paths that end with a name -/

theorem Component.ofPiece?_of_follows {name : String} (h : (Component.normal name).Follows) :
    ofPiece? name = some (.normal name) := ofPiece?_spelling h

namespace Path

variable {base path name : String}

/-- The spelling of a path ends with a name. -/
def Named (path : String) : Prop :=
  ∃ front name, Text.pieces '/' path = front ++ [name] ∧ (Component.normal name).Follows

theorem pieces_join (h : ¬ path.startsWith "/" = true) (base : String) :
    ∃ front, Text.pieces '/' (join base path) = front ++ Text.pieces '/' path := by
  rw [join, if_neg h]
  split
  · exact ⟨[], rfl⟩
  · split
    · next hend =>
      obtain ⟨front, rfl⟩ := endsWith_slash_iff.1 hend
      exact ⟨Text.pieces '/' front, Text.pieces_append_slash front path⟩
    · exact ⟨Text.pieces '/' base, Text.pieces_append_slash base path⟩

theorem Named.join (h : Named path) (hstart : ¬ path.startsWith "/" = true) (base : String) :
    Named (join base path) := by
  obtain ⟨front, name, hpieces, hname⟩ := h
  obtain ⟨before, hjoin⟩ := pieces_join hstart base
  exact ⟨before ++ front, name, by rw [hjoin, hpieces, List.append_assoc], hname⟩

/-- A path that a name is joined to ends with it. -/
theorem named_join (h : (Component.normal name).Follows) (base : String) :
    Named (Path.join base name) := by
  have hpieces : Text.pieces '/' name = [name] := Text.pieces_of_not_mem h.2.2.2
  refine Named.join ⟨[], name, hpieces, h⟩ ?_ base
  rw [startsWith_slash_iff]
  rintro ⟨cs, hcs⟩
  exact h.2.2.2 (hcs ▸ List.mem_cons_self)

/-- A path that is spelled plainly ends with the name that its components end with. -/
theorem named_of_spelling {front : List Component}
    (hcomponents : components path = front ++ [.normal name])
    (hspelling : ofComponents (components path) = path) : Named path := by
  have hname : (Component.normal name).Follows := (canonical_components path).follows
    (hcomponents ▸ List.mem_append_right _ (List.mem_singleton_self _))
  rw [← hspelling, hcomponents, ofComponents, List.foldl_append]
  exact named_join hname _

/-- A path that is spelled plainly and leads down ends with a name. -/
theorem Descends.named (h : Descends path) (hspelling : ofComponents (components path) = path) :
    Named path := by
  obtain ⟨front, c, hcs⟩ : ∃ front c, components path = front ++ [c] :=
    ⟨_, _, (List.dropLast_concat_getLast h.ne_nil).symm⟩
  obtain ⟨name, rfl⟩ := h.names c (hcs ▸ List.mem_append_right _ (List.mem_singleton_self c))
  exact named_of_spelling hcs hspelling

namespace Named

theorem ne_empty (h : Named path) : path ≠ "" := by
  obtain ⟨front, name, hpieces, hname⟩ := h
  rintro rfl
  have hlast : ([""] : List String).getLast? = some name := by
    rw [show [""] = Text.pieces '/' "" from rfl, hpieces, List.getLast?_concat]
  exact hname.1 (Option.some.inj hlast).symm

theorem not_endsWith (h : Named path) : ¬ path.endsWith "/" = true := by
  obtain ⟨front, name, hpieces, hname⟩ := h
  intro hend
  obtain ⟨other, rfl⟩ := endsWith_slash_iff.1 hend
  have hlast := congrArg List.getLast? ((Text.pieces_concat_slash other).symm.trans hpieces)
  rw [List.getLast?_concat, List.getLast?_concat] at hlast
  exact hname.1 (Option.some.inj hlast).symm

theorem steps_eq (h : Named path) :
    FileSystem.steps path = (Text.pieces '/' path).filter (· ≠ "") := by
  rw [FileSystem.steps, if_neg h.not_endsWith, List.append_nil]

/-- The components of a path that ends with a name. -/
theorem components_eq (h : Named path) : ∃ front name, Text.pieces '/' path = front ++ [name] ∧
    (Component.normal name).Follows ∧
      components path = lead path ++ front.filterMap Component.ofPiece? ++ [.normal name] := by
  obtain ⟨front, name, hpieces, hname⟩ := h
  refine ⟨front, name, hpieces, hname, ?_⟩
  rw [Path.components_eq, inner, hpieces, List.filterMap_append,
    List.filterMap_cons_some (Component.ofPiece?_of_follows hname), List.filterMap_nil,
    List.append_assoc]

end Named

/-- With another name at its end a path keeps its other components. -/
theorem components_withFileName (h : Named path) (hname : (Component.normal name).Follows) :
    components (withFileName path name) = (components path).dropLast ++ [.normal name] := by
  obtain ⟨front, last, -, -, hcomponents⟩ := h.components_eq
  have hfile : fileName? path = some last := by
    rw [fileName?, hcomponents, List.getLast?_concat]
  obtain ⟨parent, hparent⟩ : ∃ parent, parent? path = some parent := by
    rw [parent?, hcomponents, List.reverse_concat]
    exact ⟨_, rfl⟩
  rw [withFileName, hfile, hparent]
  exact (components_join_name hname parent).trans (by rw [components_parent hparent])

end Path

/-! ## Directories on the way -/

namespace FileSystem

variable {fs fs' : FileSystem} {l m : Location} {e : Entry} {path : String} {follow : Bool}
  {t : Target} {cs front back : List Component} {piece name : String} {pieces : List String}
  {onLink : Location → List String → Except FileFault Target}

/-- Components lead from a location to a directory, through directories. -/
def Enters (fs : FileSystem) : Location → List Component → Prop
  | l, [] => fs.hasDirectory l = true
  | l, .normal name :: cs => fs.hasDirectory (l ++ [name]) = true ∧ fs.Enters (l ++ [name]) cs
  | l, c :: cs => fs.Enters (c.follow l) cs

theorem Enters.hasDirectory (h : fs.Enters l cs) : fs.hasDirectory (Path.place l cs) = true := by
  induction cs generalizing l with
  | nil => exact h
  | cons c cs ih =>
    cases c with
    | normal name => exact ih h.2
    | _ => exact ih h

/-- **Directories that stay are entered as before.** -/
theorem Enters.mono (h : fs.Enters l cs)
    (hkept : ∀ m, fs.hasDirectory m = true → fs'.hasDirectory m = true) : fs'.Enters l cs := by
  induction cs generalizing l with
  | nil => exact hkept l h
  | cons c cs ih =>
    cases c with
    | normal name => exact ⟨hkept _ h.1, ih h.2⟩
    | _ => exact ih h

/-- Components are followed as before where what they lead to stays. -/
theorem Enters.congr (h : fs.Enters l cs) (hend : cs = [] → fs'.hasDirectory l = true)
    (hsame : ∀ front, front <+: cs → front ≠ [] →
      fs'.at? (Path.place l front) = fs.at? (Path.place l front)) : fs'.Enters l cs := by
  induction cs generalizing l with
  | nil => exact hend rfl
  | cons c cs ih =>
    have hfirst : fs'.at? (c.follow l) = fs.at? (c.follow l) :=
      hsame [c] ((List.prefix_cons_inj c).2 List.nil_prefix) (List.cons_ne_nil c [])
    have hrest : ∀ front, front <+: cs → front ≠ [] →
        fs'.at? (Path.place (c.follow l) front) = fs.at? (Path.place (c.follow l) front) :=
      fun front hfront _ =>
        hsame (c :: front) ((List.prefix_cons_inj c).2 hfront) (List.cons_ne_nil c front)
    have hlast : cs = [] → fs.Enters (c.follow l) cs → fs'.hasDirectory (c.follow l) = true := by
      rintro rfl hdirectory
      exact (hasDirectory_congr hfirst).trans hdirectory
    cases c with
    | normal name =>
      exact ⟨(hasDirectory_congr hfirst).trans h.1, ih h.2 (hlast · h.2) hrest⟩
    | _ => exact ih h (hlast · h) hrest

/-- Names lead further to any directory that is below. -/
theorem Plain.enters_append (h : fs.Plain) (hfront : fs.Enters l front)
    (hnames : ∀ c ∈ back, ∃ name, c = .normal name)
    (hdirectory : fs.hasDirectory (Path.place l (front ++ back)) = true) :
    fs.Enters l (front ++ back) := by
  induction front generalizing l with
  | cons c front ih =>
    cases c with
    | normal name => exact ⟨hfront.1, ih hfront.2 hdirectory⟩
    | _ => exact ih hfront hdirectory
  | nil =>
    rw [List.nil_append] at hdirectory ⊢
    clear hfront
    induction back generalizing l with
    | nil => exact hdirectory
    | cons c back ih =>
      obtain ⟨⟨name, rfl⟩, hrest⟩ := List.forall_mem_cons.1 hnames
      refine ⟨?_, ih hrest hdirectory⟩
      by_cases hnil : back = []
      · rwa [hnil] at hdirectory
      · refine h.hasDirectory_of_below (below_place hnil hrest (l ++ [name])) fun hnone => ?_
        exact not_hasDirectory_of_none hnone hdirectory

/-! ## Following -/

/-- What is at a location, as a path finds it. -/
def targetAt (fs : FileSystem) (l : Location) : Target :=
  match fs.at? l with
  | some e => .entry l e
  | none => .free l

/-- The start of a path is followed to where its steps begin. -/
theorem enters_lead (fs : FileSystem) (path : String) (here : Location) (cs : List Component) :
    fs.Enters here (Path.lead path ++ cs) ↔ fs.Enters (origin path here) cs := by
  rw [Path.lead, origin]
  split
  · exact Iff.rfl
  · split
    · exact Iff.rfl
    · exact Iff.rfl

/-! Steps are the pieces of a path that are not empty; the pieces that stand for no component lead
nowhere. -/

theorem walkWith_of_none (h : Component.ofPiece? piece = none) :
    fs.walkWith follow onLink l ((piece :: pieces).filter (· ≠ "")) =
      fs.walkWith follow onLink l (pieces.filter (· ≠ "")) := by
  by_cases hempty : piece = ""
  · rw [List.filter_cons_of_neg (by simpa using hempty)]
  · have hdot : piece = "." := by
      rw [Component.ofPiece?] at h
      split at h
      · next hor => exact hor.resolve_left hempty
      · split at h <;> cases h
    rw [List.filter_cons_of_pos (by simpa using hempty), walkWith, if_pos hdot]

theorem walkWith_of_parent (h : Component.ofPiece? piece = some .parent) :
    fs.walkWith follow onLink l ((piece :: pieces).filter (· ≠ "")) =
      fs.walkWith follow onLink l.dropLast (pieces.filter (· ≠ "")) := by
  have hup : piece = ".." := by
    rw [Component.ofPiece?] at h
    split at h
    · cases h
    · split at h
      · next hup => exact hup
      · cases h
  subst hup
  rw [List.filter_cons_of_pos (by decide), walkWith, if_neg (by decide), if_pos rfl]

/-- A piece that stands for a component is spelled like it. -/
theorem eq_of_ofPiece? (h : Component.ofPiece? piece = some (.normal name)) :
    piece = name ∧ name ≠ "" ∧ name ≠ "." ∧ name ≠ ".." := by
  rw [Component.ofPiece?] at h
  split at h
  · cases h
  · next hor =>
    rw [not_or] at hor
    split at h
    · cases h
    · next hup =>
      obtain rfl := Component.normal.inj (Option.some.inj h)
      exact ⟨rfl, hor.1, hor.2, hup⟩

/-- A name leads to what is below a location, and on from there if that is a directory. -/
theorem walkWith_of_name (h : Component.ofPiece? piece = some (.normal name)) :
    fs.walkWith follow onLink l ((piece :: pieces).filter (· ≠ "")) =
      match fs.at? (l ++ [name]) with
      | none =>
        if (pieces.filter (· ≠ "")).isEmpty && fs.hasDirectory l then .ok (.free (l ++ [name]))
        else .error .notFound
      | some (.directory _) => fs.walkWith follow onLink (l ++ [name]) (pieces.filter (· ≠ ""))
      | some (.file c) =>
        if (pieces.filter (· ≠ "")).isEmpty then .ok (.entry (l ++ [name]) (.file c))
        else .error .notADirectory
      | some (.link target) =>
        if (pieces.filter (· ≠ "")).isEmpty && !follow then
          .ok (.entry (l ++ [name]) (.link target))
        else onLink (origin target l) (steps target ++ pieces.filter (· ≠ "")) := by
  obtain ⟨rfl, hempty, hdot, hup⟩ := eq_of_ofPiece? h
  rw [List.filter_cons_of_pos (by simpa using hempty)]
  exact (if_neg hdot).trans (if_neg hup)

theorem ofPiece?_cases (piece : String) : Component.ofPiece? piece = none ∨
    Component.ofPiece? piece = some .parent ∨
      Component.ofPiece? piece = some (.normal piece) := by
  rw [Component.ofPiece?]
  split
  · exact .inl rfl
  · split
    · exact .inr (.inl rfl)
    · exact .inr (.inr rfl)

/-- Steps go on from where the directories lead that come first. -/
theorem walkWith_append_of_enters {front back : List String}
    (hfront : fs.Enters l (front.filterMap Component.ofPiece?)) :
    fs.walkWith follow onLink l ((front ++ back).filter (· ≠ "")) =
      fs.walkWith follow onLink (Path.place l (front.filterMap Component.ofPiece?))
        (back.filter (· ≠ "")) := by
  induction front generalizing l with
  | nil => rfl
  | cons piece front ih =>
    rw [List.cons_append]
    rcases ofPiece?_cases piece with hpiece | hpiece | hpiece
    · rw [List.filterMap_cons_none hpiece] at hfront ⊢
      rw [walkWith_of_none hpiece]
      exact ih hfront
    · rw [List.filterMap_cons_some hpiece] at hfront ⊢
      rw [walkWith_of_parent hpiece]
      exact ih hfront
    · rw [List.filterMap_cons_some hpiece] at hfront ⊢
      obtain ⟨readonly, hdirectory⟩ := hasDirectory_iff.1 hfront.1
      simp only [walkWith_of_name hpiece, hdirectory]
      exact ih hfront.2

theorem walkWith_of_enters (h : fs.Linkless) (hname : (Component.normal name).Follows)
    (hfront : fs.Enters l (pieces.filterMap Component.ofPiece?)) :
    fs.walkWith follow onLink l ((pieces ++ [name]).filter (· ≠ "")) =
      .ok (fs.targetAt (Path.place l (pieces.filterMap Component.ofPiece?) ++ [name])) := by
  rw [walkWith_append_of_enters hfront, walkWith_of_name (Component.ofPiece?_of_follows hname),
    targetAt]
  cases hat : fs.at? (Path.place l (pieces.filterMap Component.ofPiece?) ++ [name]) with
  | none => exact if_pos hfront.hasDirectory
  | some e =>
    cases e with
    | directory readonly => simp only [List.filter_nil, walkWith, hat]
    | file content => rfl
    | link target => exact absurd hat (h _ _)

theorem enters_of_walkWith (h : fs.Plain) (hname : (Component.normal name).Follows)
    (ht : fs.walkWith follow onLink l ((pieces ++ [name]).filter (· ≠ "")) = .ok t) :
    fs.Enters l (pieces.filterMap Component.ofPiece?) := by
  induction pieces generalizing l with
  | nil =>
    rw [List.nil_append, walkWith_of_name (Component.ofPiece?_of_follows hname)] at ht
    rw [List.filterMap_nil]
    cases hl : fs.at? (l ++ [name]) with
    | none =>
      simp only [hl] at ht
      split at ht
      · next hrest => exact (Bool.and_eq_true_iff.1 hrest).2
      · cases ht
    | some e => exact h.stands l name (hl ▸ Option.some_ne_none e)
  | cons piece pieces ih =>
    rw [List.cons_append] at ht
    rcases ofPiece?_cases piece with hpiece | hpiece | hpiece
    · rw [List.filterMap_cons_none hpiece]
      rw [walkWith_of_none hpiece] at ht
      exact ih ht
    · rw [List.filterMap_cons_some hpiece]
      rw [walkWith_of_parent hpiece] at ht
      exact ih ht
    · have hmore : ((pieces ++ [name]).filter (· ≠ "")).isEmpty = false := by
        rw [List.filter_append, List.filter_cons_of_pos (by simpa using hname.1)]
        exact List.isEmpty_eq_false_iff.2
          (List.append_ne_nil_of_right_ne_nil _ (List.cons_ne_nil _ _))
      rw [List.filterMap_cons_some hpiece]
      simp only [walkWith_of_name hpiece, hmore, Bool.false_and, Bool.false_eq_true, if_false] at ht
      split at ht
      · cases ht
      · next hl => exact ⟨hasDirectory_iff.2 ⟨_, hl⟩, ih ht⟩
      · cases ht
      · next hl => exact absurd hl (h.linkless _ _)

/-- A path to a directory leads through directories, however it ends. -/
theorem enters_of_walkWith_directory {readonly : Bool} (h : fs.Linkless)
    (ht : fs.walkWith follow onLink l (pieces.filter (· ≠ "")) =
      .ok (.entry m (.directory readonly))) :
    fs.Enters l (pieces.filterMap Component.ofPiece?) := by
  induction pieces generalizing l with
  | nil =>
    rw [List.filter_nil, walkWith] at ht
    split at ht
    · next hl =>
      obtain ⟨rfl, rfl⟩ := Target.entry.inj (Except.ok.inj ht)
      exact hasDirectory_iff.2 ⟨readonly, hl⟩
    · cases ht
  | cons piece pieces ih =>
    rcases ofPiece?_cases piece with hpiece | hpiece | hpiece
    · rw [List.filterMap_cons_none hpiece]
      rw [walkWith_of_none hpiece] at ht
      exact ih ht
    · rw [List.filterMap_cons_some hpiece]
      rw [walkWith_of_parent hpiece] at ht
      exact ih ht
    · rw [List.filterMap_cons_some hpiece]
      rw [walkWith_of_name hpiece] at ht
      split at ht
      · split at ht <;> cases ht
      · next hl => exact ⟨hasDirectory_iff.2 ⟨_, hl⟩, ih ht⟩
      · split at ht <;> cases ht
      · next hl => exact absurd hl (h _ _)

/-- Something is at a path if the path leads to it. -/
theorem exists?_eq_true_iff : fs.exists? path = true ↔ ∃ l e, fs.locate path = .ok (l, e) := by
  rw [exists?]
  cases fs.locate path with
  | error fault => exact iff_of_false nofun nofun
  | ok found => exact iff_of_true rfl ⟨found.1, found.2, rfl⟩

/-! ## Where a path that ends with a name leads -/

section Named

variable (hpath : Path.Named path)
include hpath

/-- **A path that ends with a name leads to its place** if its directory is entered. -/
theorem find_of_enters (h : fs.Linkless)
    (henters : fs.Enters fs.current (Path.components path).dropLast) :
    fs.find follow path = .ok (fs.targetAt (fs.placeOf path)) := by
  obtain ⟨front, name, hpieces, hname, hcomponents⟩ := hpath.components_eq
  rw [hcomponents, List.dropLast_concat, enters_lead] at henters
  have hplace : fs.placeOf path =
      Path.place (origin path fs.current) (front.filterMap Component.ofPiece?) ++ [name] := by
    rw [placeOf, ← foldl_steps, hpath.steps_eq, foldl_stepTo, hpieces, List.filterMap_append,
      List.filterMap_cons_some (Component.ofPiece?_of_follows hname), Path.place_append]
    rfl
  rw [find, if_neg hpath.ne_empty, hpath.steps_eq, hpieces, hplace]
  exact walkWith_of_enters h hname henters

/-- **A path that ends with a name leads nowhere** unless its directory is entered. -/
theorem enters_of_find (h : fs.Plain) (ht : fs.find follow path = .ok t) :
    fs.Enters fs.current (Path.components path).dropLast := by
  obtain ⟨front, name, hpieces, hname, hcomponents⟩ := hpath.components_eq
  rw [hcomponents, List.dropLast_concat, enters_lead]
  rw [find, if_neg hpath.ne_empty, hpath.steps_eq, hpieces] at ht
  exact enters_of_walkWith h hname ht

/-- **A path that ends with a name leads to what is at its place** if its directory is entered. -/
theorem locate_iff (h : fs.Plain) : fs.locate path = .ok (l, e) ↔
    fs.Enters fs.current (Path.components path).dropLast ∧ l = fs.placeOf path ∧
      fs.at? l = some e := by
  constructor
  · intro hlocate
    refine ⟨?_, locate_eq_ok h.linkless hlocate⟩
    rw [locate] at hlocate
    split at hlocate
    · next hfind => exact enters_of_find hpath h hfind
    · cases hlocate
    · cases hlocate
  · rintro ⟨henters, rfl, he⟩
    rw [locate, find_of_enters hpath h.linkless henters, targetAt, he]

theorem exists?_iff (h : fs.Plain) : fs.exists? path = true ↔
    fs.Enters fs.current (Path.components path).dropLast ∧ fs.at? (fs.placeOf path) ≠ none := by
  constructor
  · intro hexists
    obtain ⟨l, e, hlocate⟩ := exists?_eq_true_iff.1 hexists
    obtain ⟨henters, rfl, he⟩ := (locate_iff hpath h).1 hlocate
    exact ⟨henters, he ▸ Option.some_ne_none e⟩
  · rintro ⟨henters, hsome⟩
    obtain ⟨e, he⟩ := Option.ne_none_iff_exists'.1 hsome
    exact exists?_eq_true_iff.2 ⟨_, e, (locate_iff hpath h).2 ⟨henters, rfl, he⟩⟩

theorem readText_iff (h : fs.Plain) {text : String} : fs.readText path = .ok text ↔
    fs.Enters fs.current (Path.components path).dropLast ∧
      fs.at? (fs.placeOf path) = some (.file (.text text)) := by
  rw [readText]
  constructor
  · intro hread
    split at hread
    · next hlocate =>
      obtain ⟨henters, rfl, he⟩ := (locate_iff hpath h).1 hlocate
      rw [← Except.ok.inj hread]
      exact ⟨henters, he⟩
    · cases hread
    · cases hread
    · cases hread
  · rintro ⟨henters, he⟩
    rw [(locate_iff hpath h).2 ⟨henters, rfl, he⟩]

/-- The directory of a file is entered once the file is written. -/
theorem enters_written {made : FileSystem} {c : Content} (h : fs.Plain)
    (hmade : fs.write path c = .ok made) :
    made.Enters made.current (Path.components path).dropLast := by
  have hfind : ∃ t, fs.find true path = .ok t := by
    rw [write] at hmade
    split at hmade
    · next hfind => exact ⟨_, hfind⟩
    · next hfind => exact ⟨_, hfind⟩
    · cases hmade
    · cases hmade
  obtain ⟨t, hfind⟩ := hfind
  rw [current_written h hmade]
  exact (enters_of_find hpath h hfind).mono fun l hl => (hasDirectory_written h hmade l).trans hl

end Named

/-- The steps of a path are pieces that stand for what follows its start. -/
theorem exists_steps (path : String) : ∃ pieces : List String,
    steps path = pieces.filter (· ≠ "") ∧
      pieces.filterMap Component.ofPiece? = Path.inner path := by
  refine ⟨Text.pieces '/' path ++ if path.endsWith "/" then ["."] else [], ?_, ?_⟩
  · rw [steps, List.filter_append]
    split <;> rfl
  · rw [Path.inner, List.filterMap_append]
    split <;> exact List.append_nil _

/-- A path to a directory is followed through directories. -/
theorem enters_of_locate {readonly : Bool} (h : fs.Linkless)
    (hlocate : fs.locate path = .ok (l, .directory readonly)) :
    fs.Enters fs.current (Path.components path) := by
  obtain ⟨pieces, hsteps, hpieces⟩ := exists_steps path
  rw [locate] at hlocate
  split at hlocate
  · next hfind =>
    obtain ⟨rfl, rfl⟩ := Prod.mk.inj (Except.ok.inj hlocate)
    rw [find] at hfind
    split at hfind
    · cases hfind
    · rw [Path.components_eq, enters_lead, ← hpieces]
      rw [hsteps] at hfind
      exact enters_of_walkWith_directory h hfind
  · cases hlocate
  · cases hlocate

end FileSystem

end InterfaceGen
