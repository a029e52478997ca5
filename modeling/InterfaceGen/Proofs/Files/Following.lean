import InterfaceGen.Proofs.Files.Along

/-!
# Proofs/Files/Following — a path is followed step by step, through links or not

A path goes on from the directory that its front leads to, with the links that are left
(`walkTo_append`), and a dot on the way leads nowhere, so it may be left out. Hence what a path
leads to depends on its components alone: two spellings of one path that lead to anything lead to
the same. Main statements: `locate_join`, `locate_eq_of_same`.
-/

namespace InterfaceGen

/-! ## Steps -/

namespace FileSystem

variable {fs fs' : FileSystem} {l m : Location} {e : Entry} {name : String}
  {front back ss : List String} {links : Nat}
  {onLink : Location → List String → Except FileFault Target}

/-- The directories and the links of a file system, and so all ways through it, are in another. -/
def Ways (fs fs' : FileSystem) : Prop :=
  ∀ l e, fs.at? l = some e → e.isFile = false → fs'.at? l = some e

theorem Ways.refl (fs : FileSystem) : fs.Ways fs := fun _ _ h _ => h

/-- **The first step towards an entry**: it ends at a file, or goes on from another location, with
the steps of a link's target in front of the others. With the same ways another file system goes on
alike. -/
theorem walkWith_cons_eq_entry (hways : fs.Ways fs')
    (h : fs.walkWith true onLink l (name :: back) = .ok (.entry m e)) :
    (back = [] ∧ e.isFile = true ∧ name ≠ "." ∧ name ≠ ".." ∧ m = l ++ [name] ∧
        fs.at? m = some e) ∨
      (∃ next, ∀ rest,
        fs.walkWith true onLink l (name :: rest) = fs.walkWith true onLink next rest ∧
          ∀ onLink', fs'.walkWith true onLink' l (name :: rest) =
            fs'.walkWith true onLink' next rest) ∨
        ∃ next target, ∀ rest,
          fs.walkWith true onLink l (name :: rest) = onLink next (steps target ++ rest) ∧
            ∀ onLink', fs'.walkWith true onLink' l (name :: rest) =
              onLink' next (steps target ++ rest) := by
  by_cases hdot : name = "."
  · exact .inr (.inl ⟨l, fun rest => by simp [walkWith, hdot]⟩)
  by_cases hup : name = ".."
  · exact .inr (.inl ⟨l.dropLast, fun rest => by simp [walkWith, hup]⟩)
  have hstep : ∀ (fs : FileSystem) onLink rest, fs.walkWith true onLink l (name :: rest) = _ :=
    fun fs onLink rest => by rw [walkWith, if_neg hdot, if_neg hup]
  rw [hstep] at h
  cases hnext : fs.at? (l ++ [name]) with
  | none =>
    simp only [hnext] at h
    split at h <;> cases h
  | some found =>
    cases found with
    | directory readonly =>
      have hnext' := hways _ _ hnext rfl
      refine .inr (.inl ⟨l ++ [name], fun rest => ⟨?_, fun onLink' => ?_⟩⟩)
      · rw [hstep]; simp only [hnext]
      · rw [hstep]; simp only [hnext']
    | file content =>
      simp only [hnext] at h
      split at h
      · next hempty =>
        cases h
        exact .inl ⟨List.isEmpty_iff.1 hempty, rfl, hdot, hup, rfl, hnext⟩
      · cases h
    | link target =>
      have hnext' := hways _ _ hnext rfl
      refine .inr (.inr ⟨origin target l, target, fun rest => ⟨?_, fun onLink' => ?_⟩⟩)
      · rw [hstep]; simp [hnext]
      · rw [hstep]; simp [hnext']

/-- **A dot may be left out of what leads to an entry.** -/
theorem walkTo_of_dot (h : fs.walkTo true links l (front ++ "." :: back) = .ok (.entry m e)) :
    fs.walkTo true links l (front ++ back) = .ok (.entry m e) := by
  induction links generalizing l front with
  | zero => cases h
  | succ links ih =>
    rw [walkTo] at h ⊢
    induction front generalizing l with
    | nil => rwa [List.nil_append, walkWith, if_pos rfl] at h
    | cons name front ihfront =>
      rw [List.cons_append] at h ⊢
      obtain ⟨hnil, -⟩ | ⟨next, hnext⟩ | ⟨next, target, hnext⟩ :=
        walkWith_cons_eq_entry (Ways.refl fs) h
      · exact absurd hnil (by simp)
      · rw [(hnext _).1] at h ⊢
        exact ihfront h
      · rw [(hnext _).1, ← List.append_assoc] at h ⊢
        exact ih h

/-- …and so may all dots. -/
theorem walkTo_filter_dots (h : fs.walkTo true links l (front ++ back) = .ok (.entry m e)) :
    fs.walkTo true links l (front ++ back.filter (· ≠ ".")) = .ok (.entry m e) := by
  induction back generalizing front with
  | nil => exact h
  | cons name back ih =>
    by_cases hdot : name = "."
    · subst hdot
      exact ih (walkTo_of_dot h)
    · rw [List.filter_cons_of_pos (by simpa using hdot)]
      have hcons : ∀ rest, front ++ name :: rest = front ++ [name] ++ rest := by simp
      rw [hcons] at h ⊢
      exact ih h

/-- **A path goes on from the directory that its front leads to**, with the links that are left. -/
theorem walkTo_append (h : fs.walkTo true links l ss = .ok (.entry m e)) (he : e.isFile = false) :
    ∃ left, ∀ rest, fs.walkTo true links l (ss ++ rest) = fs.walkTo true (left + 1) m rest := by
  induction links generalizing l ss with
  | zero => cases h
  | succ links ih =>
    rw [walkTo] at h
    induction ss generalizing l with
    | nil =>
      rw [walkWith] at h
      split at h
      · cases h
        exact ⟨links, fun rest => rfl⟩
      · cases h
    | cons name ss ihsteps =>
      obtain ⟨-, hfile, -⟩ | ⟨next, hnext⟩ | ⟨next, target, hnext⟩ :=
        walkWith_cons_eq_entry (Ways.refl fs) h
      · rw [he] at hfile
        cases hfile
      · rw [(hnext _).1] at h
        obtain ⟨left, hrest⟩ := ihsteps h
        exact ⟨left, fun rest => (hnext _).1.trans (hrest rest)⟩
      · rw [(hnext _).1] at h
        obtain ⟨left, hrest⟩ := ih h
        refine ⟨left, fun rest => ?_⟩
        rw [← hrest rest, List.append_assoc]
        exact (hnext _).1

/-- **What leads to an entry leads there wherever there are the same ways and the entry.** -/
theorem walkTo_of_ways (hways : fs.Ways fs') (hm : fs'.at? m = some e)
    (h : fs.walkTo true links l ss = .ok (.entry m e)) :
    fs'.walkTo true links l ss = .ok (.entry m e) := by
  induction links generalizing l ss with
  | zero => cases h
  | succ links ih =>
    rw [walkTo] at h ⊢
    induction ss generalizing l with
    | nil =>
      rw [walkWith] at h ⊢
      split at h
      · cases h
        rw [hm]
      · cases h
    | cons name ss ihsteps =>
      obtain ⟨rfl, hfile, hdot, hup, rfl, -⟩ | ⟨next, hnext⟩ | ⟨next, target, hnext⟩ :=
        walkWith_cons_eq_entry hways h
      · rw [walkWith, if_neg hdot, if_neg hup]
        cases e with
        | file content => simp only [hm, List.isEmpty_nil, if_true]
        | directory readonly => cases hfile
        | link target => cases hfile
      · rw [(hnext _).1] at h
        rw [(hnext _).2]
        exact ihsteps h
      · rw [(hnext _).1] at h
        rw [(hnext _).2]
        exact ih h

/-- A path leads to what is there. -/
theorem at?_of_walkTo (h : fs.walkTo true links l ss = .ok (.entry m e)) : fs.at? m = some e := by
  induction links generalizing l ss with
  | zero => cases h
  | succ links ih =>
    rw [walkTo] at h
    induction ss generalizing l with
    | nil =>
      rw [walkWith] at h
      split at h
      · next hl => cases h; exact hl
      · cases h
    | cons name ss ihsteps =>
      obtain ⟨-, -, -, -, -, hm⟩ | ⟨next, hnext⟩ | ⟨next, target, hnext⟩ :=
        walkWith_cons_eq_entry (Ways.refl fs) h
      · exact hm
      · rw [(hnext _).1] at h
        exact ihsteps h
      · rw [(hnext _).1] at h
        exact ih h

/-! ## Spellings -/

end FileSystem

namespace Path

variable {path other name : String}

/-- Only the root and the dot at the start of a path are no steps from one directory to another. -/
theorem inner_eq_filter (path : String) :
    inner path = (components path).filter fun c => c ≠ .root ∧ c ≠ .current := by
  have hlead : (lead path).filter (fun c => c ≠ .root ∧ c ≠ .current) = [] := by
    rw [lead]
    split
    · rfl
    · split <;> rfl
  have hinner : (inner path).filter (fun c => c ≠ .root ∧ c ≠ .current) = inner path := by
    refine List.filter_eq_self.2 fun c hc => ?_
    have hfollows := follows_of_mem_inner hc
    cases c with
    | root => exact hfollows.elim
    | current => exact hfollows.elim
    | _ => rfl
  rw [components_eq, List.filter_append, hlead, hinner, List.nil_append]

/-- **Spellings of one path have the same steps**, dots aside… -/
theorem inner_eq_of_same (h : same path other = true) : inner path = inner other := by
  rw [inner_eq_filter, inner_eq_filter, of_decide_eq_true h]

/-- A path is absolute if the root is among its components. -/
theorem root_mem_components_iff (path : String) :
    Component.root ∈ components path ↔ path.startsWith "/" = true := by
  have hinner : Component.root ∉ inner path := fun hmem => follows_of_mem_inner hmem
  rw [components_eq, List.mem_append, or_iff_left hinner, lead]
  split
  · next hslash => simp [hslash]
  · next hslash => split <;> simp [hslash]

/-- …and are absolute or not together. -/
theorem startsWith_eq_of_same (h : same path other = true) :
    path.startsWith "/" = other.startsWith "/" := by
  rw [Bool.eq_iff_iff, ← root_mem_components_iff, ← root_mem_components_iff, of_decide_eq_true h]

theorem not_startsWith_name (hname : (Component.normal name).Follows) :
    ¬ name.startsWith "/" = true := by
  have hcomponents := components_spelling hname
  rw [Component.spelling] at hcomponents
  rw [← root_mem_components_iff, hcomponents]
  simp

theorem startsWith_join (hname : (Component.normal name).Follows) (path : String) :
    (join path name).startsWith "/" = path.startsWith "/" := by
  rw [Bool.eq_iff_iff, ← root_mem_components_iff, ← root_mem_components_iff,
    components_join_name hname]
  simp

end Path

namespace FileSystem

variable {fs fs' : FileSystem} {l m : Location} {e e' : Entry} {path other name : String}
  {readonly : Bool}

/-- The steps of a path, dots aside, are its components as they are spelled. -/
theorem filter_steps (path : String) :
    (steps path).filter (· ≠ ".") = (Path.inner path).map Component.spelling := by
  have hpieces : ∀ pieces : List String, (pieces.filter (· ≠ "")).filter (· ≠ ".") =
      (pieces.filterMap Component.ofPiece?).map Component.spelling := by
    intro pieces
    induction pieces with
    | nil => rfl
    | cons piece pieces ih =>
      by_cases hempty : piece = ""
      · simpa [hempty, Component.ofPiece?] using ih
      by_cases hdot : piece = "."
      · simpa [hdot, Component.ofPiece?] using ih
      by_cases hup : piece = ".."
      · simpa [hup, Component.ofPiece?, Component.spelling] using ih
      · simpa [hempty, hdot, hup, Component.ofPiece?, Component.spelling] using ih
  have hend : (if path.endsWith "/" then ["."] else []).filter (· ≠ ".") = [] := by
    split <;> rfl
  rw [steps, List.filter_append, hend, List.append_nil, hpieces, Path.inner]

/-- **What leads to an entry leads there by its components.** -/
theorem walkTo_inner {links : Nat} (h : fs.walkTo true links l (steps path) = .ok (.entry m e)) :
    fs.walkTo true links l ((Path.inner path).map Component.spelling) = .ok (.entry m e) := by
  rw [← List.nil_append (steps path)] at h
  have hdots := walkTo_filter_dots h
  rwa [List.nil_append, filter_steps] at hdots

theorem locate_eq_ok_iff : fs.locate path = .ok (l, e) ↔
    path ≠ "" ∧
      fs.walkTo true (maxLinks + 1) (origin path fs.current) (steps path) = .ok (.entry l e) := by
  rw [locate, find]
  by_cases hempty : path = ""
  · simp [hempty]
  · rw [if_neg hempty]
    simp only [ne_eq, hempty, not_false_iff, true_and]
    split
    · next l' e' h => simp [h]
    · next l' h => simp [h]
    · next f h => simp [h]

theorem at?_of_locate (h : fs.locate path = .ok (l, e)) : fs.at? l = some e :=
  at?_of_walkTo (locate_eq_ok_iff.1 h).2

theorem leadsTo_iff {p : Entry → Bool} :
    fs.leadsTo p path = true ↔ ∃ l e, fs.locate path = .ok (l, e) ∧ p e = true := by
  rw [leadsTo]
  cases fs.locate path with
  | error fault => simp
  | ok target => exact ⟨fun h => ⟨_, _, rfl, h⟩, fun ⟨_, _, heq, h⟩ => by cases heq; exact h⟩

theorem isDirectory_iff :
    fs.isDirectory path = true ↔ ∃ l readonly, fs.locate path = .ok (l, .directory readonly) := by
  rw [isDirectory, leadsTo_iff]
  constructor
  · rintro ⟨l, e, hlocate, hdirectory⟩
    cases e with
    | directory readonly => exact ⟨l, readonly, hlocate⟩
    | _ => cases hdirectory
  · rintro ⟨l, readonly, hlocate⟩
    exact ⟨l, _, hlocate, rfl⟩

/-- **Spellings of one path that lead to entries lead to the same.** -/
theorem locate_eq_of_same (h : Path.same path other = true) (hpath : fs.locate path = .ok (l, e))
    (hother : fs.locate other = .ok (m, e')) : l = m ∧ e = e' := by
  have hpath := walkTo_inner (locate_eq_ok_iff.1 hpath).2
  have hother := walkTo_inner (locate_eq_ok_iff.1 hother).2
  rw [Path.inner_eq_of_same h, origin, Path.startsWith_eq_of_same h] at hpath
  rw [origin, hpath] at hother
  cases hother
  exact ⟨rfl, rfl⟩

/-! ## Names in a directory -/

/-- The steps of a path that a name is joined to. -/
theorem steps_join (hname : (Component.normal name).Follows) (path : String) :
    steps (Path.join path name) = (Text.pieces '/' path).filter (· ≠ "") ++ [name] := by
  have hpieces : Text.pieces '/' name = [name] := Text.pieces_of_not_mem hname.2.2.2
  have hkeep : [name].filter (· ≠ "") = [name] :=
    List.filter_cons_of_pos (by simpa using hname.1)
  have hslash : ∀ base, (Text.pieces '/' (base ++ "/" ++ name)).filter (· ≠ "") =
      (Text.pieces '/' base).filter (· ≠ "") ++ [name] := fun base => by
    rw [Text.pieces_append_slash, List.filter_append, hpieces, hkeep]
  rw [(Path.named_join hname path).steps_eq, Path.join, if_neg (Path.not_startsWith_name hname)]
  split
  · next hempty => rw [hempty, hpieces, hkeep]; rfl
  · split
    · next hend =>
      obtain ⟨front, rfl⟩ := Path.endsWith_slash_iff.1 hend
      have hfront := Text.pieces_append_slash front ""
      rw [String.append_empty] at hfront
      rw [hslash, hfront, List.filter_append]
      simp [Text.pieces, Text.splitOn]
    · exact hslash path

/-- **A name in a directory is looked up there**, with the links that are left. -/
theorem find_join (hpath : fs.locate path = .ok (l, .directory readonly))
    (hname : (Component.normal name).Follows) :
    ∃ left, fs.find true (Path.join path name) = fs.walkTo true (left + 1) l [name] := by
  obtain ⟨hempty, hwalk⟩ := locate_eq_ok_iff.1 hpath
  -- a slash at the end is one more step, which may be left out
  have hfront : fs.walkTo true (maxLinks + 1) (origin path fs.current)
      ((Text.pieces '/' path).filter (· ≠ "")) = .ok (.entry l (.directory readonly)) := by
    rw [steps] at hwalk
    split at hwalk
    · rw [← List.append_nil ((Text.pieces '/' path).filter _)]
      exact walkTo_of_dot hwalk
    · rwa [List.append_nil] at hwalk
  obtain ⟨left, hrest⟩ := walkTo_append hfront rfl
  have horigin : origin (Path.join path name) fs.current = origin path fs.current := by
    rw [origin, origin, Path.startsWith_join hname]
  refine ⟨left, ?_⟩
  rw [find, if_neg (Path.named_join hname path).ne_empty, steps_join hname, horigin]
  exact hrest [name]

end FileSystem

end InterfaceGen
