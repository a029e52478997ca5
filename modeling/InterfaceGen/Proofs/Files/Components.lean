import InterfaceGen.Files.Path

/-!
# Proofs/Files/Components — a path is spelled out again from its components

Cutting a text at slashes takes appending after a slash to appending lists of pieces, so joining
paths appends their components. Components of paths are names without slashes and steps up, after at
most one root or dot in front; spelling such components out and reading them back gives them again.
Main statements: `components_join`, `components_ofComponents`.
-/

namespace InterfaceGen

/-! ## Pieces -/

namespace Text

variable {sep c : Char} {cs w : List Char}

theorem splitOn_sep_cons (sep : Char) (cs : List Char) :
    splitOn sep (sep :: cs) = [] :: splitOn sep cs := by
  rw [splitOn]
  cases hs : splitOn sep cs with
  | nil => exact absurd hs (splitOn_ne_nil sep cs)
  | cons w ws => exact if_pos rfl

/-- A character that is no separator is put in front of the first piece. -/
theorem splitOn_cons_of_ne (h : c ≠ sep) (cs : List Char) :
    ∃ w ws, splitOn sep cs = w :: ws ∧ splitOn sep (c :: cs) = (c :: w) :: ws := by
  obtain ⟨w, ws, hs⟩ := List.exists_cons_of_ne_nil (splitOn_ne_nil sep cs)
  refine ⟨w, ws, hs, ?_⟩
  rw [splitOn, hs]
  exact if_neg h

theorem splitOn_of_not_mem (h : sep ∉ cs) : splitOn sep cs = [cs] := by
  induction cs with
  | nil => rfl
  | cons c cs ih =>
    rw [List.mem_cons, not_or] at h
    obtain ⟨w, ws, hs, hcons⟩ := splitOn_cons_of_ne (Ne.symm h.1) cs
    rw [ih h.2] at hs
    obtain ⟨rfl, rfl⟩ := List.cons_eq_cons.1 hs
    exact hcons

/-- **The pieces of two texts with a separator between them are the pieces of both.** -/
theorem splitOn_append_sep (a b : List Char) :
    splitOn sep (a ++ sep :: b) = splitOn sep a ++ splitOn sep b := by
  induction a with
  | nil => exact splitOn_sep_cons sep b
  | cons c a ih =>
    by_cases hc : c = sep
    · subst hc
      rw [List.cons_append, splitOn_sep_cons, splitOn_sep_cons, ih, List.cons_append]
    · obtain ⟨w, ws, hs, hcons⟩ := splitOn_cons_of_ne hc (a ++ sep :: b)
      obtain ⟨v, vs, ha, hacons⟩ := splitOn_cons_of_ne hc a
      rw [ih, ha, List.cons_append] at hs
      obtain ⟨rfl, rfl⟩ := List.cons_eq_cons.1 hs
      rw [List.cons_append, hcons, hacons, List.cons_append]

theorem not_mem_of_mem_splitOn (h : w ∈ splitOn sep cs) : sep ∉ w := by
  induction cs generalizing w with
  | nil =>
    rw [splitOn, List.mem_singleton] at h
    rw [h]
    exact List.not_mem_nil
  | cons c cs ih =>
    by_cases hc : c = sep
    · subst hc
      rw [splitOn_sep_cons] at h
      rcases List.mem_cons.1 h with rfl | h
      · exact List.not_mem_nil
      · exact ih h
    · obtain ⟨v, vs, hs, hcons⟩ := splitOn_cons_of_ne hc cs
      rw [hcons] at h
      rw [hs] at ih
      rcases List.mem_cons.1 h with rfl | h
      · rw [List.mem_cons, not_or]
        exact ⟨Ne.symm hc, ih List.mem_cons_self⟩
      · exact ih (List.mem_cons_of_mem _ h)

theorem pieces_ne_nil (sep : Char) (s : String) : pieces sep s ≠ [] :=
  fun h => splitOn_ne_nil sep s.toList (List.map_eq_nil_iff.1 h)

theorem pieces_append_slash (a b : String) :
    pieces '/' (a ++ "/" ++ b) = pieces '/' a ++ pieces '/' b := by
  have hlist : (a ++ "/" ++ b).toList = a.toList ++ '/' :: b.toList := by simp
  rw [pieces, hlist, splitOn_append_sep, List.map_append, pieces, pieces]

/-- A slash at the end leaves an empty piece. -/
theorem pieces_concat_slash (s : String) : pieces '/' (s ++ "/") = pieces '/' s ++ [""] := by
  rw [← String.append_empty (s := s ++ "/"), pieces_append_slash]
  rfl

theorem pieces_of_not_mem {s : String} (h : sep ∉ s.toList) : pieces sep s = [s] := by
  rw [pieces, splitOn_of_not_mem h, List.map_singleton, String.ofList_toList]

theorem not_mem_of_mem_pieces {s piece : String} (h : piece ∈ pieces sep s) :
    sep ∉ piece.toList := by
  obtain ⟨w, hw, rfl⟩ := List.mem_map.1 h
  rw [String.toList_ofList]
  exact not_mem_of_mem_splitOn hw

end Text

/-! ## Components -/

namespace Component

/-- What can follow in a path: a step up or a name. -/
def Follows : Component → Prop
  | .parent => True
  | .normal name => name ≠ "" ∧ name ≠ "." ∧ name ≠ ".." ∧ '/' ∉ name.toList
  | _ => False

theorem follows_of_ofPiece? {piece : String} {c : Component} (hslash : '/' ∉ piece.toList)
    (h : ofPiece? piece = some c) : c.Follows := by
  rw [ofPiece?] at h
  split at h
  · exact absurd h (by simp)
  · next hdot =>
    rw [not_or] at hdot
    split at h
    · obtain rfl := Option.some.inj h
      exact trivial
    · next hup =>
      obtain rfl := Option.some.inj h
      exact ⟨hdot.1, hdot.2, hup, hslash⟩

theorem ofPiece?_spelling {c : Component} (h : c.Follows) : ofPiece? c.spelling = some c := by
  cases c with
  | root => exact h.elim
  | current => exact h.elim
  | parent => rfl
  | normal name =>
    rw [ofPiece?, spelling, if_neg (not_or.2 ⟨h.1, h.2.1⟩), if_neg h.2.2.1]

theorem slash_not_mem_spelling {c : Component} (h : c.Follows) : '/' ∉ c.spelling.toList := by
  cases c with
  | root => exact h.elim
  | current => exact h.elim
  | parent => decide
  | normal name => exact h.2.2.2

end Component

namespace Path

variable {base path : String} {cs : List Component} {c : Component}

/-- The components of what follows a slash. -/
def inner (path : String) : List Component :=
  (Text.pieces '/' path).filterMap Component.ofPiece?

theorem follows_of_mem_inner (h : c ∈ inner path) : c.Follows := by
  obtain ⟨piece, hpiece, hc⟩ := List.mem_filterMap.1 h
  exact Component.follows_of_ofPiece? (Text.not_mem_of_mem_pieces hpiece) hc

theorem inner_spelling (h : c.Follows) : inner c.spelling = [c] := by
  rw [inner, Text.pieces_of_not_mem (Component.slash_not_mem_spelling h),
    List.filterMap_cons_some (Component.ofPiece?_spelling h), List.filterMap_nil]

/-- The component that only the start of a path can stand for. -/
def lead (path : String) : List Component :=
  if path.startsWith "/" then [.root]
  else if (Text.pieces '/' path).head? = some "." then [.current]
  else []

theorem startsWith_slash_iff {path : String} :
    path.startsWith "/" = true ↔ ∃ cs, path.toList = '/' :: cs := by
  rw [String.startsWith_string_iff]
  exact ⟨fun ⟨cs, h⟩ => ⟨cs, h.symm⟩, fun ⟨cs, h⟩ => ⟨cs, h.symm⟩⟩

theorem endsWith_slash_iff {path : String} :
    path.endsWith "/" = true ↔ ∃ front, path = front ++ "/" := by
  rw [← String.endsWith_toSlice, String.Slice.endsWith_string_iff, String.copy_toSlice]
  constructor
  · rintro ⟨front, h⟩
    exact ⟨String.ofList front, String.toList_inj.1 (by simpa using h.symm)⟩
  · rintro ⟨front, rfl⟩
    exact ⟨front.toList, by simp⟩

/-- **A path is its start and what follows.** -/
theorem components_eq (path : String) : components path = lead path ++ inner path := by
  cases hlist : path.toList with
  | nil =>
    obtain rfl := String.toList_eq_nil_iff.1 hlist
    decide
  | cons c cs =>
    by_cases hc : c = '/'
    · subst hc
      have hpieces : Text.pieces '/' path = "" :: (Text.splitOn '/' cs).map String.ofList := by
        rw [Text.pieces, hlist, Text.splitOn_sep_cons, List.map_cons, String.ofList_nil]
      have hrest : ((Text.splitOn '/' cs).map String.ofList).isEmpty = false := by
        rw [List.isEmpty_eq_false_iff, ne_eq, List.map_eq_nil_iff]
        exact Text.splitOn_ne_nil '/' cs
      rw [components, lead, inner, hpieces, if_pos (startsWith_slash_iff.2 ⟨cs, hlist⟩)]
      simp [hrest, Component.ofPiece?]
    · obtain ⟨w, ws, -, hcons⟩ := Text.splitOn_cons_of_ne hc cs
      have hpieces : Text.pieces '/' path = String.ofList (c :: w) :: ws.map String.ofList := by
        rw [Text.pieces, hlist, hcons, List.map_cons]
      have hfirst : String.ofList (c :: w) ≠ "" := by simp
      have hstart : ¬ path.startsWith "/" = true := by
        rw [startsWith_slash_iff]
        rintro ⟨ds, hds⟩
        rw [hlist] at hds
        exact hc (List.cons_eq_cons.1 hds).1
      rw [components, lead, inner, hpieces, if_neg hstart, List.head?_cons, List.filterMap_cons]
      by_cases hdot : String.ofList (c :: w) = "."
      · simp [hdot, Component.ofPiece?]
      · simp only [hfirst, hdot, Option.some.injEq, if_false, List.nil_append]
        cases Component.ofPiece? (String.ofList (c :: w)) <;> rfl

theorem inner_append_slash (base path : String) :
    inner (base ++ "/" ++ path) = inner base ++ inner path := by
  rw [inner, Text.pieces_append_slash, List.filterMap_append, inner, inner]

theorem lead_append_slash (base path : String) :
    lead (base ++ "/" ++ path) = if base = "" then [.root] else lead base := by
  split
  · next h =>
    rw [lead, if_pos (startsWith_slash_iff.2 ⟨path.toList, by simp [h]⟩)]
  · next h =>
    obtain ⟨c, cs, hlist⟩ := List.exists_cons_of_ne_nil (mt String.toList_eq_nil_iff.1 h)
    obtain ⟨first, rest, hpieces⟩ := List.exists_cons_of_ne_nil (Text.pieces_ne_nil '/' base)
    have hstart : (base ++ "/" ++ path).startsWith "/" = base.startsWith "/" := by
      rw [Bool.eq_iff_iff, startsWith_slash_iff, startsWith_slash_iff, String.toList_append,
        String.toList_append, hlist]
      simp
    rw [lead, lead, hstart, Text.pieces_append_slash, hpieces, List.cons_append, List.head?_cons,
      List.head?_cons]

/-- **What stands after a slash is appended.** -/
theorem components_slash_append (base path : String) :
    components (base ++ "/" ++ path) = components (base ++ "/") ++ inner path := by
  have hlead : lead (base ++ "/") = lead (base ++ "/" ++ path) := by
    rw [lead_append_slash, ← lead_append_slash base "", String.append_empty]
  have hinner : inner (base ++ "/") = inner base := by
    rw [← String.append_empty (s := base ++ "/"), inner_append_slash]
    exact List.append_nil _
  rw [components_eq, components_eq, hlead, hinner, inner_append_slash, List.append_assoc]

/-- **A slash at the end does not count**, unless it is the whole path. -/
theorem components_append_slash (h : base ≠ "") : components (base ++ "/") = components base := by
  rw [← String.append_empty (s := base ++ "/"), components_eq, lead_append_slash, if_neg h,
    inner_append_slash, components_eq base]
  exact congrArg (lead base ++ ·) (List.append_nil _)

/-- **Joining paths appends their components**, if the second one starts like any path goes on. -/
theorem components_join (hlead : lead path = []) :
    components (join base path) = components base ++ components path := by
  have hinner : components path = inner path := by rw [components_eq, hlead, List.nil_append]
  have hstart : ¬ path.startsWith "/" = true := by
    intro h
    rw [lead, if_pos h] at hlead
    exact absurd hlead (List.cons_ne_nil _ _)
  rw [join, if_neg hstart]
  split
  · next h => rw [h, show components "" = [] by decide, List.nil_append]
  · next h =>
    rw [hinner]
    split
    · next hend =>
      obtain ⟨front, rfl⟩ := endsWith_slash_iff.1 hend
      exact components_slash_append front path
    · rw [components_slash_append, components_append_slash h]

/-! ## Spelling components out -/

/-- Components that some path has: those after the first are names and steps up, and the first is
one of these, the root or a dot. -/
def Canonical : List Component → Prop
  | [] => True
  | c :: cs => (c.Follows ∨ c = .root ∨ c = .current) ∧ ∀ d ∈ cs, d.Follows

theorem canonical_of_follows (h : ∀ c ∈ cs, c.Follows) : Canonical cs := by
  cases cs with
  | nil => trivial
  | cons c cs =>
    rw [List.forall_mem_cons] at h
    exact ⟨.inl h.1, h.2⟩

theorem canonical_components (path : String) : Canonical (components path) := by
  have hinner : ∀ c ∈ inner path, c.Follows := fun c => follows_of_mem_inner
  rw [components_eq, lead]
  split
  · exact ⟨.inr (.inl rfl), hinner⟩
  · split
    · exact ⟨.inr (.inr rfl), hinner⟩
    · exact canonical_of_follows hinner

theorem Canonical.initial {front : List Component} (h : Canonical cs) (hfront : front <+: cs) :
    Canonical front := by
  obtain ⟨back, rfl⟩ := hfront
  cases front with
  | nil => trivial
  | cons c front => exact ⟨h.1, fun d hd => h.2 d (List.mem_append_left _ hd)⟩

theorem lead_spelling (h : c.Follows) : lead c.spelling = [] := by
  have hslash := Component.slash_not_mem_spelling h
  have hstart : ¬ c.spelling.startsWith "/" = true := by
    rw [startsWith_slash_iff]
    rintro ⟨cs, hcs⟩
    rw [hcs] at hslash
    exact hslash List.mem_cons_self
  have hdot : ¬ (Text.pieces '/' c.spelling).head? = some "." := by
    rw [Text.pieces_of_not_mem hslash, List.head?_cons, Option.some.injEq]
    intro hdot
    have hnone := Component.ofPiece?_spelling h
    rw [hdot] at hnone
    exact absurd hnone (by simp [Component.ofPiece?])
  rw [lead, if_neg hstart, if_neg hdot]

theorem components_spelling (h : c.Follows) : components c.spelling = [c] := by
  rw [components_eq, lead_spelling h, inner_spelling h, List.nil_append]

theorem components_join_spelling (h : c.Follows) (base : String) :
    components (join base c.spelling) = components base ++ [c] := by
  rw [components_join (lead_spelling h), components_spelling h]

theorem components_join_name {name : String} (h : (Component.normal name).Follows) (base : String) :
    components (join base name) = components base ++ [.normal name] := by
  have hjoin := components_join_spelling h base
  rwa [Component.spelling] at hjoin

/-- Names and steps up that are joined to a path are appended to its components. -/
theorem components_foldl_join (h : ∀ c ∈ cs, c.Follows) (path : String) :
    components (cs.foldl (fun path c => join path c.spelling) path) = components path ++ cs := by
  induction cs generalizing path with
  | nil => rw [List.foldl_nil, List.append_nil]
  | cons c cs ih =>
    rw [List.forall_mem_cons] at h
    rw [List.foldl_cons, ih h.2, components_join_spelling h.1, List.append_assoc,
      List.singleton_append]

theorem join_empty (path : String) : join "" path = path := by
  rw [join, if_pos rfl, ite_self]

/-- **Spelling out the components of a path and reading them back gives them again.** -/
theorem components_ofComponents (h : Canonical cs) : components (ofComponents cs) = cs := by
  cases cs with
  | nil => decide
  | cons c cs =>
    have hfirst : components c.spelling = [c] := by
      rcases h.1 with hc | rfl | rfl
      · exact components_spelling hc
      · decide
      · decide
    rw [ofComponents, List.foldl_cons, join_empty, components_foldl_join h.2, hfirst,
      List.singleton_append]

/-- The path above is spelled plainly. -/
theorem parent_eq {above : String} (h : parent? path = some above) :
    above = ofComponents (components path).dropLast := by
  rw [parent?] at h
  split at h
  · cases h
  · cases h
  · next c rest _ hrev =>
    have hrest : rest.reverse = (components path).dropLast := by
      rw [← List.reverse_reverse (components path), hrev]
      simp
    rw [← Option.some.inj h, hrest]

/-- **The path above has the same components without the last.** -/
theorem components_parent {above : String} (h : parent? path = some above) :
    components above = (components path).dropLast := by
  rw [parent_eq h]
  exact components_ofComponents ((canonical_components path).initial (List.dropLast_prefix _))

end Path

end InterfaceGen
