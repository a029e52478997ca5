import InterfaceGen.Proofs.Files.Components
import InterfaceGen.Proofs.Spelling

/-!
# Proofs/Grammar — a text is a type expression exactly if the grammar derives it

A derivation starts from a base and puts suffixes behind it, each after white space; it is kept with
all the texts that it is made of, so that two derivations of one text can be compared. The last
character of a text tells its suffix from a base, and the suffix leaves only one text before it,
since no expression ends in white space. Main statement: `TypeExpr.grammatical_parse`.
-/

namespace InterfaceGen

/-! ## Bases -/

/-- Identifiers with dots between them. -/
inductive Dotted : List Char → Prop
  | identifier {name : List Char} (hname : isIdentifierChars name = true) : Dotted name
  | member {module name : List Char} (hmodule : Dotted module)
      (hname : isIdentifierChars name = true) : Dotted (module ++ '.' :: name)

theorem isModuleNameChars_append (module name : List Char) :
    isModuleNameChars (module ++ '.' :: name) =
      (isModuleNameChars module && isModuleNameChars name) := by
  rw [isModuleNameChars, Text.splitOn_append_sep, List.all_append, isModuleNameChars,
    isModuleNameChars]

/-- Without a dot the name of a module is an identifier. -/
theorem isModuleNameChars_of_not_mem {cs : List Char} (h : '.' ∉ cs) :
    isModuleNameChars cs = isIdentifierChars cs := by
  rw [isModuleNameChars, Text.splitOn_of_not_mem h, List.all_cons, List.all_nil, Bool.and_true]

theorem Dotted.isModuleNameChars {cs : List Char} (h : Dotted cs) :
    isModuleNameChars cs = true := by
  induction h with
  | identifier hname => rwa [isModuleNameChars_of_not_mem (dot_not_mem hname)]
  | member _ hname ih =>
    rw [isModuleNameChars_append, ih, isModuleNameChars_of_not_mem (dot_not_mem hname), hname,
      Bool.and_self]

/-- Cut at its last dot, the name of a module is a shorter one and an identifier. -/
theorem dotted_of_isModuleNameChars {cs : List Char} (h : isModuleNameChars cs = true) :
    Dotted cs := by
  induction hlen : cs.length using Nat.strongRecOn generalizing cs with
  | ind n ih =>
    cases hs : Text.splitLast? '.' cs with
    | none =>
      rw [isModuleNameChars_of_not_mem (Text.not_mem_of_splitLast?_eq_none hs)] at h
      exact .identifier h
    | some p =>
      obtain ⟨module, name⟩ := p
      obtain rfl := Text.append_of_splitLast? hs
      rw [isModuleNameChars_append, Bool.and_eq_true,
        isModuleNameChars_of_not_mem (Text.not_mem_of_splitLast? hs)] at h
      have hshorter : module.length < n := by
        rw [← hlen, List.length_append, List.length_cons]
        omega
      exact .member (ih module.length hshorter h.1 rfl) h.2

/-- **The names of modules are the dotted identifiers.** -/
theorem dotted_iff {cs : List Char} : Dotted cs ↔ isModuleNameChars cs = true :=
  ⟨Dotted.isModuleNameChars, dotted_of_isModuleNameChars⟩

namespace TypeExpr

/-- The texts of bases and their trees: the name of a primitive is that primitive, and of dotted
identifiers the last one is the name and those before it are the module. -/
inductive Base : List Char → TypeExpr → Prop
  | primitive (p : Primitive) : Base p.name.toList (.primitive p)
  | own {name : List Char} (hname : isIdentifierChars name = true)
      (hprimitive : ∀ p : Primitive, p.name.toList ≠ name) :
      Base name (.named none (String.ofList name))
  | qualified {module name : List Char} (hmodule : Dotted module)
      (hname : isIdentifierChars name = true) :
      Base (module ++ '.' :: name) (.named (some (String.ofList module)) (String.ofList name))

variable {cs : List Char} {e e' : TypeExpr}

theorem base_of_parseBase (h : parseBase cs = .ok e) : Base cs e := by
  unfold parseBase at h
  split at h
  · cases h
  · split at h
    · next p hp =>
      cases h
      rw [← String.toList_ofList (l := cs), Primitive.eq_name_of_ofName? hp]
      exact .primitive p
    · next hnone =>
      split at h
      · next module name hs =>
        split at h
        · next hnames =>
          cases h
          rw [Bool.and_eq_true] at hnames
          rw [Text.append_of_splitLast? hs]
          exact .qualified (dotted_iff.2 hnames.1) hnames.2
        · cases h
      · split at h
        · next hname =>
          cases h
          refine .own hname fun p hp => Primitive.ofName?_eq_none_iff.1 hnone p ?_
          rw [← hp, String.ofList_toList]
        · cases h

/-- The last character of a base is that of an identifier. -/
theorem Base.last (h : Base cs e) : ∃ c, cs.reverse.head? = some c ∧ isIdentifierRest c = true := by
  cases h with
  | primitive p => cases p <;> exact ⟨_, rfl, rfl⟩
  | own hname _ => exact (exists_ends hname).2
  | @qualified module name _ hname =>
    obtain ⟨c, hc, hrest⟩ := (exists_ends hname).2
    refine ⟨c, ?_, hrest⟩
    rw [List.reverse_append, List.reverse_cons, List.append_assoc, List.head?_append, hc,
      Option.some_or]

theorem parseBase_of_base (h : Base cs e) : parseBase cs = .ok e := by
  obtain ⟨last, hlast, -⟩ := h.last
  have hne : cs.isEmpty = false := by
    rw [← List.isEmpty_reverse]
    obtain ⟨tail, htail⟩ := List.head?_eq_some_iff.1 hlast
    rw [htail, List.isEmpty_cons]
  rw [parseBase, hne]
  cases h with
  | primitive p => simp
  | own hname hprimitive =>
    have hnone : Primitive.ofName? (String.ofList cs) = none :=
      Primitive.ofName?_eq_none_iff.2 fun p hp => hprimitive p (by rw [hp, String.toList_ofList])
    rw [hnone, Text.splitLast?_eq_none (dot_not_mem hname)]
    exact if_pos hname
  | @qualified module name hmodule hname =>
    have hdot : '.' ∈ (String.ofList (module ++ '.' :: name)).toList := by simp
    rw [DataType.ofName?_eq_none hdot, Text.splitLast?_append module (dot_not_mem hname)]
    exact if_pos (Bool.and_eq_true_iff.2 ⟨dotted_iff.1 hmodule, hname⟩)

/-- **A base has one tree**, the one that is parsed. -/
theorem Base.unique (h : Base cs e) (h' : Base cs e') : e = e' :=
  Except.ok.inj ((parseBase_of_base h).symm.trans (parseBase_of_base h'))

/-! ## Suffixes -/

theorem Container.ofEnd?_suffix (c : Container) (cs : List Char) :
    ofEnd? (c.suffix.reverse ++ cs) = some (c, cs) := by
  cases c <;> rfl

theorem Container.eq_of_ofEnd? {c : Container} {rest : List Char}
    (h : ofEnd? cs = some (c, rest)) : cs = c.suffix.reverse ++ rest := by
  unfold ofEnd? at h
  split at h
  · cases h; rfl
  · cases h; rfl
  · cases h; rfl
  · cases h

theorem Base.ofEnd?_eq_none (h : Base cs e) : Container.ofEnd? cs.reverse = none := by
  obtain ⟨last, hlast, hrest⟩ := h.last
  obtain ⟨tail, htail⟩ := List.head?_eq_some_iff.1 hlast
  rw [htail]
  exact DataType.ofEnd?_eq_none hrest

/-! ## Derivations -/

/-- A derivation: a base, or a suffix after an expression and white space. -/
inductive Derivation where
  | base (text : List Char)
  | suffix (of : Derivation) (blanks : List Char) (container : Container)
  deriving Repr, DecidableEq

namespace Derivation

variable {d d' : Derivation}

/-- The text that is derived. -/
def text : Derivation → List Char
  | .base cs => cs
  | .suffix d blanks container => d.text ++ blanks ++ container.suffix

/-- The tree of a derivation by the rules: the last suffix is the outermost container, and none
stands directly on `void`. -/
inductive Tree : Derivation → TypeExpr → Prop
  | base {cs : List Char} {e : TypeExpr} (hbase : Base cs e) : Tree (.base cs) e
  | suffix {d : Derivation} {e : TypeExpr} (htree : Tree d e) {blanks : List Char}
      (hblanks : blanks.all Text.isBlank = true) (hvoid : d ≠ .base Primitive.void.name.toList)
      (container : Container) : Tree (.suffix d blanks container) (container.wrap e)

theorem reverse_text_suffix (d : Derivation) (blanks : List Char) (c : Container) :
    (suffix d blanks c).text.reverse =
      c.suffix.reverse ++ (blanks.reverse ++ d.text.reverse) := by
  rw [text, List.reverse_append, List.reverse_append]

/-- The suffix is read off the end, and the white space is left. -/
theorem ofEnd?_text_suffix (d : Derivation) (blanks : List Char) (c : Container) :
    Container.ofEnd? (suffix d blanks c).text.reverse =
      some (c, blanks.reverse ++ d.text.reverse) := by
  rw [reverse_text_suffix, Container.ofEnd?_suffix]

/-- What is derived does not end in white space. -/
theorem Tree.last (h : d.Tree e) :
    ∃ c, d.text.reverse.head? = some c ∧ Text.isBlank c = false := by
  cases h with
  | base hbase =>
    obtain ⟨c, hc, hrest⟩ := hbase.last
    exact ⟨c, hc, isBlank_of_isIdentifierRest hrest⟩
  | suffix _ _ _ c =>
    rw [reverse_text_suffix]
    cases c <;> exact ⟨_, rfl, rfl⟩

/-- Before a suffix only white space can be dropped. -/
theorem Tree.dropWhile_isBlank (h : d.Tree e) {blanks : List Char}
    (hblanks : blanks.all Text.isBlank = true) :
    (blanks.reverse ++ d.text.reverse).dropWhile Text.isBlank = d.text.reverse := by
  obtain ⟨last, hlast, hc⟩ := h.last
  exact Text.dropWhile_isBlank_append (List.all_reverse.trans hblanks) hlast hc

/-- Only the base `void` has the tree of `void`. -/
theorem Tree.eq_void (h : d.Tree (.primitive .void)) : d = .base Primitive.void.name.toList := by
  generalize he : TypeExpr.primitive .void = e at h
  cases h with
  | base hbase =>
    subst he
    cases hbase
    rfl
  | suffix _ _ _ c => cases c <;> cases he

/-- **What is derived is parsed to its tree.** -/
theorem Tree.parseEnd (h : d.Tree e) : parseEnd d.text.reverse = .ok e := by
  induction h with
  | base hbase =>
    rw [text, parseEnd_base hbase.ofEnd?_eq_none, List.reverse_reverse, parseBase_of_base hbase]
  | @suffix d e htree blanks hblanks hvoid c ih =>
    rw [parseEnd_suffix (ofEnd?_text_suffix d blanks c), htree.dropWhile_isBlank hblanks, ih]
    refine if_neg fun he => hvoid ?_
    subst he
    exact htree.eq_void

/-- **What is parsed is derived**, each suffix with the white space that is dropped before it. -/
theorem exists_tree_of_parseEnd (h : TypeExpr.parseEnd cs = .ok e) :
    ∃ d : Derivation, d.text = cs.reverse ∧ d.Tree e := by
  refine TypeExpr.parseEnd_induction
    (motive := fun cs e => ∃ d : Derivation, d.text = cs.reverse ∧ d.Tree e) ?_ ?_ h
  · intro cs e _ hbase
    exact ⟨.base cs.reverse, rfl, .base (base_of_parseBase hbase)⟩
  · rintro cs rest c element hc hv ⟨d, htext, htree⟩
    have hblanks : (rest.takeWhile Text.isBlank).reverse.all Text.isBlank = true :=
      List.all_reverse.trans List.all_takeWhile
    refine ⟨.suffix d (rest.takeWhile Text.isBlank).reverse c, ?_,
      .suffix htree hblanks (fun hd => hv ?_) c⟩
    · rw [text, htext, ← List.reverse_append, List.takeWhile_append_dropWhile,
        Container.eq_of_ofEnd? hc, List.reverse_append, List.reverse_reverse]
    · subst hd
      cases htree with
      | base hbase => exact hbase.unique (.primitive .void)

/-- **A text has one derivation.** The two sides end in the same suffix or in none; the texts before
it are the same once white space is dropped, and so is then the white space. -/
theorem Tree.unique (h : d.Tree e) (h' : d'.Tree e') (htext : d.text = d'.text) : d = d' := by
  induction h generalizing d' e' with
  | base hbase =>
    cases h' with
    | base _ => exact congrArg Derivation.base htext
    | @suffix d' _ _ blanks _ _ c =>
      have hend := congrArg (Container.ofEnd? ·.reverse) htext
      cases hbase.ofEnd?_eq_none.symm.trans (hend.trans (ofEnd?_text_suffix d' blanks c))
  | @suffix d _ htree blanks hblanks _ c ih =>
    have hend := congrArg (Container.ofEnd? ·.reverse) htext
    simp only [ofEnd?_text_suffix] at hend
    cases h' with
    | base hbase => cases hend.trans hbase.ofEnd?_eq_none
    | @suffix d' _ htree' blanks' hblanks' _ c' =>
      rw [ofEnd?_text_suffix, Option.some.injEq, Prod.mk.injEq] at hend
      obtain ⟨rfl, hbefore⟩ := hend
      have hdrop := congrArg (List.dropWhile Text.isBlank) hbefore
      rw [htree.dropWhile_isBlank hblanks, htree'.dropWhile_isBlank hblanks'] at hdrop
      obtain rfl := ih htree' (List.reverse_injective hdrop)
      obtain rfl := List.reverse_injective (List.append_cancel_right hbefore)
      rfl

end Derivation

/-- The text, less the white space around it, is derived, and this is the tree. -/
structure Derives (s : String) (d : Derivation) (e : TypeExpr) : Prop where
  text : d.text = Text.trim s.toList
  tree : d.Tree e

/-- The result is the tree of the derivation of the text, if there is one. -/
structure Grammatical (s : String) (result : Except Fault TypeExpr) : Prop where
  ok_iff : ∀ e, result = .ok e ↔ ∃ d, Derives s d e
  unique : ∀ d d' e e', Derives s d e → Derives s d' e' → d = d' ∧ e = e'

/-- **Parsing accepts exactly what the grammar derives**, and yields the tree of the one derivation
there is. -/
theorem grammatical_parse (s : String) : Grammatical s (parse s) := by
  have hparse : ∀ {d e}, Derives s d e → parse s = .ok e := fun h => by
    rw [parse, ← h.text, h.tree.parseEnd]
  constructor
  · intro e
    constructor
    · intro h
      obtain ⟨d, htext, htree⟩ := Derivation.exists_tree_of_parseEnd h
      exact ⟨d, htext.trans (List.reverse_reverse _), htree⟩
    · rintro ⟨d, h⟩
      exact hparse h
  · intro d d' e e' h h'
    refine ⟨h.tree.unique h'.tree (h.text.trans h'.text.symm), ?_⟩
    exact Except.ok.inj ((hparse h).symm.trans (hparse h'))

/-- Maps of sequences of points, with white space before the first suffix and a no-break space
before the second one. -/
def spacedPoints : Derivation :=
  .suffix (.suffix (.base "core.geo.Point".toList) [' ', ' '] .sequence) ['\u00a0'] .map

theorem tree_spacedPoints :
    spacedPoints.Tree (.map (.sequence (.named (some "core.geo") "Point"))) := by
  have hmodule : Dotted "core.geo".toList :=
    .member (.identifier (by decide : isIdentifierChars "core".toList = true)) (by decide)
  have hbase : Base "core.geo.Point".toList (.named (some "core.geo") "Point") :=
    .qualified hmodule (by decide : isIdentifierChars "Point".toList = true)
  refine .suffix (.suffix (.base hbase) ?_ ?_ .sequence) ?_ ?_ .map
  all_goals decide

/-- The text is parsed, and it has no other derivation. -/
theorem grammatical_parse_spacedPoints :
    parse " core.geo.Point  []\u00a0<>\n" =
        .ok (.map (.sequence (.named (some "core.geo") "Point"))) ∧
      ∀ d e, Derives " core.geo.Point  []\u00a0<>\n" d e → spacedPoints = d := by
  have hderives : Derives " core.geo.Point  []\u00a0<>\n" spacedPoints _ :=
    ⟨by decide, tree_spacedPoints⟩
  have hparse := grammatical_parse " core.geo.Point  []\u00a0<>\n"
  exact ⟨(hparse.ok_iff _).2 ⟨_, hderives⟩, fun d e h => (hparse.unique _ _ _ _ hderives h).1⟩

end TypeExpr

end InterfaceGen
