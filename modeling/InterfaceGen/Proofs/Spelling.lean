import InterfaceGen.Proofs.Resolution
import InterfaceGen.Types.Data

/-!
# Proofs/Spelling — a resolved type is written so that it is read back

Names are identifiers, which hold no dot, no white space and no bracket; so the last dot of a
qualified name is the one before its type, and the suffixes of an expression can be taken off one by
one from the end. What is parsed never has a container of `void`, and what has none is parsed from
its spelling. Main statements: `TypeKey.shown_injective`, `DataType.parse_spelling` and
`Namespace.Writes.noVoidElement`.
-/

namespace InterfaceGen

/-! ## Characters of names -/

/-- The codes of the characters that may stand in an identifier. -/
theorem toNat_of_isIdentifierRest {c : Char} (h : isIdentifierRest c = true) :
    (48 ≤ c.toNat ∧ c.toNat ≤ 57) ∨ (65 ≤ c.toNat ∧ c.toNat ≤ 90) ∨ c.toNat = 95 ∨
      (97 ≤ c.toNat ∧ c.toNat ≤ 122) := by
  have hchars : isIdentifierRest c = (((decide ('A'.val ≤ c.val ∧ c.val ≤ 'Z'.val) ||
      ('a'.val ≤ c.val && c.val ≤ 'z'.val)) || ('0'.val ≤ c.val && c.val ≤ '9'.val)) ||
      c == '_') := rfl
  simp only [hchars, Bool.or_eq_true, Bool.and_eq_true, decide_eq_true_eq,
    UInt32.le_iff_toNat_le, beq_iff_eq] at h
  rcases h with ((h | h) | h) | rfl
  · exact .inr (.inl h)
  · exact .inr (.inr (.inr h))
  · exact .inl h
  · exact .inr (.inr (.inl rfl))

theorem isIdentifierRest_of_start {c : Char} (h : isIdentifierStart c = true) :
    isIdentifierRest c = true := by
  simp only [isIdentifierStart, isIdentifierRest, Char.isAlphanum, Bool.or_eq_true] at h ⊢
  exact h.imp_left .inl

theorem isBlank_of_isIdentifierRest {c : Char} (h : isIdentifierRest c = true) :
    Text.isBlank c = false := by
  have hn := toNat_of_isIdentifierRest h
  simp only [Text.isBlank, Bool.or_eq_false_iff, Bool.and_eq_false_iff, decide_eq_false_iff_not,
    beq_eq_false_iff_ne]
  omega

/-- Every character of an identifier may stand in one. -/
theorem isIdentifierRest_of_mem {cs : List Char} (h : isIdentifierChars cs = true) :
    ∀ c ∈ cs, isIdentifierRest c = true := by
  cases cs with
  | nil => cases h
  | cons c cs =>
    obtain ⟨hc, hcs⟩ := Bool.and_eq_true_iff.1 h
    exact List.forall_mem_cons.2 ⟨isIdentifierRest_of_start hc, List.all_eq_true.1 hcs⟩

/-- No character of an identifier is white space, and there is one at each end. -/
theorem exists_ends {cs : List Char} (h : isIdentifierChars cs = true) :
    (∃ c, cs.head? = some c ∧ isIdentifierRest c = true) ∧
      ∃ c, cs.reverse.head? = some c ∧ isIdentifierRest c = true := by
  have hne : cs ≠ [] := fun hnil => by
    rw [hnil] at h
    cases h
  have hrest := isIdentifierRest_of_mem h
  refine ⟨⟨_, List.head?_eq_some_head hne, hrest _ (List.head_mem hne)⟩, cs.getLast hne, ?_,
    hrest _ (List.getLast_mem hne)⟩
  rw [List.head?_reverse, List.getLast?_eq_some_getLast hne]

/-- White space goes, up to a character that is none. -/
theorem Text.dropWhile_isBlank_append {front rest : List Char} {c : Char}
    (hfront : front.all isBlank = true) (hrest : rest.head? = some c) (hc : isBlank c = false) :
    (front ++ rest).dropWhile isBlank = rest := by
  obtain ⟨tail, rfl⟩ := List.head?_eq_some_iff.1 hrest
  rw [List.dropWhile_append_of_pos (List.all_eq_true.1 hfront),
    List.dropWhile_cons_of_neg (by simp [hc])]

theorem dot_not_mem {cs : List Char} (h : isIdentifierChars cs = true) : '.' ∉ cs :=
  fun hm => absurd (isIdentifierRest_of_mem h _ hm) (by decide)

/-- The name of a module starts like an identifier. -/
theorem head_of_isModuleNameChars {cs : List Char} (h : isModuleNameChars cs = true) :
    ∃ c rest, cs = c :: rest ∧ isIdentifierStart c = true := by
  cases cs with
  | nil => cases h
  | cons c rest =>
    refine ⟨c, rest, rfl, ?_⟩
    simp only [isModuleNameChars, Text.splitOn] at h
    cases hs : Text.splitOn '.' rest with
    | nil => exact absurd hs (Text.splitOn_ne_nil _ _)
    | cons w ws =>
      rw [hs] at h
      by_cases hc : c = '.'
      · simp [hc, isIdentifierChars] at h
      · simp only [hc, if_false, List.all_cons, Bool.and_eq_true, isIdentifierChars] at h
        exact h.1.1

/-! ## Qualified names -/

/-- A text without a separator is not cut. -/
theorem Text.splitLast?_eq_none {sep : Char} {cs : List Char} (h : sep ∉ cs) :
    splitLast? sep cs = none := by
  cases hs : splitLast? sep cs with
  | none => rfl
  | some p =>
    rw [append_of_splitLast? hs] at h
    exact absurd (List.mem_append_right _ List.mem_cons_self) h

/-- **A text is cut at its last separator.** -/
theorem Text.splitLast?_append {sep : Char} (front : List Char) {back : List Char}
    (h : sep ∉ back) : splitLast? sep (front ++ sep :: back) = some (front, back) := by
  induction front with
  | nil => simp [splitLast?, splitLast?_eq_none h]
  | cons c front ih => simp [splitLast?, ih]

namespace TypeKey

theorem toList_shown (k : TypeKey) : k.shown.toList = k.module.toList ++ '.' :: k.name.toList := by
  simp [shown]

/-- **A qualified name determines its key**, since the name of a type holds no dot. -/
theorem shown_injective {a b : TypeKey} (ha : '.' ∉ a.name.toList) (hb : '.' ∉ b.name.toList)
    (h : a.shown = b.shown) : a = b := by
  have hsplit := congrArg (fun s : String => Text.splitLast? '.' s.toList) h
  simp only [toList_shown, Text.splitLast?_append _ ha, Text.splitLast?_append _ hb,
    Option.some.injEq, Prod.mk.injEq, String.toList_inj] at hsplit
  exact congrArg₂ TypeKey.mk hsplit.1 hsplit.2

end TypeKey

/-- A primitive is found under its own name only. -/
theorem Primitive.eq_name_of_ofName? {s : String} {p : Primitive} (h : ofName? s = some p) :
    s = p.name := by
  obtain ⟨q, -, hq⟩ := List.mem_map.1 (Table.mem_of_find? h : (s, p) ∈ words)
  cases hq
  rfl

theorem Primitive.ofName?_eq_none_iff {s : String} :
    ofName? s = none ↔ ∀ p : Primitive, p.name ≠ s := by
  constructor
  · rintro h p rfl
    rw [ofName?_name] at h
    cases h
  · intro h
    cases hp : ofName? s with
    | none => rfl
    | some p => exact absurd (eq_name_of_ofName? hp).symm (h p)

/-! ## Containers of void -/

/-- No container has void elements. -/
def DataType.NoVoidElement : DataType → Prop
  | .primitive _ => True
  | .reference _ => True
  | .sequence t => t.isVoid = false ∧ t.NoVoidElement
  | .set t => t.isVoid = false ∧ t.NoVoidElement
  | .map t => t.isVoid = false ∧ t.NoVoidElement

/-- No container has void elements. -/
def TypeExpr.NoVoidElement : TypeExpr → Prop
  | .primitive _ => True
  | .named _ _ => True
  | .sequence e => e ≠ .primitive .void ∧ e.NoVoidElement
  | .set e => e ≠ .primitive .void ∧ e.NoVoidElement
  | .map e => e ≠ .primitive .void ∧ e.NoVoidElement

namespace TypeExpr

theorem noVoidElement_wrap {c : Container} {e : TypeExpr} (hv : e ≠ .primitive .void)
    (h : e.NoVoidElement) : (c.wrap e).NoVoidElement := by
  cases c with
  | sequence => exact ⟨hv, h⟩
  | set => exact ⟨hv, h⟩
  | map => exact ⟨hv, h⟩

theorem noVoidElement_parseBase {cs : List Char} {e : TypeExpr} (h : parseBase cs = .ok e) :
    e.NoVoidElement := by
  unfold parseBase at h
  split at h
  · cases h
  · split at h
    · cases h; trivial
    · split at h
      · split at h
        · cases h; trivial
        · cases h
      · split at h
        · cases h; trivial
        · cases h

theorem parseEnd_base {cs : List Char} (h : Container.ofEnd? cs = none) :
    parseEnd cs = parseBase cs.reverse := by
  rw [parseEnd]
  split
  · next h' => rw [h] at h'; cases h'
  · rfl

/-- Taking one suffix off. -/
theorem parseEnd_suffix {cs rest : List Char} {c : Container}
    (h : Container.ofEnd? cs = some (c, rest)) :
    parseEnd cs = (parseEnd (rest.dropWhile Text.isBlank)).bind fun element =>
      if element = .primitive .void then .error .voidElement else .ok (c.wrap element) := by
  rw [parseEnd]
  split
  · next h' =>
    cases h.symm.trans h'
    cases parseEnd (rest.dropWhile Text.isBlank) with
    | error fault => rfl
    | ok element =>
      simp only [bind, Except.bind]
      by_cases hv : element = .primitive .void
      · simp only [hv, if_true]
        rfl
      · simp only [hv, if_false]
        rfl
  · next h' => rw [h] at h'; cases h'

/-- What is parsed with a suffix is a container of what is parsed before it, and not of void. -/
theorem exists_of_parseEnd_suffix {cs rest : List Char} {c : Container} {e : TypeExpr}
    (hc : Container.ofEnd? cs = some (c, rest)) (h : parseEnd cs = .ok e) :
    ∃ element, parseEnd (rest.dropWhile Text.isBlank) = .ok element ∧
      element ≠ .primitive .void ∧ e = c.wrap element := by
  rw [parseEnd_suffix hc] at h
  cases hp : parseEnd (rest.dropWhile Text.isBlank) with
  | error fault => rw [hp] at h; cases h
  | ok element =>
    simp only [hp, Except.bind] at h
    split at h
    · cases h
    · next hv =>
      cases h
      exact ⟨element, rfl, hv, rfl⟩

/-- The text before a suffix is shorter. -/
theorem length_dropWhile_lt {cs rest : List Char} {c : Container}
    (h : Container.ofEnd? cs = some (c, rest)) :
    (rest.dropWhile Text.isBlank).length < cs.length := by
  have hrest := Container.length_of_ofEnd? h
  have hdrop := (List.dropWhile_sublist Text.isBlank (l := rest)).length_le
  omega

/-- **Induction along what is parsed**, from the end of the text: it is a base, or a suffix behind
what is parsed before it. -/
theorem parseEnd_induction {motive : List Char → TypeExpr → Prop}
    (base : ∀ cs e, Container.ofEnd? cs = none → parseBase cs.reverse = .ok e → motive cs e)
    (suffix : ∀ cs rest c element, Container.ofEnd? cs = some (c, rest) →
      element ≠ .primitive .void → motive (rest.dropWhile Text.isBlank) element →
        motive cs (c.wrap element))
    {cs : List Char} {e : TypeExpr} (h : parseEnd cs = .ok e) : motive cs e := by
  induction hlen : cs.length using Nat.strongRecOn generalizing cs e with
  | ind n ih =>
    cases hc : Container.ofEnd? cs with
    | none => exact base cs e hc (parseEnd_base hc ▸ h)
    | some p =>
      obtain ⟨c, rest⟩ := p
      obtain ⟨element, hp, hv, rfl⟩ := exists_of_parseEnd_suffix hc h
      exact suffix cs rest c element hc hv (ih _ (hlen ▸ length_dropWhile_lt hc) hp rfl)

/-- **What is parsed has no container of void.** -/
theorem noVoidElement_parseEnd {cs : List Char} {e : TypeExpr} (h : parseEnd cs = .ok e) :
    e.NoVoidElement := by
  refine parseEnd_induction (motive := fun _ e => e.NoVoidElement) ?_ ?_ h
  · intro cs e _ hbase
    exact noVoidElement_parseBase hbase
  · intro cs rest c element _ hv hp
    exact noVoidElement_wrap hv hp

/-- The name in a parsed base is an identifier. -/
theorem isIdentifier_of_parseBase {cs : List Char} {q : Option String} {name : String}
    (h : parseBase cs = .ok (.named q name)) : isIdentifier name = true := by
  unfold parseBase at h
  split at h
  · cases h
  · split at h
    · cases h
    · split at h
      · split at h
        · next hnames =>
          cases h
          simpa [isIdentifier] using (Bool.and_eq_true_iff.1 hnames).2
        · cases h
      · split at h
        · next hname => cases h; simpa [isIdentifier] using hname
        · cases h

/-- **A name that is parsed is an identifier**; with a suffix it would be no name. -/
theorem isIdentifier_of_parse {text : String} {q : Option String} {name : String}
    (h : parse text = .ok (.named q name)) : isIdentifier name = true := by
  rw [parse] at h
  cases hc : Container.ofEnd? (Text.trim text.toList).reverse with
  | none => exact isIdentifier_of_parseBase (parseEnd_base hc ▸ h)
  | some p =>
    obtain ⟨c, rest⟩ := p
    obtain ⟨element, -, -, hwrap⟩ := exists_of_parseEnd_suffix hc h
    cases c <;> cases hwrap

end TypeExpr

namespace Namespace

variable {ns : Namespace} {module text : String} {e : TypeExpr} {t : DataType}

/-- Only `void` denotes void. -/
theorem Denotes.eq_void (h : ns.Denotes module e t) (ht : t.isVoid = true) :
    e = .primitive .void := by
  cases h with
  | primitive p => cases p <;> first | rfl | cases ht
  | named _ => cases ht
  | sequence _ => cases ht
  | set _ => cases ht
  | map _ => cases ht

theorem Denotes.noVoidElement (h : ns.Denotes module e t) (he : e.NoVoidElement) :
    t.NoVoidElement := by
  have helement : ∀ {e t}, ns.Denotes module e t → e ≠ .primitive .void → t.isVoid = false :=
    fun hd hv => Bool.eq_false_iff.2 fun ht => hv (hd.eq_void ht)
  induction h with
  | primitive p => trivial
  | named _ => trivial
  | sequence h ih => exact ⟨helement h he.1, ih he.2⟩
  | set h ih => exact ⟨helement h he.1, ih he.2⟩
  | map h ih => exact ⟨helement h he.1, ih he.2⟩

/-- **A written type has no container of void.** -/
theorem Writes.noVoidElement (h : ns.Writes module text t) : t.NoVoidElement := by
  obtain ⟨e, he, hd⟩ := h
  exact hd.noVoidElement (TypeExpr.noVoidElement_parseEnd he)

/-- A written reference is to a type whose name is an identifier. -/
theorem Writes.isIdentifier {k : TypeKey} (h : ns.Writes module text (.reference k)) :
    isIdentifier k.name = true := by
  obtain ⟨e, he, hd⟩ := h
  cases hd with
  | named selected =>
    have hname := TypeExpr.isIdentifier_of_parse he
    cases selected with
    | own _ => exact hname
    | imported _ _ _ _ => exact hname
    | qualified _ _ => exact hname

end Namespace

/-! ## Reading a spelling back -/

namespace DataType

/-- The expression that spells a type, every reference qualified. -/
def expr : DataType → TypeExpr
  | .primitive p => .primitive p
  | .reference k => .named (some k.module) k.name
  | .sequence t => .sequence t.expr
  | .set t => .set t.expr
  | .map t => .map t.expr

/-- Its modules and types have names that can be read. -/
def Named (t : DataType) : Prop :=
  ∀ k ∈ t.references, isModuleName k.module = true ∧ isIdentifier k.name = true

theorem expr_eq_void {t : DataType} (h : t.expr = .primitive .void) : t.isVoid = true := by
  cases t with
  | primitive p => cases h; rfl
  | _ => cases h

/-! ### Where a spelling starts and ends -/

/-- A spelling starts with a character that is kept when it is trimmed. -/
theorem head_spelling {t : DataType} (h : t.Named) :
    ∃ c rest, t.spelling.toList = c :: rest ∧ Text.isBlank c = false := by
  have hcons : ∀ {s suffix : String}, (∃ c rest, s.toList = c :: rest ∧ Text.isBlank c = false) →
      ∃ c rest, (s ++ suffix).toList = c :: rest ∧ Text.isBlank c = false := by
    rintro s suffix ⟨c, rest, hs, hc⟩
    exact ⟨c, rest ++ suffix.toList, by simp [hs], hc⟩
  induction t with
  | primitive p => cases p <;> exact ⟨_, _, rfl, by decide⟩
  | reference k =>
    obtain ⟨c, rest, hk, hc⟩ := head_of_isModuleNameChars (h k (List.mem_singleton.2 rfl)).1
    refine ⟨c, rest ++ '.' :: k.name.toList, ?_,
      isBlank_of_isIdentifierRest (isIdentifierRest_of_start hc)⟩
    rw [spelling, TypeKey.toList_shown, hk, List.cons_append]
  | sequence t ih => exact hcons (ih h)
  | set t ih => exact hcons (ih h)
  | map t ih => exact hcons (ih h)

/-- Read from its end, the spelling of a reference starts with a character of an identifier. -/
theorem head_reverse_shown {k : TypeKey} (h : isIdentifier k.name = true) :
    ∃ c rest, k.shown.toList.reverse = c :: rest ∧ isIdentifierRest c = true := by
  cases hn : k.name.toList.reverse with
  | nil =>
    rw [List.reverse_eq_nil_iff] at hn
    rw [isIdentifier, hn] at h
    cases h
  | cons c rest =>
    refine ⟨c, rest ++ '.' :: k.module.toList.reverse, ?_, isIdentifierRest_of_mem h c ?_⟩
    · simp [TypeKey.toList_shown, hn]
    · exact List.mem_reverse.1 (hn ▸ List.mem_cons_self)

theorem head_reverse_spelling {t : DataType} (h : t.Named) :
    ∃ c rest, t.spelling.toList.reverse = c :: rest ∧ Text.isBlank c = false := by
  cases t with
  | primitive p => cases p <;> exact ⟨_, _, rfl, by decide⟩
  | reference k =>
    obtain ⟨c, rest, hk, hc⟩ := head_reverse_shown (h k (List.mem_singleton.2 rfl)).2
    exact ⟨c, rest, hk, isBlank_of_isIdentifierRest hc⟩
  | sequence t => exact ⟨']', _, by simp [spelling]; rfl, by decide⟩
  | set t => exact ⟨'\x7d', _, by simp [spelling]; rfl, by decide⟩
  | map t => exact ⟨'>', _, by simp [spelling]; rfl, by decide⟩

theorem trim_spelling {t : DataType} (h : t.Named) :
    Text.trim t.spelling.toList = t.spelling.toList := by
  obtain ⟨c, rest, hs, hc⟩ := head_spelling h
  obtain ⟨d, back, hr, hd⟩ := head_reverse_spelling h
  have hstart : Text.trimStart t.spelling.toList = t.spelling.toList := by
    rw [Text.trimStart, hs, List.dropWhile_cons_of_neg (by simp [hc])]
  rw [Text.trim, hstart, Text.trimEnd, hr, List.dropWhile_cons_of_neg (by simp [hd]), ← hr,
    List.reverse_reverse]

/-! ### Parsing it -/

theorem ofEnd?_eq_none {c : Char} {cs : List Char} (h : isIdentifierRest c = true) :
    TypeExpr.Container.ofEnd? (c :: cs) = none := by
  unfold TypeExpr.Container.ofEnd?
  split
  · next heq => cases heq; exact absurd h (by decide)
  · next heq => cases heq; exact absurd h (by decide)
  · next heq => cases heq; exact absurd h (by decide)
  · rfl

theorem parseEnd_primitive (p : Primitive) :
    TypeExpr.parseEnd p.name.toList.reverse = .ok (.primitive p) := by
  have hbase : TypeExpr.parseBase p.name.toList = .ok (.primitive p) := by
    have hne : p.name.toList.isEmpty = false := by cases p <;> rfl
    simp [TypeExpr.parseBase, hne]
  rw [TypeExpr.parseEnd_base (by cases p <;> rfl), List.reverse_reverse, hbase]

/-- No primitive has a qualified name. -/
theorem ofName?_eq_none {s : String} (h : '.' ∈ s.toList) : Primitive.ofName? s = none := by
  refine Primitive.ofName?_eq_none_iff.2 ?_
  rintro p rfl
  exact absurd h (by cases p <;> decide)

theorem parseEnd_reference {k : TypeKey} (hm : isModuleName k.module = true)
    (hn : isIdentifier k.name = true) :
    TypeExpr.parseEnd k.shown.toList.reverse = .ok (.named (some k.module) k.name) := by
  obtain ⟨c, rest, hs, hc⟩ := head_reverse_shown hn
  rw [TypeExpr.parseEnd_base (hs ▸ ofEnd?_eq_none hc), List.reverse_reverse, TypeKey.toList_shown]
  have hdot : '.' ∈ (String.ofList (k.module.toList ++ '.' :: k.name.toList)).toList := by simp
  have hne : (k.module.toList ++ '.' :: k.name.toList).isEmpty = false := by simp
  simp only [isModuleName, isIdentifier] at hm hn
  simp only [TypeExpr.parseBase, hne, ofName?_eq_none hdot,
    Text.splitLast?_append _ (dot_not_mem hn), hm, hn]
  simp

/-- A suffix is taken off, and what stands before it is read. -/
theorem parseEnd_spelling_append {t : DataType} {c : TypeExpr.Container} (h : t.Named)
    (hv : t.isVoid = false) (ht : TypeExpr.parseEnd t.spelling.toList.reverse = .ok t.expr)
    {cs : List Char} (hcs : TypeExpr.Container.ofEnd? cs = some (c, t.spelling.toList.reverse)) :
    TypeExpr.parseEnd cs = .ok (c.wrap t.expr) := by
  obtain ⟨d, back, hr, hd⟩ := head_reverse_spelling h
  have hdrop : t.spelling.toList.reverse.dropWhile Text.isBlank = t.spelling.toList.reverse := by
    rw [hr, List.dropWhile_cons_of_neg (by simp [hd])]
  rw [TypeExpr.parseEnd_suffix hcs, hdrop, ht]
  exact if_neg fun hvoid => absurd (expr_eq_void hvoid) (by simp [hv])

theorem parseEnd_spelling {t : DataType} (h : t.Named) (hv : t.NoVoidElement) :
    TypeExpr.parseEnd t.spelling.toList.reverse = .ok t.expr := by
  induction t with
  | primitive p => exact parseEnd_primitive p
  | reference k =>
    obtain ⟨hm, hn⟩ := h k (List.mem_singleton.2 rfl)
    exact parseEnd_reference hm hn
  | sequence t ih =>
    have hrev : (spelling (.sequence t)).toList.reverse =
        ']' :: '[' :: t.spelling.toList.reverse := by simp [spelling]
    rw [hrev]
    exact parseEnd_spelling_append (t := t) (c := .sequence) h hv.1 (ih h hv.2) rfl
  | set t ih =>
    have hrev : (spelling (.set t)).toList.reverse =
        '\x7d' :: '\x7b' :: t.spelling.toList.reverse := by simp [spelling]
    rw [hrev]
    exact parseEnd_spelling_append (t := t) (c := .set) h hv.1 (ih h hv.2) rfl
  | map t ih =>
    have hrev : (spelling (.map t)).toList.reverse = '>' :: '<' :: t.spelling.toList.reverse := by
      simp [spelling]
    rw [hrev]
    exact parseEnd_spelling_append (t := t) (c := .map) h hv.1 (ih h hv.2) rfl

/-- **The spelling of a type is parsed to its expression.** -/
theorem parse_spelling {t : DataType} (h : t.Named) (hv : t.NoVoidElement) :
    TypeExpr.parse t.spelling = .ok t.expr := by
  rw [TypeExpr.parse, trim_spelling h]
  exact parseEnd_spelling h hv

end DataType

end InterfaceGen
