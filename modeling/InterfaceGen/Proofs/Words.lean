import InterfaceGen.Proofs.Files.Components
import InterfaceGen.Proofs.Spelling
import InterfaceGen.Text.Words

/-!
# Proofs/Words — a name in another case is made of letters, digits and underscores

The words of a text are stretches of it without anything but letters and digits, and changing the
case of an ASCII letter yields another one. So whatever ASCII text a name is, it can stand in an
identifier after its case was changed. Main statements: `isIdentifierRest_of_mem_snakeCase`,
`isIdentifierRest_of_mem_pascalCase`.
-/

namespace InterfaceGen.Text

/-! ## The characters of words -/

theorem stretches_ne_nil (cs : List Char) : stretches cs ≠ [] := by
  cases cs with
  | nil => exact List.cons_ne_nil _ _
  | cons c cs =>
    rw [stretches]
    split
    · exact List.cons_ne_nil _ _
    · split <;> exact List.cons_ne_nil _ _

/-- A stretch holds letters and digits of the text. -/
theorem mem_of_mem_stretches {cs w : List Char} {c : Char} (hw : w ∈ stretches cs) (hc : c ∈ w) :
    c ∈ cs ∧ isAlphanumeric c = true := by
  induction cs generalizing w with
  | nil =>
    obtain rfl := List.mem_singleton.1 hw
    exact absurd hc List.not_mem_nil
  | cons d cs ih =>
    have hlater : ∀ {v}, v ∈ stretches cs → c ∈ v → c ∈ d :: cs ∧ isAlphanumeric c = true :=
      fun hv hcv => (ih hv hcv).imp_left (List.mem_cons_of_mem d)
    rw [stretches] at hw
    cases hrest : stretches cs with
    | nil => exact absurd hrest (stretches_ne_nil cs)
    | cons v vs =>
      rw [hrest] at hlater hw
      simp only at hw
      split at hw
      · next hd =>
        rcases List.mem_cons.1 hw with rfl | hw
        · rcases List.mem_cons.1 hc with rfl | hc
          · exact ⟨List.mem_cons_self, hd⟩
          · exact hlater List.mem_cons_self hc
        · exact hlater (List.mem_cons_of_mem v hw) hc
      · rcases List.mem_cons.1 hw with rfl | hw
        · exact absurd hc List.not_mem_nil
        · exact hlater hw hc

/-- **A word holds letters and digits of the text.** -/
theorem mem_of_mem_words {cs w : List Char} {c : Char} (hw : w ∈ words cs) (hc : c ∈ w) :
    c ∈ cs ∧ isAlphanumeric c = true := by
  obtain ⟨stretch, hstretch, hcut⟩ := List.mem_flatMap.1 hw
  refine mem_of_mem_stretches hstretch ?_
  have hne : stretch ≠ [] := by
    rintro rfl
    exact absurd hcut List.not_mem_nil
  have hflat := flatten_cutWords .none [] stretch hne
  rw [List.reverse_nil, List.nil_append] at hflat
  rw [← hflat]
  exact List.mem_flatten.2 ⟨w, hcut, hc⟩

/-! ## Changing the case -/

/-- A text of ASCII characters. -/
def Ascii (cs : List Char) : Prop := ∀ c ∈ cs, c.toNat < 0x80

/-- A letter or digit is one in either case. -/
theorem isIdentifierRest_of_case {c : Char} (hascii : c.toNat < 0x80)
    (h : isAlphanumeric c = true) : (∀ d ∈ toLower c, isIdentifierRest d = true) ∧
      ∀ d ∈ toUpper c, isIdentifierRest d = true := by
  rw [isAlphanumeric_of_ascii hascii] at h
  have hall : ∀ n < 0x80, (Char.ofNat n).isAlphanum = true →
      isIdentifierRest (Char.ofNat n).toLower = true ∧
        isIdentifierRest (Char.ofNat n).toUpper = true := by decide
  rw [toLower_of_ascii hascii, toUpper_of_ascii hascii, List.forall_mem_singleton,
    List.forall_mem_singleton]
  rw [← c.ofNat_toNat] at h ⊢
  exact hall c.toNat hascii h

/-- A word in lower case is made of the letters and digits that its own ones become. -/
theorem isIdentifierRest_lowerWord {w : List Char} (hascii : Ascii w)
    (h : ∀ c ∈ w, isAlphanumeric c = true) : ∀ d ∈ lowerWord w, isIdentifierRest d = true := by
  fun_induction lowerWord w with
  | case1 => exact fun d hd => absurd hd List.not_mem_nil
  | case2 => exact absurd (hascii 'Σ' List.mem_cons_self) (by decide)
  | case3 c hc =>
    exact (isIdentifierRest_of_case (hascii c List.mem_cons_self) (h c List.mem_cons_self)).1
  | case4 c rest _ ih =>
    obtain ⟨hc, hrest⟩ := List.forall_mem_cons.1 h
    obtain ⟨hasciic, hasciirest⟩ := List.forall_mem_cons.1 hascii
    exact List.forall_mem_append.2 ⟨(isIdentifierRest_of_case hasciic hc).1,
      ih hasciirest hrest⟩

theorem isIdentifierRest_capitalWord {w : List Char} (hascii : Ascii w)
    (h : ∀ c ∈ w, isAlphanumeric c = true) : ∀ d ∈ capitalWord w, isIdentifierRest d = true := by
  cases w with
  | nil => exact fun d hd => absurd hd List.not_mem_nil
  | cons c rest =>
    obtain ⟨hc, hrest⟩ := List.forall_mem_cons.1 h
    obtain ⟨hasciic, hasciirest⟩ := List.forall_mem_cons.1 hascii
    exact List.forall_mem_append.2
      ⟨(isIdentifierRest_of_case hasciic hc).2, isIdentifierRest_lowerWord hasciirest hrest⟩

/-! ## Names in another case -/

theorem mem_intercalate {sep : List Char} {ws : List (List Char)} {c : Char}
    (h : c ∈ sep.intercalate ws) : c ∈ sep ∨ ∃ w ∈ ws, c ∈ w := by
  induction ws with
  | nil => exact absurd h List.not_mem_nil
  | cons w ws ih =>
    cases ws with
    | nil => exact .inr ⟨w, List.mem_cons_self, by simpa using h⟩
    | cons v ws =>
      rw [List.intercalate_cons_cons, List.append_assoc, List.mem_append, List.mem_append] at h
      rcases h with hw | hsep | hrest
      · exact .inr ⟨w, List.mem_cons_self, hw⟩
      · exact .inl hsep
      · exact (ih hrest).imp_right fun ⟨x, hx, hc⟩ => ⟨x, List.mem_cons_of_mem w hx, hc⟩

variable {s : String}

/-- **A name in snake case can stand in an identifier.** -/
theorem isIdentifierRest_of_mem_snakeCase (h : Ascii s.toList) :
    ∀ c ∈ (snakeCase s).toList, isIdentifierRest c = true := by
  intro c hc
  rw [snakeCase, String.toList_intercalate, List.map_map] at hc
  rcases mem_intercalate hc with hc | ⟨_, hw, hc⟩
  · obtain rfl : c = '_' := by simpa using hc
    rfl
  · obtain ⟨w, hword, rfl⟩ := List.mem_map.1 hw
    have hmem := fun c hc => mem_of_mem_words (c := c) hword hc
    rw [Function.comp_apply, String.toList_ofList] at hc
    exact isIdentifierRest_lowerWord (fun c hc => h c (hmem c hc).1)
      (fun c hc => (hmem c hc).2) c hc

/-- **A name in camel case with a capital can stand in an identifier.** -/
theorem isIdentifierRest_of_mem_pascalCase (h : Ascii s.toList) :
    ∀ c ∈ (pascalCase s).toList, isIdentifierRest c = true := by
  intro c hc
  rw [pascalCase, String.toList_ofList] at hc
  obtain ⟨w, hw, hc⟩ := List.mem_flatMap.1 hc
  have hmem := fun c hc => mem_of_mem_words (c := c) hw hc
  exact isIdentifierRest_capitalWord (fun c hc => h c (hmem c hc).1)
    (fun c hc => (hmem c hc).2) c hc

end InterfaceGen.Text
