import InterfaceGen.Proofs.Json.Printed
import InterfaceGen.Proofs.Written

/-!
# Proofs/Reparsed — what is written for a document is read from its text

A value at hand is read without a bound, and a text may nest containers 127 deep. Up to that depth a
reader that reads something from a well-formed source at hand reads the same from a text (`Agrees`),
record by record. Since the text of a value is scanned as the value if its numbers survive, a
document whose doubles survive is read back from the text that is written for it. Main statement:
`Document.parse_pretty`.
-/

namespace InterfaceGen

namespace Json

/-! ## Depth -/

mutual

/-- How deep the containers of a value nest. -/
def depth : Json → Nat
  | .arr items => depthItems items + 1
  | .obj members => depthMembers members + 1
  | _ => 0

def depthItems : List Json → Nat
  | [] => 0
  | v :: rest => max (depth v) (depthItems rest)

def depthMembers : List (String × Json) → Nat
  | [] => 0
  | (_, v) :: rest => max (depth v) (depthMembers rest)

end

namespace Source

/-- The source is well formed, and its containers nest no deeper than that. -/
inductive Fits : Nat → Source → Prop where
  | null (n : Nat) : Fits n .null
  | bool (n : Nat) (b : Bool) : Fits n (.bool b)
  | num (n : Nat) (k : Number) : Fits n (.num k)
  | str (n : Nat) (s : String) : Fits n (.str s)
  | seq {n : Nat} {items : List Source} (h : ∀ v ∈ items, Fits n v) : Fits (n + 1) (.seq items true)
  | map {n : Nat} {members : List (String × Source)} (h : ∀ e ∈ members, Fits n e.2) :
    Fits (n + 1) (.map members true)

mutual

/-- **The source of a value fits its depth.** -/
theorem fits_ofJson : ∀ (v : Json) {n : Nat}, v.depth ≤ n → (ofJson v).Fits n
  | .null, _, _ => .null _
  | .bool b, _, _ => .bool _ b
  | .num k, _, _ => .num _ k
  | .str s, _, _ => .str _ s
  | .arr items, _ + 1, h => .seq (fits_ofItems items (Nat.le_of_succ_le_succ h))
  | .obj members, _ + 1, h => .map (fits_ofMembers members (Nat.le_of_succ_le_succ h))

theorem fits_ofItems : ∀ (vs : List Json) {n : Nat}, depthItems vs ≤ n →
    ∀ v ∈ ofItems vs, v.Fits n
  | [], _, _ => fun _ hv => absurd hv List.not_mem_nil
  | v :: vs, _, h => List.forall_mem_cons.2
    ⟨fits_ofJson v (le_of_max_le_left h), fits_ofItems vs (le_of_max_le_right h)⟩

theorem fits_ofMembers : ∀ (ms : List (String × Json)) {n : Nat}, depthMembers ms ≤ n →
    ∀ e ∈ ofMembers ms, e.2.Fits n
  | [], _, _ => fun _ he => absurd he List.not_mem_nil
  | (_, v) :: ms, _, h => List.forall_mem_cons.2
    ⟨fits_ofJson v (le_of_max_le_left h), fits_ofMembers ms (le_of_max_le_right h)⟩

end

theorem wellFormedItems_iff {vs : List Source} :
    wellFormedItems vs = true ↔ ∀ v ∈ vs, v.wellFormed = true := by
  induction vs with
  | nil => simp [wellFormedItems]
  | cons v vs ih => simp [wellFormedItems, ih]

theorem wellFormedMembers_iff {ms : List (String × Source)} :
    wellFormedMembers ms = true ↔ ∀ e ∈ ms, e.2.wellFormed = true := by
  induction ms with
  | nil => simp [wellFormedMembers]
  | cons e ms ih => simp [wellFormedMembers, ih]

/-- What fits may also be passed over. -/
theorem Fits.wellFormed {n : Nat} {v : Source} (h : v.Fits n) : v.wellFormed = true := by
  induction h with
  | seq _ ih => rw [Source.wellFormed, wellFormedItems_iff.2 ih, Bool.true_and]
  | map _ ih => rw [Source.wellFormed, wellFormedMembers_iff.2 ih, Bool.true_and]
  | _ => rfl

end Source

/-! ## Readers -/

/-- The limits where a text may still nest `n` containers. -/
def Limits.inside (n : Nat) : Limits := ⟨.text, n + 1⟩

@[simp] theorem Limits.enter_inside (n : Nat) : (inside (n + 1)).enter = .ok (inside n) := by
  simp [enter, inside]

/-- What the reader reads from a value at hand it reads from a text too, as far as that fits. -/
def Reader.Agrees {α : Type} (r : Reader α) : Prop :=
  ∀ ⦃n v a⦄, v.Fits n → r .value v = .ok a → r (.inside n) v = .ok a

namespace Reader

variable {α : Type} {r : Reader α} {n : Nat}

/-- What a step does with what is read it does with the same. -/
theorem Agrees.step {σ : Type} {s : σ} (h : r.Agrees) {v : Source} (hv : v.Fits n) {f : α → σ}
    (hstep : (do return f (← r .value v)) = .ok s) : (do return f (← r (.inside n) v)) = .ok s := by
  obtain ⟨a, ha, hstep⟩ := exists_of_bind hstep
  rw [bind_of_ok (h hv ha)]
  exact hstep

theorem agrees_string : Agrees string := by
  intro n v a _ h
  cases v <;> exact h

theorem agrees_bool : Agrees bool := by
  intro n v a _ h
  cases v <;> exact h

theorem Agrees.optional (h : r.Agrees) : (optional r).Agrees := by
  intro n v o hv ho
  have hsome : ∀ {x : Except Fault α}, x.map some = .ok o → ∃ a, x = .ok a ∧ o = some a := by
    rintro (f | a) ⟨⟩
    exact ⟨a, rfl, rfl⟩
  cases v with
  | null => exact ho
  | _ =>
    obtain ⟨a, ha, rfl⟩ := hsome ho
    exact congrArg (Except.map some) (h hv ha)

theorem Agrees.items (h : r.Agrees) {vs : List Source} {as : List α} (hvs : ∀ v ∈ vs, v.Fits n)
    (has : items r .value vs = .ok as) : items r (.inside n) vs = .ok as := by
  induction vs generalizing as with
  | nil => exact has
  | cons v vs ih =>
    obtain ⟨hv, hrest⟩ := List.forall_mem_cons.1 hvs
    obtain ⟨a, ha, has⟩ := exists_of_bind has
    obtain ⟨bs, hbs, has⟩ := exists_of_bind has
    rw [Reader.items, bind_of_ok (h hv ha), bind_of_ok (ih hrest hbs)]
    exact has

theorem Agrees.list (h : r.Agrees) : (list r).Agrees := by
  intro n v as hv has
  cases hv with
  | seq hvs =>
    rw [Reader.list, bind_of_ok Limits.enter_value] at has
    obtain ⟨bs, hbs, has⟩ := exists_of_bind has
    rw [Reader.list, bind_of_ok (Limits.enter_inside _), bind_of_ok (h.items hvs hbs)]
    exact has
  | _ => cases has

mutual

/-- **Any value is read from a text as it is read at hand.** -/
theorem agrees_json : ∀ (n : Nat) (v : Source) (j : Json), v.Fits n → json .value v = .ok j →
    json (.inside n) v = .ok j
  | _, .null, _, _, h => h
  | _, .bool _, _, _, h => h
  | _, .num _, _, _, h => h
  | _, .str _, _, _, h => h
  | _ + 1, .seq vs true, _, .seq hvs, h => by
    rw [json, bind_of_ok Limits.enter_value] at h
    obtain ⟨js, hjs, h⟩ := exists_of_bind h
    rw [json, bind_of_ok (Limits.enter_inside _), bind_of_ok (agrees_jsonItems _ vs js hvs hjs)]
    exact h
  | _ + 1, .map ms true, _, .map hms, h => by
    rw [json, bind_of_ok Limits.enter_value] at h
    obtain ⟨js, hjs, h⟩ := exists_of_bind h
    rw [json, bind_of_ok (Limits.enter_inside _),
      bind_of_ok (agrees_jsonMembers _ ms [] js hms hjs)]
    exact h

theorem agrees_jsonItems : ∀ (n : Nat) (vs : List Source) (js : List Json),
    (∀ v ∈ vs, v.Fits n) → jsonItems .value vs = .ok js → jsonItems (.inside n) vs = .ok js
  | _, [], _, _, h => h
  | n, v :: vs, _, hvs, h => by
    obtain ⟨hv, hrest⟩ := List.forall_mem_cons.1 hvs
    obtain ⟨j, hj, h⟩ := exists_of_bind h
    obtain ⟨js, hjs, h⟩ := exists_of_bind h
    rw [jsonItems, bind_of_ok (agrees_json n v j hv hj),
      bind_of_ok (agrees_jsonItems n vs js hrest hjs)]
    exact h

theorem agrees_jsonMembers : ∀ (n : Nat) (ms : List (String × Source)) (acc js : Members),
    (∀ e ∈ ms, e.2.Fits n) → jsonMembers .value ms acc = .ok js →
      jsonMembers (.inside n) ms acc = .ok js
  | _, [], _, _, _, h => h
  | n, (k, v) :: ms, acc, js, hms, h => by
    obtain ⟨hv, hrest⟩ := List.forall_mem_cons.1 hms
    obtain ⟨j, hj, h⟩ := exists_of_bind h
    rw [jsonMembers, bind_of_ok (agrees_json n v j hv hj)]
    exact agrees_jsonMembers n ms _ js hrest h

end

theorem agrees_any : Agrees json := fun n v j => agrees_json n v j

/-- A word is a string in both, or an object with one member. -/
theorem agrees_word (words : List (String × α)) : (word words).Agrees := by
  intro n v a hv h
  cases hv with
  | str => exact h
  | @map n ms hms =>
    cases ms with
    | nil => cases h
    | cons e ms =>
      cases ms with
      | nil =>
        have hmember : wordMember words e.1 e.2 = .ok a := h
        have henter : (Limits.inside (n + 1)).enter = .ok (.inside n) := Limits.enter_inside n
        refine (bind_of_ok henter _).trans ?_
        rw [bind_of_ok hmember]
        rfl
      | cons f ms => cases h
  | _ => cases h

end Reader

/-! ## Records -/

/-- What the steps of a record read from values at hand they read from a text too. -/
def Record.Agrees {σ α : Type} (r : Record σ α) : Prop :=
  ∀ ⦃n key v s s'⦄, v.Fits n → r.step .value key v s = .ok s' → r.step (.inside n) key v s = .ok s'

namespace Record.Agrees

variable {σ α : Type} {r : Record σ α} {n : Nat}

theorem members (h : r.Agrees) {ms : List (String × Source)} {seen : List String} {s s' : σ}
    (hms : ∀ e ∈ ms, e.2.Fits n) (hread : r.members .value seen s ms = .ok s') :
    r.members (.inside n) seen s ms = .ok s' := by
  induction ms generalizing seen s with
  | nil => exact hread
  | cons e ms ih =>
    obtain ⟨k, v⟩ := e
    obtain ⟨hv, hrest⟩ := List.forall_mem_cons.1 hms
    simp only [Record.members] at hread ⊢
    split
    · next hin =>
      rw [if_pos hin] at hread
      split
      · next hseen =>
        rw [if_pos hseen] at hread
        cases hread
      · next hnew =>
        rw [if_neg hnew] at hread
        obtain ⟨t, ht, hread⟩ := exists_of_bind hread
        rw [bind_of_ok (h hv ht)]
        exact ih hrest hread
    · next hout =>
      rw [if_neg hout] at hread
      obtain ⟨_, hskip, hread⟩ := exists_of_bind hread
      have hskip : Reader.skip (.inside n) v = .ok () := if_pos hv.wellFormed
      rw [bind_of_ok hskip]
      exact ih hrest hread

theorem positions (h : r.Agrees) {fields : List String} {vs : List Source} {s : σ} {p : σ × Nat}
    (hvs : ∀ v ∈ vs, v.Fits n) (hread : r.positions .value fields s vs = .ok p) :
    r.positions (.inside n) fields s vs = .ok p := by
  induction fields generalizing vs s with
  | nil => exact hread
  | cons f fields ih =>
    cases vs with
    | nil => exact hread
    | cons v vs =>
      obtain ⟨hv, hrest⟩ := List.forall_mem_cons.1 hvs
      obtain ⟨t, ht, hread⟩ := exists_of_bind hread
      rw [Record.positions, bind_of_ok (h hv ht)]
      exact ih hrest hread

/-- **A record is read from a text as it is read at hand**, from an object or an array. -/
theorem read (h : r.Agrees) : Reader.Agrees r.read := by
  intro n v a hv ha
  cases hv with
  | seq hvs =>
    rw [Record.read, bind_of_ok Limits.enter_value] at ha
    obtain ⟨⟨s, extra⟩, hs, ha⟩ := exists_of_bind ha
    rw [Record.read, bind_of_ok (Limits.enter_inside _), bind_of_ok (h.positions hvs hs)]
    by_cases hextra : extra = 0
    · simpa [hextra] using ha
    · simp [hextra] at ha
      cases ha
  | map hms =>
    rw [Record.read, bind_of_ok Limits.enter_value] at ha
    obtain ⟨s, hs, ha⟩ := exists_of_bind ha
    rw [Record.read, bind_of_ok (Limits.enter_inside _), bind_of_ok (h.members hms hs)]
    exact ha
  | _ => cases ha

end Record.Agrees

end Json

open Json

/-! ## Documents -/

theorem FieldDecl.agrees : record.Agrees := by
  intro n key v s s' hv h
  simp only [record] at h ⊢
  split at h
  · exact Reader.agrees_string.step hv h
  · exact Reader.agrees_string.optional.step hv h
  · exact Reader.agrees_string.step hv h
  · exact Reader.agrees_bool.step hv h
  · exact Reader.agrees_any.optional.step hv h

theorem ReturnDecl.agrees : record.Agrees := by
  intro n key v s s' hv h
  simp only [record] at h ⊢
  split at h
  · exact Reader.agrees_string.step hv h
  · exact Reader.agrees_string.optional.step hv h

theorem MethodDecl.agrees : record.Agrees := by
  intro n key v s s' hv h
  simp only [record] at h ⊢
  split at h
  · exact Reader.agrees_string.step hv h
  · exact Reader.agrees_string.optional.step hv h
  · exact FieldDecl.agrees.read.list.step hv h
  · exact ReturnDecl.agrees.read.optional.step hv h

theorem ConstructorDecl.agrees : record.Agrees := by
  intro n key v s s' hv h
  simp only [record] at h ⊢
  split at h
  · exact Reader.agrees_string.optional.step hv h
  · exact FieldDecl.agrees.read.list.step hv h

theorem EventDecl.agrees : record.Agrees := by
  intro n key v s s' hv h
  simp only [record] at h ⊢
  split at h
  · exact Reader.agrees_string.step hv h
  · exact Reader.agrees_string.optional.step hv h
  · exact FieldDecl.agrees.read.list.step hv h

theorem AliasDecl.agrees : record.Agrees := by
  intro n key v s s' hv h
  simp only [record] at h ⊢
  split at h
  · exact Reader.agrees_string.step hv h
  · exact Reader.agrees_string.optional.step hv h
  · exact Reader.agrees_string.step hv h

theorem ComplexTypeDecl.agrees : record.Agrees := by
  intro n key v s s' hv h
  simp only [record] at h ⊢
  split at h
  · exact Reader.agrees_string.step hv h
  · exact Reader.agrees_string.optional.step hv h
  · exact (Reader.agrees_word TypeFormat.words).step hv h
  · exact Reader.agrees_string.optional.step hv h
  · exact FieldDecl.agrees.read.list.step hv h
  · exact Reader.agrees_string.list.step hv h

theorem RemoteClassDecl.agrees : record.Agrees := by
  intro n key v s s' hv h
  simp only [record] at h ⊢
  split at h
  · exact Reader.agrees_string.step hv h
  · exact Reader.agrees_string.optional.step hv h
  · exact Reader.agrees_string.optional.step hv h
  · exact Reader.agrees_bool.step hv h
  · exact ConstructorDecl.agrees.read.optional.step hv h
  · exact MethodDecl.agrees.read.list.step hv h
  · exact EventDecl.agrees.read.list.step hv h

theorem Import.agrees : record.Agrees := by
  intro n key v s s' hv h
  simp only [record] at h ⊢
  split at h
  · exact Reader.agrees_string.step hv h
  · exact Reader.agrees_string.step hv h

/-- **A document is read from a text as it is read at hand**, as far as it nests no deeper. -/
theorem Document.agrees : record.Agrees := by
  intro n key v s s' hv h
  simp only [record] at h ⊢
  split at h
  · exact Reader.agrees_string.step hv h
  · exact Reader.agrees_string.step hv h
  · exact Reader.agrees_string.optional.step hv h
  · exact Import.agrees.read.list.step hv h
  · exact Reader.agrees_any.step hv h
  · exact AliasDecl.agrees.read.list.step hv h
  · exact ComplexTypeDecl.agrees.read.list.step hv h
  · exact RemoteClassDecl.agrees.read.list.step hv h
  · exact (Reader.agrees_word Origin.words).optional.step hv h

/-- **A document without repeated keys and null default values is parsed from the text that is
written for it**, if its numbers survive and its containers nest no deeper than a text may. -/
theorem Document.parse_pretty {d : Document} (h : d.Readable) (hnumbers : d.toJson.Survives)
    (hdepth : d.toJson.depth ≤ 127) : parse d.toJson.pretty = .ok d := by
  have hread : record.read (.inside 127) (Source.ofJson d.toJson) = .ok d :=
    Document.agrees.read (Source.fits_ofJson d.toJson hdepth) (ofJson_toJson h)
  rw [parse, Reader.ofText, scan_pretty hnumbers]
  exact bind_of_ok hread _

/-- A document whose configuration has the largest of the integers and a double. -/
def Document.numbered : Document :=
  { ordered with
    code := .obj [("limit", .num (.int (2 ^ 64 - 1))),
      ("scale", .num (.double ⟨false, 3 * 2 ^ 51, -52⟩))] }

/-- Both numbers are read back from the text of the document. -/
theorem Document.parse_pretty_numbered : parse numbered.toJson.pretty = .ok numbered := by
  have hread : ofJson numbered.toJson = .ok numbered := rfl
  have hreadable : numbered.Readable := yields .value (Source.ofJson numbered.toJson) numbered hread
  exact parse_pretty hreadable (by decide +kernel) (by decide)

end InterfaceGen
