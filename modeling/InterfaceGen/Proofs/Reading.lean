import InterfaceGen.Loading
import InterfaceGen.Proofs.Arrangement
import InterfaceGen.Proofs.Build
import InterfaceGen.Proofs.Overlay
import InterfaceGen.Startup

/-!
# Proofs/Reading — what is read has each key of an object once

A key that comes again is read into its first place, so the objects that are read have distinct
keys; and a default value that is null is read as no default value. Readers pass on what their parts
yield (`Reader.Yields`), and records what each of their steps keeps (`Record.Keeps`). So whatever a
run loads can be merged. Main statements: `Document.yields` and
`FileSystem.mergeable_of_readOverlay`.
-/

namespace InterfaceGen

/-- A result of two steps is the result of the second on that of the first. -/
theorem exists_of_bind {ε α β : Type} {x : Except ε α} {f : α → Except ε β} {b : β}
    (h : (x >>= f) = .ok b) : ∃ a, x = .ok a ∧ f a = .ok b := by
  cases x with
  | ok a => exact ⟨a, rfl, h⟩
  | error e => cases h

/-- The second of two steps goes on from the result of the first. -/
theorem bind_of_ok {ε α β : Type} {x : Except ε α} {a : α} (h : x = .ok a) (f : α → Except ε β) :
    (x >>= f) = f a := by
  rw [h]
  rfl

/-- Faults may be put into other words without touching what goes well. -/
theorem mapError_eq_ok_iff {ε ε' α : Type} {x : Except ε α} {f : ε → ε'} {a : α} :
    x.mapError f = .ok a ↔ x = .ok a := by
  cases x <;> simp [Except.mapError]

namespace Json

/-! ## Readers -/

/-- Whatever the reader reads has the property `p`. -/
def Reader.Yields {α : Type} (r : Reader α) (p : α → Prop) : Prop :=
  ∀ l v a, r l v = .ok a → p a

namespace Reader

variable {α : Type} {r : Reader α} {p : α → Prop}

theorem Yields.optional (h : r.Yields p) : (optional r).Yields fun o => ∀ a ∈ o, p a := by
  intro l v o ho
  unfold Reader.optional at ho
  split at ho
  · cases ho
    intro a ha
    cases ha
  · cases hv : r l v with
    | error f => rw [hv] at ho; cases ho
    | ok b =>
      rw [hv] at ho
      cases ho
      intro a ha
      cases ha
      exact h l v b hv

theorem Yields.items (h : r.Yields p) {l : Limits} {vs : List Source} {as : List α}
    (has : items r l vs = .ok as) : ∀ a ∈ as, p a := by
  induction vs generalizing as with
  | nil =>
    cases has
    exact fun _ ha => absurd ha List.not_mem_nil
  | cons v vs ih =>
    obtain ⟨b, hb, has⟩ := exists_of_bind has
    obtain ⟨bs, hbs, has⟩ := exists_of_bind has
    cases has
    exact List.forall_mem_cons.2 ⟨h l v b hb, ih hbs⟩

theorem Yields.list (h : r.Yields p) : (list r).Yields fun as => ∀ a ∈ as, p a := by
  intro l v as has
  unfold Reader.list at has
  split at has
  · obtain ⟨inner, -, has⟩ := exists_of_bind has
    obtain ⟨bs, hbs, has⟩ := exists_of_bind has
    split at has
    · cases has
      exact h.items hbs
    · cases has
  · cases has

theorem Yields.ofText (h : r.Yields p) {s : String} {a : α} (ha : ofText r s = .ok a) : p a := by
  unfold Reader.ofText at ha
  split at ha
  next v rest _ =>
  obtain ⟨b, hb, ha⟩ := exists_of_bind ha
  split at ha
  · split at ha
    · cases ha
      exact h _ v _ hb
    · cases ha
  · cases ha

/-- A member set among members of different keys is again one. -/
theorem distinct_set {ms : Members} {key : String} {v : Json} (hms : Distinct (.obj ms))
    (hv : v.Distinct) : Distinct (.obj (ms.set key v)) := by
  obtain ⟨hkeys, hvalues⟩ := distinct_obj_iff.1 hms
  have hnodup := Members.nodup_keys_set hkeys key v
  refine .obj hnodup fun e he => ?_
  have hlookup : (ms.set key v).lookup e.1 = some e.2 := (Table.mem_iff_of_nodup hnodup).1 he
  rw [Members.lookup_set] at hlookup
  split at hlookup
  · cases hlookup
    exact hv
  · exact hvalues _ (Table.mem_of_find? hlookup)

mutual

/-- **Any value that is read has each key of an object once.** -/
theorem yields_json : ∀ (l : Limits) (v : Source) (j : Json), json l v = .ok j → j.Distinct
  | _, .null, _, h => by cases h; exact .null
  | _, .bool _, _, h => by cases h; exact .bool _
  | _, .num _, _, h => by cases h; exact .num _
  | _, .str _, _, h => by cases h; exact .str _
  | l, .seq vs ended, _, h => by
    obtain ⟨inner, -, h⟩ := exists_of_bind h
    obtain ⟨js, hjs, h⟩ := exists_of_bind h
    split at h
    · cases h
      exact .arr (yields_jsonItems inner vs js hjs)
    · cases h
  | l, .map ms ended, _, h => by
    obtain ⟨inner, -, h⟩ := exists_of_bind h
    obtain ⟨js, hjs, h⟩ := exists_of_bind h
    split at h
    · cases h
      exact yields_jsonMembers inner ms [] js distinct_obj_nil hjs
    · cases h
  | _, .unreadable, _, h => by cases h
  | _, .malformed, _, h => by cases h

theorem yields_jsonItems : ∀ (l : Limits) (vs : List Source) (js : List Json),
    jsonItems l vs = .ok js → ∀ j ∈ js, j.Distinct
  | _, [], _, h => by cases h; exact fun _ hj => absurd hj List.not_mem_nil
  | l, v :: vs, _, h => by
    obtain ⟨j, hj, h⟩ := exists_of_bind h
    obtain ⟨js, hjs, h⟩ := exists_of_bind h
    cases h
    exact List.forall_mem_cons.2 ⟨yields_json l v j hj, yields_jsonItems l vs js hjs⟩

theorem yields_jsonMembers : ∀ (l : Limits) (ms : List (String × Source)) (acc js : Members),
    Distinct (.obj acc) → jsonMembers l ms acc = .ok js → Distinct (.obj js)
  | _, [], _, _, hacc, h => by cases h; exact hacc
  | l, (k, v) :: ms, acc, js, hacc, h => by
    obtain ⟨j, hj, h⟩ := exists_of_bind h
    exact yields_jsonMembers l ms _ js (distinct_set hacc (yields_json l v j hj)) h

end

/-- Null is read from null only. -/
theorem eq_null_of_json {l : Limits} {v : Source} (h : json l v = .ok .null) : v = .null := by
  cases v with
  | null => rfl
  | seq vs ended =>
    obtain ⟨inner, -, h⟩ := exists_of_bind h
    obtain ⟨js, -, h⟩ := exists_of_bind h
    split at h <;> cases h
  | map ms ended =>
    obtain ⟨inner, -, h⟩ := exists_of_bind h
    obtain ⟨js, -, h⟩ := exists_of_bind h
    split at h <;> cases h
  | _ => cases h

/-- An optional value of any kind is not null, since null stands for its absence. -/
theorem yields_optional_json :
    (optional json).Yields fun o => ∀ v ∈ o, v.Distinct ∧ v.isNull = false := by
  intro l v o ho
  refine fun j hj => ⟨Yields.optional yields_json l v o ho j hj, ?_⟩
  unfold Reader.optional at ho
  split at ho
  · cases ho
    cases hj
  · next hnull =>
    cases hread : json l v with
    | error f => rw [hread] at ho; cases ho
    | ok k =>
      rw [hread] at ho
      cases ho
      cases hj
      cases j with
      | null => exact absurd (eq_null_of_json hread) (hnull ·)
      | _ => rfl

end Reader

/-! ## Records -/

/-- What a record gathers has the property `i` throughout, and what is read then has `p`. -/
structure Record.Keeps {σ α : Type} (r : Record σ α) (i : σ → Prop) (p : α → Prop) : Prop where
  start : i r.start
  step : ∀ l key v s s', i s → r.step l key v s = .ok s' → i s'
  finish : ∀ fault s a, i s → r.finish fault s = .ok a → p a

namespace Record.Keeps

variable {σ α : Type} {r : Record σ α} {i : σ → Prop} {p : α → Prop}

theorem members (h : r.Keeps i p) {l : Limits} {ms : List (String × Source)}
    {seen : List String} {s s' : σ} (hs : i s) (hread : r.members l seen s ms = .ok s') :
    i s' := by
  induction ms generalizing seen s with
  | nil => cases hread; exact hs
  | cons e ms ih =>
    obtain ⟨k, v⟩ := e
    simp only [Record.members] at hread
    split at hread
    · split at hread
      · cases hread
      · obtain ⟨t, ht, hread⟩ := exists_of_bind hread
        exact ih (h.step l k v s t hs ht) hread
    · obtain ⟨-, -, hread⟩ := exists_of_bind hread
      exact ih hs hread

theorem positions (h : r.Keeps i p) {l : Limits} {fields : List String} {vs : List Source}
    {s s' : σ} {extra : Nat} (hs : i s) (hread : r.positions l fields s vs = .ok (s', extra)) :
    i s' := by
  induction fields generalizing vs s with
  | nil => cases hread; exact hs
  | cons f fields ih =>
    cases vs with
    | nil => cases hread; exact hs
    | cons v vs =>
      obtain ⟨t, ht, hread⟩ := exists_of_bind hread
      exact ih (h.step l f v s t hs ht) hread

/-- **What a record reads has the property that its steps keep**, from an object or an array. -/
theorem read (h : r.Keeps i p) : Reader.Yields r.read p := by
  intro l v a ha
  unfold Record.read at ha
  split at ha
  · obtain ⟨inner, -, ha⟩ := exists_of_bind ha
    obtain ⟨s, hs, ha⟩ := exists_of_bind ha
    split at ha
    · exact h.finish _ s a (h.members h.start hs) ha
    · cases ha
  · obtain ⟨inner, -, ha⟩ := exists_of_bind ha
    obtain ⟨⟨s, extra⟩, hs, ha⟩ := exists_of_bind ha
    simp only at ha
    split at ha
    · split at ha
      · exact h.finish _ s a (h.positions h.start hs) ha
      · split at ha <;> cases ha
    · cases ha
  · cases ha

end Record.Keeps

end Json

open Json

/-! ## Documents -/

/-- The default value of a field as it can be read: no object in it has a key twice, and it is not
null. -/
def FieldDecl.Readable (f : FieldDecl) : Prop :=
  ∀ v ∈ f.defaultValue, v.Distinct ∧ v.isNull = false

/-- No object in the document has a key twice, and no default value is null. -/
structure Document.Readable (d : Document) : Prop where
  code : d.code.Distinct
  fields : ∀ decl ∈ d.declarations, ∀ f ∈ decl.fields, f.Readable

theorem Document.Readable.distinct {d : Document} (h : d.Readable) : d.Distinct :=
  ⟨h.code, fun decl hdecl f hf v hv => (h.fields decl hdecl f hf v hv).1⟩

theorem FieldDecl.yields : Reader.Yields record.read Readable := by
  refine Record.Keeps.read (i := fun d => ∀ v ∈ d.defaultValue, v.Distinct ∧ v.isNull = false)
    ⟨?_, ?_, ?_⟩
  · exact fun v hv => by cases hv
  · intro l key v s s' hs h
    simp only [record] at h
    split at h <;> obtain ⟨x, hx, h⟩ := exists_of_bind h <;> cases h
    all_goals first | exact hs | exact Reader.yields_optional_json l v x hx
  · intro fault s a hs h
    obtain ⟨name, -, h⟩ := exists_of_bind h
    obtain ⟨type, -, h⟩ := exists_of_bind h
    cases h
    exact hs

/-- Fields are read in lists wherever they are read. -/
theorem FieldDecl.yields_list :
    Reader.Yields (Reader.list record.read) fun fs => ∀ f ∈ fs, f.Readable :=
  Reader.Yields.list FieldDecl.yields

theorem MethodDecl.yields :
    Reader.Yields record.read fun m => ∀ f ∈ m.params, f.Readable := by
  refine Record.Keeps.read (i := fun d => ∀ f ∈ d.params, f.Readable) ⟨?_, ?_, ?_⟩
  · exact fun f hf => absurd hf List.not_mem_nil
  · intro l key v s s' hs h
    simp only [record] at h
    split at h <;> obtain ⟨x, hx, h⟩ := exists_of_bind h <;> cases h
    all_goals first | exact hs | exact FieldDecl.yields_list l v x hx
  · intro fault s a hs h
    obtain ⟨name, -, h⟩ := exists_of_bind h
    cases h
    exact hs

theorem ConstructorDecl.yields :
    Reader.Yields record.read fun c => ∀ f ∈ c.params, f.Readable := by
  refine Record.Keeps.read (i := fun d => ∀ f ∈ d.params, f.Readable) ⟨?_, ?_, ?_⟩
  · exact fun f hf => absurd hf List.not_mem_nil
  · intro l key v s s' hs h
    simp only [record] at h
    split at h <;> obtain ⟨x, hx, h⟩ := exists_of_bind h <;> cases h
    all_goals first | exact hs | exact FieldDecl.yields_list l v x hx
  · intro fault s a hs h
    cases h
    exact hs

theorem EventDecl.yields :
    Reader.Yields record.read fun e => ∀ f ∈ e.properties, f.Readable := by
  refine Record.Keeps.read (i := fun d => ∀ f ∈ d.properties, f.Readable) ⟨?_, ?_, ?_⟩
  · exact fun f hf => absurd hf List.not_mem_nil
  · intro l key v s s' hs h
    simp only [record] at h
    split at h <;> obtain ⟨x, hx, h⟩ := exists_of_bind h <;> cases h
    all_goals first | exact hs | exact FieldDecl.yields_list l v x hx
  · intro fault s a hs h
    obtain ⟨name, -, h⟩ := exists_of_bind h
    cases h
    exact hs

theorem ComplexTypeDecl.yields :
    Reader.Yields record.read fun c => ∀ f ∈ (Declaration.complex c).fields, f.Readable := by
  refine Record.Keeps.read (i := fun d => ∀ f ∈ d.properties, f.Readable) ⟨?_, ?_, ?_⟩
  · exact fun f hf => absurd hf List.not_mem_nil
  · intro l key v s s' hs h
    simp only [record] at h
    split at h <;> obtain ⟨x, hx, h⟩ := exists_of_bind h <;> cases h
    all_goals first | exact hs | exact FieldDecl.yields_list l v x hx
  · intro fault s a hs h
    obtain ⟨name, -, h⟩ := exists_of_bind h
    cases h
    exact hs

theorem RemoteClassDecl.yields :
    Reader.Yields record.read fun r => ∀ f ∈ (Declaration.remote r).fields, f.Readable := by
  refine Record.Keeps.read (i := fun d => (∀ c ∈ d.constructor, ∀ f ∈ c.params, f.Readable) ∧
    (∀ m ∈ d.methods, ∀ f ∈ m.params, f.Readable) ∧
    ∀ e ∈ d.events, ∀ f ∈ e.properties, f.Readable) ⟨?_, ?_, ?_⟩
  · exact ⟨fun c hc => (by cases hc), fun m hm => absurd hm List.not_mem_nil,
      fun e he => absurd he List.not_mem_nil⟩
  · intro l key v s s' hs h
    simp only [record] at h
    split at h <;> obtain ⟨x, hx, h⟩ := exists_of_bind h <;> cases h
    all_goals first
      | exact hs
      | exact ⟨Reader.Yields.optional ConstructorDecl.yields l v x hx, hs.2⟩
      | exact ⟨hs.1, Reader.Yields.list MethodDecl.yields l v x hx, hs.2.2⟩
      | exact ⟨hs.1, hs.2.1, Reader.Yields.list EventDecl.yields l v x hx⟩
  · intro fault s a hs h
    obtain ⟨name, -, h⟩ := exists_of_bind h
    cases h
    exact Declaration.forall_fields_remote_iff.2 hs

/-- **A document that is read is one that can be read**: the steps of its record keep what the
records of its declarations yield. -/
theorem Document.yields : Reader.Yields record.read Readable := by
  refine Record.Keeps.read (i := fun d => d.code.Distinct ∧
    (∀ c ∈ d.complexTypes, ∀ f ∈ (Declaration.complex c).fields, f.Readable) ∧
    ∀ r ∈ d.remoteClasses, ∀ f ∈ (Declaration.remote r).fields, f.Readable) ⟨?_, ?_, ?_⟩
  · exact ⟨.null, fun c hc => absurd hc List.not_mem_nil, fun r hr => absurd hr List.not_mem_nil⟩
  · intro l key v s s' hs h
    simp only [record] at h
    split at h <;> obtain ⟨x, hx, h⟩ := exists_of_bind h <;> cases h
    all_goals first
      | exact hs
      | exact ⟨Reader.yields_json l v x hx, hs.2⟩
      | exact ⟨hs.1, Reader.Yields.list ComplexTypeDecl.yields l v x hx, hs.2.2⟩
      | exact ⟨hs.1, hs.2.1, Reader.Yields.list RemoteClassDecl.yields l v x hx⟩
  · intro fault s a hs h
    obtain ⟨name, -, h⟩ := exists_of_bind h
    obtain ⟨version, -, h⟩ := exists_of_bind h
    cases h
    obtain ⟨hcode, hcomplex, hremote⟩ := hs
    refine ⟨hcode, fun d hd => ?_⟩
    simp only [declarations, List.mem_append, List.mem_map] at hd
    rcases hd with (⟨a, -, rfl⟩ | ⟨c, hc, rfl⟩) | ⟨r, hr, rfl⟩
    · exact fun f hf => absurd hf List.not_mem_nil
    · exact hcomplex c hc
    · exact hremote r hr

/-- **A document that is read has each key of an object once.** -/
theorem Document.distinct_of_parse {s : String} {d : Document} (h : parse s = .ok d) : d.Distinct :=
  (Reader.Yields.ofText yields h).distinct

/-! ## Files -/

theorem FileSystem.distinct_of_loadDocument {fs : FileSystem} {origin : Origin} {path : String}
    {l : Loaded} (h : fs.loadDocument origin path = .ok l) : l.document.Distinct := by
  obtain ⟨d, hd, rfl⟩ := exists_of_loadDocument h
  unfold readDocument at hd
  split at hd
  · cases hd
  · exact Document.distinct_of_parse (mapError_eq_ok_iff.1 hd)

/-- Documents that are loaded have each key of an object once. -/
theorem Loading.distinct_of_mem {fs : FileSystem} {g : Glob} {primary dependencies : List String}
    {l : Loaded} (h : l ∈ (ofLocations fs g primary dependencies).documents) :
    l.document.Distinct := by
  simp only [ofLocations, mem_successes, List.mem_append, List.mem_map] at h
  rcases h with ⟨path, -, h⟩ | ⟨path, -, h⟩
  · exact FileSystem.distinct_of_loadDocument h
  · exact FileSystem.distinct_of_loadDocument h

/-- An overlay that is read is well formed. -/
theorem FileSystem.wellFormed_of_readOverlay {fs : FileSystem} {path : Option String} {o : Overlay}
    (h : fs.readOverlay path = .ok o) : o.WellFormed := by
  cases path with
  | none =>
    cases h
    exact Overlay.wellFormed_empty
  | some path =>
    unfold readOverlay at h
    simp only at h
    split at h
    · obtain ⟨text, -, h⟩ := exists_of_bind h
      obtain ⟨v, hv, h⟩ := exists_of_bind h
      refine Overlay.wellFormed_of_ofJson ?_ (mapError_eq_ok_iff.1 h)
      exact Reader.Yields.ofText Reader.yields_json (mapError_eq_ok_iff.1 hv)
    · cases h

/-- The documents and the overlay are such as a run merges: no two documents have one path and one
origin, and neither in them nor in the overlay has an object a key twice. -/
structure Mergeable (docs : List Loaded) (o : Overlay) : Prop where
  apart : Loaded.Apart docs
  distinct : ∀ l ∈ docs, l.document.Distinct
  wellFormed : o.WellFormed

/-- **What a run loads can be merged**, under the overlay that it reads. -/
theorem FileSystem.mergeable_of_readOverlay {fs : FileSystem} (g : Glob)
    (primary dependencies : List String) {path : Option String} {o : Overlay}
    (h : fs.readOverlay path = .ok o) :
    Mergeable (Loading.ofLocations fs g primary dependencies).documents o where
  apart := Loading.apart_ofLocations fs g primary dependencies
  distinct _ hl := Loading.distinct_of_mem hl
  wellFormed := wellFormed_of_readOverlay h

end InterfaceGen
