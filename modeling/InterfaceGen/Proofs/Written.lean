import InterfaceGen.Document.Writer
import InterfaceGen.Proofs.Reading

/-!
# Proofs/Written — what is written for a document is read as that document

Each member of a record is left out exactly where reading gives its absence the value it had: a text
that is not there, a list without items, parameters that are null. Reading a row of members is
stated for every set of fields that may have been met before (`Record.Reads`), so that the members
compose however many of them are left out. Main statement: `Document.readsBack_of_read`.
-/

namespace InterfaceGen

namespace Json

/-! ## Values -/

theorem Source.ofMembers_append (ms ns : Members) :
    ofMembers (ms ++ ns) = ofMembers ms ++ ofMembers ns := by
  induction ms with
  | nil => rfl
  | cons e ms ih =>
    obtain ⟨k, v⟩ := e
    rw [List.cons_append, ofMembers, ofMembers, ih, List.cons_append]

namespace Reader

variable {α : Type} {r : Reader α} {w : α → Json}

/-- Items that are read back one by one are read back as a list. -/
theorem ofJson_list {as : List α} (h : ∀ a ∈ as, ofJson r (w a) = .ok a) :
    ofJson (list r) (.arr (as.map w)) = .ok as := by
  have hitems : items r .value (Source.ofItems (as.map w)) = .ok as := by
    induction as with
    | nil => rfl
    | cons a as ih =>
      obtain ⟨ha, has⟩ := List.forall_mem_cons.1 h
      rw [ofJson] at ha
      rw [List.map_cons, Source.ofItems, items, bind_of_ok ha, bind_of_ok (ih has)]
      rfl
  rw [ofJson, Source.ofJson, list, bind_of_ok Limits.enter_value, bind_of_ok hitems]
  rfl

theorem ofJson_optional {v : Json} {a : α} (h : ofJson r v = .ok a) (hv : v.isNull = false) :
    ofJson (optional r) v = .ok (some a) := by
  have hmap : (ofJson r v).map some = .ok (some a) := by
    rw [h]
    rfl
  cases v with
  | null => cases hv
  | _ => exact hmap

theorem jsonItems_ofItems {vs : List Json} (h : ∀ v ∈ vs, ofJson json v = .ok v) :
    jsonItems .value (Source.ofItems vs) = .ok vs := by
  induction vs with
  | nil => rfl
  | cons v vs ih =>
    obtain ⟨hv, hvs⟩ := List.forall_mem_cons.1 h
    rw [ofJson] at hv
    rw [Source.ofItems, jsonItems, bind_of_ok hv, bind_of_ok (ih hvs)]
    rfl

/-- Members of new and different keys are read to the end of those read before. -/
theorem jsonMembers_ofMembers {ms acc : Members} (hkeys : ((acc ++ ms).map (·.1)).Nodup)
    (h : ∀ e ∈ ms, ofJson json e.2 = .ok e.2) :
    jsonMembers .value (Source.ofMembers ms) acc = .ok (acc ++ ms) := by
  induction ms generalizing acc with
  | nil => rw [List.append_nil, Source.ofMembers, jsonMembers]
  | cons e ms ih =>
    obtain ⟨k, v⟩ := e
    obtain ⟨hv, hms⟩ := List.forall_mem_cons.1 h
    rw [ofJson] at hv
    have hnew : k ∉ acc.map (·.1) := by
      rw [List.map_append] at hkeys
      exact fun hk => (List.nodup_append.1 hkeys).2.2 k hk k List.mem_cons_self rfl
    rw [List.append_cons] at hkeys ⊢
    rw [Source.ofMembers, jsonMembers, bind_of_ok hv, Members.set_of_not_mem hnew, ih hkeys hms]

/-- **A value without repeated keys is read as itself.** -/
theorem ofJson_json {v : Json} (h : v.Distinct) : ofJson json v = .ok v := by
  induction h with
  | arr _ ih =>
    rw [ofJson, Source.ofJson, json, bind_of_ok Limits.enter_value,
      bind_of_ok (jsonItems_ofItems ih)]
    rfl
  | @obj ms hkeys _ ih =>
    have hms : jsonMembers .value (Source.ofMembers ms) [] = .ok ms :=
      jsonMembers_ofMembers hkeys ih
    rw [ofJson, Source.ofJson, json, bind_of_ok Limits.enter_value, bind_of_ok hms]
    rfl
  | _ => rfl

end Reader

/-! ## Members of records -/

namespace Record

variable {σ α β : Type} {r : Record σ α} {seen seen' seen'' : List String} {s s' s'' : σ}
  {key : String} {v : Json} {ms ns : Members}

/-- Reading the members takes the state from `s` to `s'`, and whoever had met no fields but `seen`
has then met none but `seen'`. -/
def Reads (r : Record σ α) (seen : List String) (s : σ) (ms : Members) (seen' : List String)
    (s' : σ) : Prop :=
  ∀ met ⊆ seen, ∃ met' ⊆ seen', ∀ rest,
    r.members .value met s (Source.ofMembers ms ++ rest) = r.members .value met' s' rest

/-- **Rows of members are read one after the other.** -/
theorem Reads.append (h : r.Reads seen s ms seen' s') (h' : r.Reads seen' s' ns seen'' s'') :
    r.Reads seen s (ms ++ ns) seen'' s'' := by
  intro met hmet
  obtain ⟨met', hmet', hread⟩ := h met hmet
  obtain ⟨met'', hmet'', hread'⟩ := h' met' hmet'
  refine ⟨met'', hmet'', fun rest => ?_⟩
  rw [Source.ofMembers_append, List.append_assoc, hread, hread']

variable (r)

/-- No members leave everything as it is. -/
theorem reads_nil (key : String) : r.Reads seen s [] (key :: seen) s :=
  fun met hmet => ⟨met, List.subset_cons_of_subset key hmet, fun _ => rfl⟩

/-- A member is read by the step of its field. -/
theorem reads_member (key : String) (hkey : key ∈ r.fields ∧ key ∉ seen)
    (hstep : r.step .value key (Source.ofJson v) s = .ok s') :
    r.Reads seen s [(key, v)] (key :: seen) s' := by
  refine fun met hmet => ⟨key :: met, List.cons_subset_cons key hmet, fun rest => ?_⟩
  rw [Source.ofMembers, Source.ofMembers, List.cons_append, List.nil_append, members, if_pos hkey.1,
    if_neg fun hmem => hkey.2 (hmet hmem), bind_of_ok hstep]

/-- A member that may be left out: without it, the field has the value of nothing. -/
theorem reads_optional (key : String) {w : β → Json} {o : Option β} (put : Option β → σ)
    (hkey : key ∈ r.fields ∧ key ∉ seen)
    (hstep : ∀ b ∈ o, r.step .value key (Source.ofJson (w b)) (put none) = .ok (put (some b))) :
    r.Reads seen (put none) (optionalMember key (o.map w)) (key :: seen) (put o) := by
  cases o with
  | none => exact r.reads_nil key
  | some b => exact r.reads_member key hkey (hstep b rfl)

/-- A list that is left out when it is empty. -/
theorem reads_list (key : String) {w : β → Json} {bs : List β} (put : List β → σ)
    (hkey : key ∈ r.fields ∧ key ∉ seen)
    (hstep : r.step .value key (Source.ofJson (.arr (bs.map w))) (put []) = .ok (put bs)) :
    r.Reads seen (put []) (listMember key w bs) (key :: seen) (put bs) := by
  cases bs with
  | nil => exact r.reads_nil key
  | cons b bs => exact r.reads_member key hkey hstep

variable {r}

/-- **A record is read back from its members**, if they lead to a state that it is built from. -/
theorem ofJson_obj {a : α} (h : r.Reads [] r.start ms seen s)
    (hfinish : r.finish .missingField s = .ok a) : Reader.ofJson r.read (.obj ms) = .ok a := by
  obtain ⟨met, -, hread⟩ := h [] (List.Subset.refl [])
  have hmembers : r.members .value [] r.start (Source.ofMembers ms) = .ok s := by
    rw [← List.append_nil (Source.ofMembers ms), hread, members]
  rw [Reader.ofJson, Source.ofJson, read, bind_of_ok Limits.enter_value, bind_of_ok hmembers]
  exact hfinish

end Record

end Json

open Json

/-! ## Members of types -/

theorem FieldDecl.ofJson_toJson {f : FieldDecl} (h : f.Readable) :
    Reader.ofJson record.read f.toJson = .ok f := by
  have hdefault : ∀ v ∈ f.defaultValue, record.step .value "defaultValue" (Source.ofJson v)
      ⟨f.name, f.doc, f.type, f.optional, none⟩ =
        .ok ⟨f.name, f.doc, f.type, f.optional, some v⟩ := by
    intro v hv
    obtain ⟨hdistinct, hnull⟩ := h v hv
    exact bind_of_ok (Reader.ofJson_optional (Reader.ofJson_json hdistinct) hnull) _
  have hlast := record.reads_optional (w := id) "defaultValue"
    (fun v => ⟨f.name, f.doc, f.type, f.optional, v⟩)
    ⟨by decide, show "defaultValue" ∉ ["optional", "type", "doc", "name"] by decide⟩ hdefault
  rw [Option.map_id] at hlast
  exact Record.ofJson_obj
    (record.reads_member "name" (by decide) (by rfl)
      |>.append (record.reads_optional "doc" (fun doc => { name := some f.name, doc })
        (by decide) fun _ _ => rfl)
      |>.append ((record.reads_member "type" (by decide) (by rfl)).append
        (record.reads_member "optional" (by decide) (by rfl)))
      |>.append hlast) rfl

theorem FieldDecl.ofJson_list {fs : List FieldDecl} (h : ∀ f ∈ fs, f.Readable) :
    Reader.ofJson (Reader.list record.read) (.arr (fs.map toJson)) = .ok fs :=
  Reader.ofJson_list fun f hf => FieldDecl.ofJson_toJson (h f hf)

theorem ReturnDecl.ofJson_toJson (r : ReturnDecl) : Reader.ofJson record.read r.toJson = .ok r :=
  Record.ofJson_obj
    (record.reads_member "type" (by decide) (by rfl)
      |>.append (record.reads_optional "doc" (fun doc => { type := r.type, doc })
        (by decide) fun _ _ => rfl)) rfl

theorem MethodDecl.ofJson_toJson {m : MethodDecl} (h : ∀ f ∈ m.params, f.Readable) :
    Reader.ofJson record.read m.toJson = .ok m :=
  Record.ofJson_obj
    (record.reads_member "name" (by decide) (by rfl)
      |>.append (record.reads_optional "doc" (fun doc => { name := m.name, doc })
        (by decide) fun _ _ => rfl)
      |>.append (record.reads_member "params" (by decide)
        (bind_of_ok (FieldDecl.ofJson_list h) _))
      |>.append (record.reads_optional "return" (fun result => ⟨m.name, m.doc, m.params, result⟩)
        (by decide) fun r _ =>
          bind_of_ok (Reader.ofJson_optional (ReturnDecl.ofJson_toJson r) rfl) _)) rfl

theorem ConstructorDecl.ofJson_toJson {c : ConstructorDecl} (h : ∀ f ∈ c.params, f.Readable) :
    Reader.ofJson record.read c.toJson = .ok c :=
  Record.ofJson_obj
    (record.reads_optional "doc" (fun doc => ⟨doc, []⟩) (by decide) (fun _ _ => rfl)
      |>.append (record.reads_member "params" (by decide)
        (bind_of_ok (FieldDecl.ofJson_list h) _))) rfl

theorem EventDecl.ofJson_toJson {e : EventDecl} (h : ∀ f ∈ e.properties, f.Readable) :
    Reader.ofJson record.read e.toJson = .ok e :=
  Record.ofJson_obj
    (record.reads_member "name" (by decide) (by rfl)
      |>.append (record.reads_optional "doc" (fun doc => { name := e.name, doc })
        (by decide) fun _ _ => rfl)
      |>.append (record.reads_member "properties" (by decide)
        (bind_of_ok (FieldDecl.ofJson_list h) _))) rfl

/-! ## Types -/

theorem AliasDecl.ofJson_toJson (a : AliasDecl) : Reader.ofJson record.read a.toJson = .ok a :=
  Record.ofJson_obj
    (record.reads_member "name" (by decide) (by rfl)
      |>.append (record.reads_optional "doc" (fun doc => { name := a.name, doc })
        (by decide) fun _ _ => rfl)
      |>.append (record.reads_member "type" (by decide) (by rfl))) rfl

theorem TypeFormat.ofJson_name (f : TypeFormat) :
    Reader.ofJson (Reader.word words) (.str f.name) = .ok f := by
  cases f <;> rfl

theorem ComplexTypeDecl.ofJson_toJson {c : ComplexTypeDecl} (h : ∀ f ∈ c.properties, f.Readable) :
    Reader.ofJson record.read c.toJson = .ok c := by
  have hvalues : Reader.ofJson (Reader.list Reader.string) (.arr (c.values.map .str)) =
      .ok c.values := Reader.ofJson_list fun _ _ => rfl
  exact Record.ofJson_obj
    (record.reads_member "name" (by decide) (by rfl)
      |>.append (record.reads_optional "doc" (fun doc => { name := c.name, doc })
        (by decide) fun _ _ => rfl)
      |>.append (record.reads_member "typeFormat" (by decide)
        (bind_of_ok (TypeFormat.ofJson_name c.format) _))
      |>.append (record.reads_optional "extends"
        (fun parent => ⟨c.name, c.doc, c.format, parent, [], []⟩) (by decide) fun _ _ => rfl)
      |>.append (record.reads_list "properties"
        (fun properties => ⟨c.name, c.doc, c.format, c.parent, properties, []⟩)
        (by decide) (bind_of_ok (FieldDecl.ofJson_list h) _))
      |>.append (record.reads_list "values"
        (fun values => ⟨c.name, c.doc, c.format, c.parent, c.properties, values⟩)
        (by decide) (bind_of_ok hvalues _))) rfl

theorem RemoteClassDecl.ofJson_toJson {r : RemoteClassDecl}
    (h : ∀ f ∈ (Declaration.remote r).fields, f.Readable) :
    Reader.ofJson record.read r.toJson = .ok r := by
  obtain ⟨hcreate, hcall, hemit⟩ := Declaration.forall_fields_remote_iff.1 h
  have hconstructor : ∀ c ∈ r.constructor, Reader.ofJson
      (Reader.optional ConstructorDecl.record.read) c.toJson = .ok (some c) := fun c hc =>
    Reader.ofJson_optional (ConstructorDecl.ofJson_toJson (hcreate c hc)) rfl
  have hmethods : Reader.ofJson (Reader.list MethodDecl.record.read)
      (.arr (r.methods.map MethodDecl.toJson)) = .ok r.methods :=
    Reader.ofJson_list fun m hm => MethodDecl.ofJson_toJson (hcall m hm)
  have hevents : Reader.ofJson (Reader.list EventDecl.record.read)
      (.arr (r.events.map EventDecl.toJson)) = .ok r.events :=
    Reader.ofJson_list fun e he => EventDecl.ofJson_toJson (hemit e he)
  exact Record.ofJson_obj
    (record.reads_member "name" (by decide) (by rfl)
      |>.append (record.reads_optional "doc" (fun doc => { name := r.name, doc })
        (by decide) fun _ _ => rfl)
      |>.append (record.reads_optional "extends"
        (fun parent => { name := r.name, doc := r.doc, parent }) (by decide) fun _ _ => rfl)
      |>.append (record.reads_member "abstract" (by decide) (by rfl))
      |>.append (record.reads_optional "constructor"
        (fun create => ⟨r.name, r.doc, r.parent, r.isAbstract, create, [], []⟩)
        (by decide) fun c hc => bind_of_ok (hconstructor c hc) _)
      |>.append (record.reads_list "methods"
        (fun methods => ⟨r.name, r.doc, r.parent, r.isAbstract, r.constructor, methods, []⟩)
        (by decide) (bind_of_ok hmethods _))
      |>.append (record.reads_list "events"
        (fun events => ⟨r.name, r.doc, r.parent, r.isAbstract, r.constructor, r.methods, events⟩)
        (by decide) (bind_of_ok hevents _))) rfl

/-! ## Documents -/

theorem Import.ofJson_toJson (i : Import) : Reader.ofJson record.read i.toJson = .ok i :=
  Record.ofJson_obj
    (record.reads_member "name" (by decide) (by rfl)
      |>.append (record.reads_member "version" (by decide) (by rfl))) rfl

theorem Origin.ofJson_name (o : Origin) :
    Reader.ofJson (Reader.word words) (.str o.name) = .ok o := by
  cases o <;> rfl

namespace Document

variable {d : Document}

/-- The parameters are left out when they are null, which is what they are read as then. -/
theorem reads_code (h : d.code.Distinct) {seen : List String} (hnew : "code" ∉ seen) :
    record.Reads seen { name := d.name, version := d.version, doc := d.doc, imports := d.imports }
      (if d.code.isNull then [] else [("code", d.code)]) ("code" :: seen)
      { name := d.name, version := d.version, doc := d.doc, imports := d.imports,
        code := d.code } := by
  by_cases hnull : d.code.isNull = true
  · have hcode : d.code = .null := by
      cases hc : d.code <;> simp_all [Json.isNull]
    rw [if_pos hnull, hcode]
    exact record.reads_nil "code"
  · rw [if_neg hnull]
    exact record.reads_member "code" ⟨by decide, hnew⟩ (bind_of_ok (Reader.ofJson_json h) _)

theorem reads_origin {seen : List String} (hnew : "origin" ∉ seen) :
    record.Reads seen
      ⟨d.name, d.version, d.doc, d.imports, d.code, d.aliases, d.complexTypes, d.remoteClasses,
        none⟩
      (textMember "origin" (d.origin.map Origin.name)) ("origin" :: seen)
      ⟨d.name, d.version, d.doc, d.imports, d.code, d.aliases, d.complexTypes, d.remoteClasses,
        d.origin⟩ := by
  rw [textMember, Option.map_map]
  exact record.reads_optional "origin" (fun origin => ⟨d.name, d.version, d.doc, d.imports, d.code,
    d.aliases, d.complexTypes, d.remoteClasses, origin⟩) ⟨by decide, hnew⟩ fun o _ =>
      bind_of_ok (Reader.ofJson_optional (Origin.ofJson_name o) rfl) _

/-- **A document without repeated keys and null default values is read back from what is written
for it**, member by member. -/
theorem ofJson_toJson (h : d.Readable) : ofJson d.toJson = .ok d := by
  have himports : Reader.ofJson (Reader.list Import.record.read)
      (.arr (d.imports.map Import.toJson)) = .ok d.imports :=
    Reader.ofJson_list fun i _ => Import.ofJson_toJson i
  have haliases : Reader.ofJson (Reader.list AliasDecl.record.read)
      (.arr (d.aliases.map AliasDecl.toJson)) = .ok d.aliases :=
    Reader.ofJson_list fun a _ => AliasDecl.ofJson_toJson a
  have hcomplex : Reader.ofJson (Reader.list ComplexTypeDecl.record.read)
      (.arr (d.complexTypes.map ComplexTypeDecl.toJson)) = .ok d.complexTypes := by
    refine Reader.ofJson_list fun c hc => ComplexTypeDecl.ofJson_toJson (h.fields (.complex c) ?_)
    simp [declarations, hc]
  have hremote : Reader.ofJson (Reader.list RemoteClassDecl.record.read)
      (.arr (d.remoteClasses.map RemoteClassDecl.toJson)) = .ok d.remoteClasses := by
    refine Reader.ofJson_list fun r hr => RemoteClassDecl.ofJson_toJson (h.fields (.remote r) ?_)
    simp [declarations, hr]
  exact Record.ofJson_obj
    (record.reads_member "name" (by decide) (by rfl)
      |>.append (record.reads_member "version" (by decide) (by rfl))
      |>.append (record.reads_optional "doc"
        (fun doc => { name := d.name, version := d.version, doc })
        (by decide) fun _ _ => rfl)
      |>.append (record.reads_list "imports"
        (fun imports => { name := d.name, version := d.version, doc := d.doc, imports })
        (by decide) (bind_of_ok himports _))
      |>.append (reads_code h.code (by decide))
      |>.append (record.reads_list "aliases"
        (fun aliases => ⟨d.name, d.version, d.doc, d.imports, d.code, aliases, [], [], none⟩)
        (by decide) (bind_of_ok haliases _))
      |>.append (record.reads_list "complexTypes"
        (fun types => ⟨d.name, d.version, d.doc, d.imports, d.code, d.aliases, types, [], none⟩)
        (by decide) (bind_of_ok hcomplex _))
      |>.append (record.reads_list "remoteClasses"
        (fun classes =>
          ⟨d.name, d.version, d.doc, d.imports, d.code, d.aliases, d.complexTypes, classes, none⟩)
        (by decide) (bind_of_ok hremote _))
      |>.append (reads_origin (by decide))) rfl

/-- **A document that was read is read back from what is written for it**: from a value or from a
text, whose objects may have their members in any order and others among them, or be given as
arrays. What is written is a value here; in its text a double may come out as one of its neighbours,
so from there only documents whose numbers survive are read back (`Proofs/Reparsed`). -/
theorem readsBack_of_read (h : (∃ v, ofJson v = .ok d) ∨ ∃ text, parse text = .ok d) :
    ofJson d.toJson = .ok d := by
  refine ofJson_toJson ?_
  rcases h with ⟨v, h⟩ | ⟨text, h⟩
  · exact yields .value (Source.ofJson v) d h
  · exact Reader.Yields.ofText yields h

/-! ## A document in disorder -/

/-- Members out of order and of no meaning, an array for a class and for its method, and nulls where
nothing is meant. -/
def disordered : Json := .obj [
  ("note", .obj []), ("code", .null), ("version", .str "1.0"),
  ("remoteClasses", .arr [.arr [.str "Player", .null, .null, .bool true, .obj [],
    .arr [.arr [.str "play", .null, .arr [.obj [("type", .str "int"), ("defaultValue", .null),
      ("name", .str "at")]]]]]]),
  ("origin", .obj [("imported", .null)]), ("name", .str "core"), ("aliases", .arr [])]

/-- What the document in disorder says. -/
def ordered : Document where
  name := "core"
  version := "1.0"
  doc := none
  imports := []
  code := .null
  aliases := []
  complexTypes := []
  remoteClasses := [⟨"Player", none, none, true, some ⟨none, []⟩,
    [⟨"play", none, [⟨"at", none, "int", false, none⟩], none⟩], []⟩]
  origin := some .imported

/-- The document in disorder is read, and read back in order. -/
theorem readsBack_of_read_disordered :
    ofJson disordered = .ok ordered ∧ ofJson ordered.toJson = .ok ordered := by
  have hread : ofJson disordered = .ok ordered := rfl
  exact ⟨hread, readsBack_of_read (.inl ⟨disordered, hread⟩)⟩

end Document

end InterfaceGen
