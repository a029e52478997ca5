import InterfaceGen.Proofs.Context
import InterfaceGen.Proofs.Json.Distinct
import InterfaceGen.Proofs.Template.Safe

/-!
# Proofs/TypeNames — a type is told by its JSON form, and spelled from it

A type is read back from its form, so the forms of two types are the same JSON only if the types
are the same: the kinds tell the five sorts of types apart, and below a kind the members do. And a
template that has nothing but the JSON of a type, as it stands in a field or with a method, is given
the very spelling of that type. Main statement: `typeForm_tells`.
-/

namespace InterfaceGen

open Template (typeName_of_spellValue)

namespace DataType

theorem distinct_toJson (t : DataType) : t.toJson.Distinct := by
  induction t with
  | primitive p => exact .obj (by simp) (by simpa using ⟨.str "primitive", .str p.name⟩)
  | reference k =>
    exact .obj (by simp) (by simpa using ⟨.str "reference", .str k.module, .str k.name⟩)
  | sequence t ih => exact .obj (by simp) (by simpa using ⟨.str "sequence", ih⟩)
  | set t ih => exact .obj (by simp) (by simpa using ⟨.str "set", ih⟩)
  | map t ih => exact .obj (by simp) (by simpa using ⟨.str "map", ih⟩)

/-- **Different types have different forms**, in whatever order the members of objects come. -/
theorem same_toJson_iff {t u : DataType} : t.toJson.same u.toJson = true ↔ t = u := by
  refine ⟨fun h => ?_, fun h => h ▸ t.distinct_toJson.same_refl⟩
  induction t generalizing u with
  | primitive p =>
    cases u <;> simp [toJson, Json.same, Json.sameMembers, List.lookup_cons] at h
    exact congrArg _ (Primitive.name_injective h)
  | reference k =>
    cases u <;> simp [toJson, Json.same, Json.sameMembers, List.lookup_cons] at h
    next k' =>
    obtain ⟨module, name⟩ := k
    obtain ⟨module', name'⟩ := k'
    obtain ⟨rfl, rfl⟩ := h
    rfl
  | sequence t ih | set t ih | map t ih =>
    cases u <;> simp [toJson, Json.same, Json.sameMembers, List.lookup_cons] at h
    exact congrArg _ (ih h)

end DataType

/-! ## Spelling from the form -/

/-- A filter spells types in a dialect wherever templates come upon one: by itself, as the type of a
field or parameter, and as what a method returns. -/
structure Dialect.SpeltBy (d : Dialect) (filter : Json → Except String Json) : Prop where
  types : ∀ t : DataType, filter t.toJson = .ok (.str (d.spell t))
  fields : ∀ f : Field, ∃ v, f.toJson.get? "dataType" = some v ∧
    filter v = .ok (.str (d.spell f.dataType))
  results : ∀ m : Operation, ∃ v, m.toJson.get? "returnType" = some v ∧
    filter v = .ok (.str (m.returnType.elim d.void d.spell))

theorem Field.dataType_toJson (f : Field) : f.toJson.get? "dataType" = some f.dataType.toJson := by
  cases hdoc : f.doc <;> simp [toJson, Json.get?, hdoc, textMember, optionalMember,
    List.lookup_cons]

theorem Operation.returnType_toJson (m : Operation) :
    m.toJson.get? "returnType" = some (orNull (m.returnType.map DataType.toJson)) := by
  cases hdoc : m.doc <;> simp [toJson, Json.get?, hdoc, textMember, optionalMember,
    List.lookup_cons]

/-- **The filter spells types in the language it is asked for.** -/
theorem Filters.speltBy_typeName {o : Overlay} {args : Template.Args} {l : Language}
    (hl : languageOf (args.lookup "lang") = .ok l) :
    (dialect o l).SpeltBy fun v => (typeName o v args).mapError (·.message) := by
  have htype (t : DataType) : (typeName o t.toJson args).mapError (·.message) =
      .ok (.str ((dialect o l).spell t)) := by
    rw [typeName_of_spellValue hl (t.spellValue_toJson (dialect o l)), Except.mapError]
  have hvoid : (typeName o .null args).mapError (·.message) = .ok (.str (dialect o l).void) := by
    rw [typeName_of_spellValue hl rfl, Except.mapError]
  refine ⟨htype, fun f => ⟨_, f.dataType_toJson, htype f.dataType⟩,
    fun m => ⟨_, m.returnType_toJson, ?_⟩⟩
  cases m.returnType with
  | none => exact hvoid
  | some t => exact htype t

/-- **A type is read back from its form; in each language that templates may ask for, with any words
for primitives, the form is spelled as the type is; and no two types have one form.** -/
theorem typeForm_tells : (∀ t, DataType.ofJson t.toJson = .ok t) ∧
    (∀ (m : Model) (o : Overlay) (args : Template.Args) (l : Language),
      Filters.languageOf (args.lookup "lang") = .ok l →
      ∃ filter, (templateCalls m o).filter "type_name" = some filter ∧
        (Filters.dialect o l).SpeltBy (filter · args)) ∧
    ∀ t u : DataType, t.toJson.same u.toJson = true ↔ t = u :=
  ⟨DataType.ofJson_toJson, fun _ _ _ _ hl => ⟨_, rfl, Filters.speltBy_typeName hl⟩,
    fun _ _ => DataType.same_toJson_iff⟩

/-- Numbers as bigints in TypeScript, by its short name, within a map of sequences. -/
theorem typeForm_tells_bigint :
    let o : Overlay := ⟨[], [], [("typescript", .obj [("int64", .str "bigint")])]⟩
    let args : Template.Args := [("lang", .str "ts")]
    let t : DataType := .map (.sequence (.primitive .int64))
    Filters.languageOf (args.lookup "lang") = .ok .typescript ∧
      ∃ filter, (templateCalls ⟨[], []⟩ o).filter "type_name" = some filter ∧
        filter t.toJson args = .ok (.str "Record<string, bigint[]>") := by
  intro o args t
  refine ⟨rfl, ?_⟩
  obtain ⟨filter, hfilter, hspelt⟩ := typeForm_tells.2.1 ⟨[], []⟩ o args .typescript rfl
  exact ⟨filter, hfilter, hspelt.types t⟩

end InterfaceGen
