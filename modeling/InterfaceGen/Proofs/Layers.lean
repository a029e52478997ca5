import InterfaceGen.Proofs.Overlay
import Mathlib.Data.List.DropRight
import Mathlib.Data.List.Infix

/-!
# Proofs/Layers — a dotted key is looked up in each layer on its own

Following a path through merged values is merging what the path leads to in each of them
(`Json.follow?_merge`), with one exception: a layer that has a text, a number, a truth value or null
on the way *cuts* the path, and hides whatever the layers below it have at the end. What counts is
therefore the layers above the highest one that cuts. Main statement: `Overlay.lookup_eq_mergeAll?`.
-/

namespace InterfaceGen

namespace Json

/-! ## What lies on the way -/

/-- The segments of a dotted path; a blank one has none. -/
def segments (path : String) : List String :=
  if Text.trimmed path = "" then [] else Text.pieces '.' (Text.trimmed path)

theorem at?_eq (v : Json) (path : String) : v.at? path = v.follow? (segments path) := by
  simp only [at?, segments]
  split
  · rw [follow?]
  · rfl

/-- `w` stands in `v` on the way along a path: at a proper prefix of it. -/
def Passes (v : Json) (path : List String) (w : Json) : Prop :=
  ∃ front, front <+: path ∧ front ≠ path ∧ v.follow? front = some w

/-- Something other than an object stands on the way. -/
def Cuts (v : Json) (path : List String) : Prop := ∃ w, v.Passes path w ∧ w.isObject = false

/-- No array stands on the way. -/
def NoArrayOn (v : Json) (path : List String) : Prop := ∀ items, ¬ v.Passes path (.arr items)

variable {v w base layer : Json} {ms ns : Members} {segment : String} {path : List String}

instance : DecidablePred fun v : Json => v.Cuts path := fun v =>
  decidable_of_iff (∃ front ∈ path.inits, front ≠ path ∧ (v.follow? front).any (!·.isObject)) <| by
    simp only [Cuts, Passes, List.mem_inits, Option.any_eq_true, Bool.not_eq_true']
    exact ⟨fun ⟨front, hfront, hne, w, hw, hobject⟩ => ⟨w, ⟨front, hfront, hne, hw⟩, hobject⟩,
      fun ⟨w, ⟨front, hfront, hne, hw⟩, hobject⟩ => ⟨front, hfront, hne, w, hw, hobject⟩⟩

/-- Nothing lies on the way to the value itself. -/
theorem not_passes_nil : ¬ v.Passes [] w :=
  fun ⟨_, hfront, hne, _⟩ => hne (List.prefix_nil.1 hfront)

/-- On the way lies the value itself, and what lies on the way from its member. -/
theorem passes_cons_iff : v.Passes (segment :: path) w ↔
    w = v ∨ ∃ u, v.step? segment = some u ∧ u.Passes path w := by
  constructor
  · rintro ⟨front, hfront, hne, hw⟩
    rcases List.prefix_cons_iff.1 hfront with rfl | ⟨rest, rfl, hrest⟩
    · exact .inl (Option.some.inj hw).symm
    · rw [follow?] at hw
      cases hu : v.step? segment with
      | none => rw [hu] at hw; cases hw
      | some u =>
        rw [hu] at hw
        exact .inr ⟨u, rfl, rest, hrest, fun heq => hne (heq ▸ rfl), hw⟩
  · rintro (rfl | ⟨u, hu, front, hfront, hne, hw⟩)
    · exact ⟨[], List.nil_prefix, (List.cons_ne_nil segment path).symm, rfl⟩
    · refine ⟨segment :: front, List.prefix_cons_iff.2 (.inr ⟨front, rfl, hfront⟩), ?_, ?_⟩
      · exact fun heq => hne (List.cons.inj heq).2
      · rw [follow?, hu]
        exact hw

theorem not_cuts_nil : ¬ v.Cuts [] := fun ⟨_, hpasses, _⟩ => not_passes_nil hpasses

/-- An object cuts a path where its member cuts the rest. -/
theorem cuts_obj_cons_iff : (Json.obj ms).Cuts (segment :: path) ↔
    ∃ u, ms.lookup segment = some u ∧ u.Cuts path := by
  simp only [Cuts, passes_cons_iff, step?]
  constructor
  · rintro ⟨w, rfl | ⟨u, hu, hw⟩, hobject⟩
    · cases hobject
    · exact ⟨u, hu, w, hw, hobject⟩
  · rintro ⟨u, hu, w, hw, hobject⟩
    exact ⟨w, .inr ⟨u, hu, hw⟩, hobject⟩

/-- A value that is no object cuts every path that leads further. -/
theorem cuts_cons_of_not_object (h : v.isObject = false) : v.Cuts (segment :: path) :=
  ⟨v, passes_cons_iff.2 (.inl rfl), h⟩

theorem noArrayOn_nil : v.NoArrayOn [] := fun _ => not_passes_nil

theorem noArrayOn_null : Json.null.NoArrayOn path := by
  cases path with
  | nil => exact noArrayOn_nil
  | cons segment path =>
    intro items h
    rcases passes_cons_iff.1 h with h | ⟨u, hu, -⟩
    · cases h
    · cases hu

theorem noArrayOn_obj_cons_iff : (Json.obj ms).NoArrayOn (segment :: path) ↔
    ∀ u, ms.lookup segment = some u → u.NoArrayOn path := by
  constructor
  · exact fun h u hu items hpasses => h items (passes_cons_iff.2 (.inr ⟨u, hu, hpasses⟩))
  · intro h items hpasses
    rcases passes_cons_iff.1 hpasses with heq | ⟨u, hu, hpasses⟩
    · cases heq
    · exact h u hu items hpasses

/-- Where no array stands on the way, a step leads to a member. -/
theorem NoArrayOn.step?_eq (h : v.NoArrayOn (segment :: path)) :
    v.step? segment = v.members.lookup segment := by
  cases v with
  | arr items => exact absurd (passes_cons_iff.2 (.inl rfl)) (h items)
  | _ => rfl

theorem NoArrayOn.member (h : v.NoArrayOn (segment :: path)) {u : Json}
    (hu : v.members.lookup segment = some u) : u.NoArrayOn path := fun items hpasses =>
  h items (passes_cons_iff.2 (.inr ⟨u, h.step?_eq.trans hu, hpasses⟩))

/-- Where no array stands on the way, a path leads through a member. -/
theorem NoArrayOn.follow?_cons (h : v.NoArrayOn (segment :: path)) :
    v.follow? (segment :: path) = (v.members.lookup segment).bind (·.follow? path) := by
  rw [follow?, h.step?_eq]
  cases v.members.lookup segment <;> rfl

/-! ## Two layers -/

/-- **A value that cuts a path has nothing at the end of it.** -/
theorem follow?_of_cuts (ha : v.NoArrayOn path) (h : v.Cuts path) : v.follow? path = none := by
  induction path generalizing v with
  | nil => exact absurd h not_cuts_nil
  | cons segment path ih =>
    rw [ha.follow?_cons]
    cases hu : v.members.lookup segment with
    | none => rfl
    | some u =>
      cases v with
      | obj ms =>
        obtain ⟨_, hu', hcuts⟩ := cuts_obj_cons_iff.1 h
        cases hu.symm.trans hu'
        exact ih (ha.member hu) hcuts
      | _ => cases hu

/-- No layer brings in an array that was not in it. -/
theorem noArrayOn_merge (hbase : base.NoArrayOn path) (hd : layer.Distinct)
    (hlayer : layer.NoArrayOn path) : (base.merge layer).NoArrayOn path := by
  induction path generalizing base layer with
  | nil => exact noArrayOn_nil
  | cons segment path ih =>
    cases hd with
    | @obj ns hkeys hns =>
      rw [merge_obj base hkeys, noArrayOn_obj_cons_iff]
      intro u hu
      rw [lookup_mergeMembers hkeys] at hu
      cases hv : ns.lookup segment with
      | none =>
        rw [hv] at hu
        exact hbase.member hu
      | some v =>
        rw [hv] at hu
        rw [← Option.some.inj hu]
        refine ih ?_ (hns _ (Table.mem_of_find? hv)) (hlayer.member hv)
        cases hb : base.members.lookup segment with
        | none => exact noArrayOn_null
        | some b => exact hbase.member hb
    | _ => exact hlayer

/-- A layer that cuts a path cuts it for all below. -/
theorem cuts_merge (hd : layer.Distinct) (h : layer.Cuts path) : (base.merge layer).Cuts path := by
  induction path generalizing base layer with
  | nil => exact absurd h not_cuts_nil
  | cons segment path ih =>
    cases hd with
    | @obj ns hkeys hns =>
      obtain ⟨v, hv, hcuts⟩ := cuts_obj_cons_iff.1 h
      rw [merge_obj base hkeys, cuts_obj_cons_iff, lookup_mergeMembers hkeys, hv]
      exact ⟨_, rfl, ih (hns _ (Table.mem_of_find? hv)) hcuts⟩
    | _ => exact h

/-- **At the end of a path a merge is the merge of what the two values have there**, if the layer
does not cut the path. -/
theorem follow?_merge (hbase : base.NoArrayOn path) (hd : layer.Distinct)
    (hlayer : layer.NoArrayOn path) (huncut : ¬ layer.Cuts path) :
    (base.merge layer).follow? path = (base.follow? path).merge merge (layer.follow? path) := by
  induction path generalizing base layer with
  | nil => rfl
  | cons segment path ih =>
    cases hd with
    | @obj ns hkeys hns =>
      have hmerged := noArrayOn_merge hbase (.obj hkeys hns) hlayer
      rw [hmerged.follow?_cons, hbase.follow?_cons, hlayer.follow?_cons, merge_obj base hkeys,
        members, members, lookup_mergeMembers hkeys]
      cases hv : ns.lookup segment with
      | none => rw [Option.bind_none, Option.merge_none_right]
      | some v =>
        have hvd := hns _ (Table.mem_of_find? hv)
        have hva := hlayer.member hv
        have hvuncut : ¬ v.Cuts path := fun hcuts => huncut (cuts_obj_cons_iff.2 ⟨v, hv, hcuts⟩)
        cases hb : base.members.lookup segment with
        | none =>
          rw [Option.bind_none, Option.merge_none_left, Option.bind_some, Option.bind_some,
            Option.getD_none, null_merge]
        | some b => exact ih (hbase.member hb) hvd hva hvuncut
    | _ => exact absurd (cuts_cons_of_not_object rfl) huncut

/-! ## All layers -/

/-- The values merged, the lowest first; nothing if there are none. -/
def mergeAll? : List Json → Option Json
  | [] => none
  | v :: vs => some (vs.foldl merge v)

/-- The layers, the lowest first, above the highest one that cuts the path. -/
def uncut (path : List String) (layers : List Json) : List Json :=
  layers.rtakeWhile fun v => ¬ v.Cuts path

theorem mergeAll?_concat (vs : List Json) (v : Json) :
    mergeAll? (vs ++ [v]) = (mergeAll? vs).merge merge (some v) := by
  cases vs with
  | nil => rfl
  | cons w vs => rw [List.cons_append, mergeAll?, List.foldl_concat]; rfl

/-- **At the end of a path a pile of layers is the merge of what the uncut ones have there** — by
induction from the highest layer down. -/
theorem follow?_foldl_merge {lowest : Json} {layers : List Json} (ha : lowest.NoArrayOn path)
    (hlayers : ∀ v ∈ layers, v.Distinct ∧ v.NoArrayOn path) :
    (layers.foldl merge lowest).NoArrayOn path ∧ (layers.foldl merge lowest).follow? path =
      mergeAll? ((uncut path (lowest :: layers)).filterMap (·.follow? path)) := by
  induction layers using List.reverseRecOn with
  | nil =>
    refine ⟨ha, ?_⟩
    rw [uncut, ← List.nil_append [lowest], List.rtakeWhile_concat]
    by_cases hcuts : lowest.Cuts path
    · simpa [hcuts, mergeAll?] using follow?_of_cuts ha hcuts
    · cases hv : lowest.follow? path <;> simp [hcuts, hv, mergeAll?]
  | append_singleton layers top ih =>
    rw [List.forall_mem_append, List.forall_mem_singleton] at hlayers
    obtain ⟨hlayers, htop, htopa⟩ := hlayers
    obtain ⟨hbelow, hfollow⟩ := ih hlayers
    have hna := noArrayOn_merge hbelow htop htopa
    rw [List.foldl_concat, uncut, ← List.cons_append, List.rtakeWhile_concat, ← uncut]
    refine ⟨hna, ?_⟩
    by_cases hcuts : top.Cuts path
    · simpa [hcuts, mergeAll?] using follow?_of_cuts hna (cuts_merge htop hcuts)
    · rw [follow?_merge hbelow htop htopa hcuts, hfollow, if_pos (by simpa using hcuts),
        List.filterMap_append]
      cases hv : top.follow? path with
      | none => simp [hv]
      | some v => simp [hv, mergeAll?_concat]

end Json

namespace Overlay

/-- The values that a module is read from, the lowest first: its own, the global part of the overlay
and the module's part, if there is one. -/
def layers (o : Overlay) (module : String) (defaults : Json) : List Json :=
  defaults :: .obj o.global :: (o.modules.lookup module).toList

variable {o : Overlay} {module key : String} {defaults : Json}

theorem resolve_eq_foldl : o.resolve module defaults =
    (Json.obj o.global :: (o.modules.lookup module).toList).foldl Json.merge defaults := by
  unfold resolve
  cases o.modules.lookup module <;> rfl

/-- **A key is looked up in each layer on its own**: its value is the merge, the lowest first, of
the values that the layers above the highest cut have at it. Arrays on the way are followed by index
and name, and are not merged at all, so there are none here. -/
theorem lookup_eq_mergeAll? (h : o.WellFormed)
    (harrays : ∀ v ∈ o.layers module defaults, v.NoArrayOn (Json.segments key)) :
    o.lookup module key defaults = Json.mergeAll?
      ((Json.uncut (Json.segments key) (o.layers module defaults)).filterMap (·.at? key)) := by
  obtain ⟨ha, hparts⟩ := List.forall_mem_cons.1 harrays
  have hdistinct : ∀ v ∈ Json.obj o.global :: (o.modules.lookup module).toList, v.Distinct := by
    refine List.forall_mem_cons.2 ⟨h.global, fun v hv => ?_⟩
    exact (h.scope (Option.mem_toList.1 hv)).1
  have hfollow := (Json.follow?_foldl_merge ha fun v hv => ⟨hdistinct v hv, hparts v hv⟩).2
  simp only [lookup, Json.at?_eq, resolve_eq_foldl, layers, hfollow]

/-! ## A crate that is named twice -/

/-- A crate for all modules, which the module `m` gives another name. -/
def crateOverlay : Overlay where
  global := [("api", .obj [("rust", .obj [("crate", .str "x"), ("edition", .str "2021")])])]
  modules := [("m", .obj [("api", .obj [("rust", .obj [("crate", .str "y")])])])]
  typeMappings := []

theorem wellFormed_crateOverlay : crateOverlay.WellFormed := by
  have hboth : (Json.obj [("crate", .str "x"), ("edition", .str "2021")]).Distinct :=
    .obj (by decide) (by simpa using ⟨.str "x", .str "2021"⟩)
  have hrust :
      (Json.obj [("rust", .obj [("crate", .str "x"), ("edition", .str "2021")])]).Distinct :=
    .obj (by decide) (by simpa using hboth)
  have hcrate : (Json.obj [("crate", .str "y")]).Distinct :=
    .obj (by decide) (by simpa using Json.Distinct.str "y")
  have hown : (Json.obj [("rust", .obj [("crate", .str "y")])]).Distinct :=
    .obj (by decide) (by simpa using hcrate)
  have hscope : (Json.obj [("api", .obj [("rust", .obj [("crate", .str "y")])])]).Distinct :=
    .obj (by decide) (by simpa using hown)
  exact {
    global := .obj (by decide) (by simpa [crateOverlay] using hrust)
    modules := .obj (by decide) (by simpa [crateOverlay] using hscope)
    objects := by simp [crateOverlay, Json.isObject] }

/-- The null that the module has in place of the object cuts the key for nothing but itself, and
above it the module's part is merged into the global one. -/
theorem lookup_eq_mergeAll?_crate : crateOverlay.WellFormed ∧
    (∀ v ∈ crateOverlay.layers "m" (.obj [("api", .null)]),
      v.NoArrayOn (Json.segments "api.rust")) ∧
    crateOverlay.lookup "m" "api.rust" (.obj [("api", .null)]) =
      some (.obj [("crate", .str "y"), ("edition", .str "2021")]) := by
  have harrays : ∀ v ∈ crateOverlay.layers "m" (.obj [("api", .null)]),
      v.NoArrayOn (Json.segments "api.rust") := by
    rw [show Json.segments "api.rust" = ["api", "rust"] by decide +kernel]
    simp [layers, crateOverlay, Json.noArrayOn_obj_cons_iff, Json.noArrayOn_nil,
      Json.noArrayOn_null]
  refine ⟨wellFormed_crateOverlay, harrays, ?_⟩
  rw [lookup_eq_mergeAll? wellFormed_crateOverlay harrays]
  rfl

end Overlay

end InterfaceGen
