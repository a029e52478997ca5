import InterfaceGen.Overlay
import InterfaceGen.Proofs.Json.Distinct

/-!
# Proofs/Overlay — an overlay laid a second time changes nothing

At each key a merge is the merge of what the two objects have there (`lookup_mergeMembers`), and
keys keep their places. So a value absorbs a layer that it already contains (`merge_merge_self`),
and a pair of layers even when the upper one hides parts of the lower (`merge_merge_pair`). Main
statement: `Overlay.WellFormed.resolve_resolve`.
-/

namespace InterfaceGen

namespace Json

/-! ## Members after a merge -/

namespace Members

/-- Setting a key adds it at the end, unless it is there. -/
theorem keys_set (key : String) (value : Json) (ms : Members) :
    (ms.set key value).map (·.1) =
      if key ∈ ms.map (·.1) then ms.map (·.1) else ms.map (·.1) ++ [key] := by
  induction ms with
  | nil => simp [set]
  | cons e ms ih =>
    obtain ⟨k, v⟩ := e
    by_cases h : k = key
    · simp [set, h]
    · simp only [set, h, if_false, List.map_cons, ih, List.mem_cons, Ne.symm h, false_or]
      split <;> simp

/-- A value that is set under a key that is there leaves the keys as they are. -/
theorem keys_set_of_mem {key : String} {ms : Members} (h : key ∈ ms.map (·.1)) (value : Json) :
    (ms.set key value).map (·.1) = ms.map (·.1) := by
  rw [keys_set, if_pos h]

theorem nodup_keys_set {ms : Members} (h : (ms.map (·.1)).Nodup) (key : String) (value : Json) :
    ((ms.set key value).map (·.1)).Nodup := by
  rw [keys_set]
  split
  · exact h
  · next hnew =>
    exact List.nodup_append.2 ⟨h, List.pairwise_singleton _ _,
      fun x hx y hy hxy => hnew (by rwa [← List.mem_singleton.1 hy, ← hxy])⟩

/-- Setting a key to the value it has changes nothing. -/
theorem set_of_lookup {key : String} {value : Json} {ms : Members}
    (h : ms.lookup key = some value) : ms.set key value = ms := by
  induction ms with
  | nil => cases h
  | cons e ms ih =>
    obtain ⟨k, v⟩ := e
    by_cases hk : k = key
    · subst hk
      simp only [List.lookup_cons, beq_self_eq_true, Option.some.injEq] at h
      simp [set, h]
    · have hb : (key == k) = false := by simpa using Ne.symm hk
      rw [List.lookup_cons, hb] at h
      simp [set, hk, ih h]

theorem lookup_set (key other : String) (value : Json) (ms : Members) :
    (ms.set key value).lookup other = if other = key then some value else ms.lookup other := by
  by_cases h : other = key
  · subst h; simp
  · simp [h]

/-- Setting a key that is there leaves the members behind it alone. -/
theorem set_append_of_mem {key : String} {value : Json} {ms rest : Members}
    (h : key ∈ ms.map (·.1)) : set key value (ms ++ rest) = ms.set key value ++ rest := by
  induction ms with
  | nil => exact absurd h List.not_mem_nil
  | cons e ms ih =>
    obtain ⟨k, v⟩ := e
    by_cases hk : k = key
    · simp [set, hk]
    · have hmem : key ∈ ms.map (·.1) := (List.mem_cons.1 h).resolve_left (Ne.symm hk)
      simp [set, hk, ih hmem]

/-- Setting a new key adds it at the end. -/
theorem set_of_not_mem {key : String} {value : Json} {ms : Members}
    (h : key ∉ ms.map (·.1)) : ms.set key value = ms ++ [(key, value)] := by
  induction ms with
  | nil => rfl
  | cons e ms ih =>
    rw [List.map_cons, List.mem_cons, not_or] at h
    simp [set, Ne.symm h.1, ih h.2]

theorem lookup_eq_none_iff {key : String} {ms : Members} :
    ms.lookup key = none ↔ key ∉ ms.map (·.1) := by
  refine Table.find?_eq_none_iff.trans ⟨fun h hin => ?_, fun h e he heq => ?_⟩
  · obtain ⟨e, he, rfl⟩ := List.mem_map.1 hin
    exact h e he rfl
  · exact h (List.mem_map.2 ⟨e, he, heq⟩)

/-- **Two objects with the same keys in the same places and the same lookups are the same.** -/
theorem ext {ms ns : Members} (hkeys : ms.map (·.1) = ns.map (·.1)) (hnodup : (ms.map (·.1)).Nodup)
    (h : ∀ key ∈ ms.map (·.1), ms.lookup key = ns.lookup key) : ms = ns := by
  induction ms generalizing ns with
  | nil => exact (List.map_eq_nil_iff.1 hkeys.symm).symm
  | cons e ms ih =>
    obtain ⟨k, v⟩ := e
    cases ns with
    | nil => simp at hkeys
    | cons f ns =>
      obtain ⟨k', w⟩ := f
      simp only [List.map_cons, List.cons.injEq] at hkeys
      obtain ⟨rfl, hkeys⟩ := hkeys
      obtain ⟨hk, hnodup⟩ := List.nodup_cons.1 hnodup
      have hv : v = w := by simpa using h k List.mem_cons_self
      subst hv
      refine congrArg _ (ih hkeys hnodup fun key hkey => ?_)
      have hne : (key == k) = false := by
        rw [beq_eq_false_iff_ne]
        rintro rfl
        exact hk hkey
      simpa [List.lookup_cons, hne] using h key (List.mem_cons_of_mem _ hkey)

theorem eq_append_of_popLast {ms front : Members} {last : String × Json}
    (h : popLast ms = some (front, last)) : ms = front ++ [last] := by
  induction ms generalizing front with
  | nil => cases h
  | cons e ms ih =>
    cases ms with
    | nil =>
      simp only [popLast, Option.some.injEq, Prod.mk.injEq] at h
      obtain ⟨rfl, rfl⟩ := h
      rfl
    | cons f ms =>
      simp only [popLast, Option.map_eq_some_iff, Prod.mk.injEq] at h
      obtain ⟨⟨_, _⟩, hp, rfl, rfl⟩ := h
      rw [ih hp]
      rfl

/-- Removing a key leaves some of the members, in another order. -/
theorem remove_subperm (key : String) (ms : Members) : (ms.remove key).Subperm ms := by
  induction ms with
  | nil => exact List.Subperm.refl _
  | cons e ms ih =>
    obtain ⟨k, v⟩ := e
    rw [remove]
    split
    · split
      · exact List.nil_subperm
      · next hp =>
        rw [eq_append_of_popLast hp]
        exact (List.perm_append_singleton _ _).symm.subperm.trans
          (List.sublist_cons_self _ _).subperm
    · exact (List.subperm_cons _).2 ih

end Members

variable {base layer lower upper : Json} {ms ns : Members}

@[simp] theorem null_merge (v : Json) : merge .null v = v := by cases v <;> simp [merge]

/-- Merging members sets one key after the other. -/
theorem mergeMembers_cons (ms : Members) (key : String) (v : Json) (ns : Members) :
    mergeMembers ms ((key, v) :: ns) =
      mergeMembers (ms.set key (((ms.lookup key).getD .null).merge v)) ns := by
  rw [mergeMembers]
  cases ms.lookup key <;> simp

/-- **At each key a merge is the merge of the values there.** -/
theorem lookup_mergeMembers (h : (ns.map (·.1)).Nodup) (key : String) :
    (mergeMembers ms ns).lookup key =
      match ns.lookup key with
      | none => ms.lookup key
      | some v => some (((ms.lookup key).getD .null).merge v) := by
  induction ns generalizing ms with
  | nil => rfl
  | cons e ns ih =>
    obtain ⟨k, v⟩ := e
    obtain ⟨hk, hns⟩ := List.nodup_cons.1 h
    rw [mergeMembers_cons, ih hns, Members.lookup_set]
    by_cases heq : key = k
    · subst heq
      rw [Members.lookup_eq_none_iff.2 hk]
      simp
    · have hb : (key == k) = false := by simpa using heq
      simp [List.lookup_cons, hb, heq]

theorem nodup_keys_mergeMembers (h : (ms.map (·.1)).Nodup) (ns : Members) :
    ((mergeMembers ms ns).map (·.1)).Nodup := by
  induction ns generalizing ms with
  | nil => exact h
  | cons e ns ih => exact ih (Members.nodup_keys_set h _ _)

theorem mem_keys_mergeMembers {key : String} : key ∈ (mergeMembers ms ns).map (·.1) ↔
    key ∈ ms.map (·.1) ∨ key ∈ ns.map (·.1) := by
  induction ns generalizing ms with
  | nil => simp [mergeMembers]
  | cons e ns ih =>
    obtain ⟨k, v⟩ := e
    rw [mergeMembers_cons, ih, Members.keys_set]
    split
    · next hin =>
      rw [List.map_cons, List.mem_cons]
      constructor
      · rintro (h | h)
        · exact .inl h
        · exact .inr (.inr h)
      · rintro (h | rfl | h)
        · exact .inl h
        · exact .inl hin
        · exact .inr h
    · simp [or_assoc]

/-- Keys that are there already keep their places. -/
theorem keys_mergeMembers_of_subset (h : ns.map (·.1) ⊆ ms.map (·.1)) :
    (mergeMembers ms ns).map (·.1) = ms.map (·.1) := by
  induction ns generalizing ms with
  | nil => rfl
  | cons e ns ih =>
    obtain ⟨k, v⟩ := e
    obtain ⟨hk, hns⟩ := List.cons_subset.1 h
    rw [mergeMembers_cons, ih (by rw [Members.keys_set_of_mem hk]; exact hns),
      Members.keys_set_of_mem hk]

/-- Members that no key of the layer names stay behind those that are merged. -/
theorem mergeMembers_append_of_subset {rest : Members} (h : ns.map (·.1) ⊆ ms.map (·.1)) :
    mergeMembers (ms ++ rest) ns = mergeMembers ms ns ++ rest := by
  induction ns generalizing ms with
  | nil => rfl
  | cons e ns ih =>
    obtain ⟨k, v⟩ := e
    obtain ⟨hk, hns⟩ := List.cons_subset.1 h
    obtain ⟨old, hold⟩ : ∃ old, ms.lookup k = some old :=
      Option.ne_none_iff_exists'.1 fun hnone => Members.lookup_eq_none_iff.1 hnone hk
    have hlookup : (ms ++ rest).lookup k = some old := by
      rw [List.lookup_append, hold, Option.some_or]
    rw [mergeMembers_cons, mergeMembers_cons, hlookup, hold, Members.set_append_of_mem hk]
    refine ih fun key hkey => ?_
    rw [Members.keys_set_of_mem hk]
    exact hns hkey

/-- Members that are new all go to the end. -/
theorem mergeMembers_of_disjoint (h : (ns.map (·.1)).Nodup)
    (hnew : ∀ e ∈ ns, e.1 ∉ ms.map (·.1)) : mergeMembers ms ns = ms ++ ns := by
  induction ns generalizing ms with
  | nil => simp [mergeMembers]
  | cons e ns ih =>
    obtain ⟨k, v⟩ := e
    obtain ⟨hk, hns⟩ := List.nodup_cons.1 h
    have hnone : ms.lookup k = none :=
      Members.lookup_eq_none_iff.2 (hnew _ List.mem_cons_self)
    rw [mergeMembers_cons, hnone, Option.getD_none, null_merge,
      Members.set_of_not_mem (hnew _ List.mem_cons_self), ih hns]
    · simp
    · intro e he
      rw [List.map_append, List.mem_append, not_or]
      refine ⟨hnew e (List.mem_cons_of_mem _ he), fun heq => hk ?_⟩
      rw [← List.mem_singleton.1 heq]
      exact List.mem_map.2 ⟨e, he, rfl⟩

/-- An object laid over nothing is itself. -/
theorem nil_mergeMembers (h : (ns.map (·.1)).Nodup) : mergeMembers [] ns = ns :=
  mergeMembers_of_disjoint h fun _ _ => List.not_mem_nil

/-- The members of an object; other values have none. -/
def members : Json → Members
  | .obj ms => ms
  | _ => []

/-- An object laid over any value is an object. -/
theorem merge_obj (base : Json) (h : (ns.map (·.1)).Nodup) :
    base.merge (.obj ns) = .obj (mergeMembers base.members ns) := by
  cases base <;> simp [merge, members, nil_mergeMembers h]

/-! ## Distinct keys -/

theorem Distinct.members (h : Distinct base) :
    (base.members.map (·.1)).Nodup ∧ ∀ e ∈ base.members, Distinct e.2 := by
  cases h with
  | obj hkeys h => exact ⟨hkeys, h⟩
  | _ => exact ⟨List.nodup_nil, fun _ he => absurd he List.not_mem_nil⟩

/-- What stands at a key of a distinct value is distinct, also if nothing does. -/
theorem Distinct.lookup_members (h : Distinct base) (key : String) :
    Distinct ((base.members.lookup key).getD .null) := by
  cases hm : base.members.lookup key with
  | none => exact .null
  | some v => exact h.members.2 _ (Table.mem_of_find? hm)

/-- **Merging keeps the keys of all objects distinct.** -/
theorem Distinct.merge (hbase : Distinct base) (hlayer : Distinct layer) :
    Distinct (base.merge layer) := by
  induction hlayer generalizing base with
  | @obj ns hkeys hns ih =>
    rw [merge_obj base hkeys]
    have hnodup := nodup_keys_mergeMembers hbase.members.1 ns
    refine .obj hnodup fun e he => ?_
    have hlookup : (mergeMembers base.members ns).lookup e.1 = some e.2 :=
      (Table.mem_iff_of_nodup hnodup).1 he
    rw [lookup_mergeMembers hkeys] at hlookup
    cases hv : ns.lookup e.1 with
    | none =>
      rw [hv] at hlookup
      exact hbase.members.2 _ (Table.mem_of_find? hlookup)
    | some v =>
      rw [hv] at hlookup
      rw [← Option.some.inj hlookup]
      exact ih _ (Table.mem_of_find? hv) (hbase.lookup_members e.1)
  | null => exact .null
  | bool b => exact .bool b
  | num n => exact .num n
  | str s => exact .str s
  | arr h _ => exact .arr h

/-! ## A layer that is there already -/

/-- Members whose values absorb those of a layer absorb the layer. -/
theorem mergeMembers_of_absorbed
    (h : ∀ e ∈ ns, ∃ w, ms.lookup e.1 = some w ∧ w.merge e.2 = w) : mergeMembers ms ns = ms := by
  induction ns with
  | nil => rfl
  | cons e ns ih =>
    obtain ⟨k, v⟩ := e
    obtain ⟨⟨w, hw, hmerge⟩, hns⟩ := List.forall_mem_cons.1 h
    simp only at hw hmerge
    rw [mergeMembers_cons, hw, Option.getD_some, hmerge, Members.set_of_lookup hw, ih hns]

/-- **A layer laid twice is laid once.** -/
theorem merge_merge_self (h : Distinct layer) :
    (base.merge layer).merge layer = base.merge layer := by
  induction h generalizing base with
  | @obj ns hkeys _ ih =>
    rw [merge_obj base hkeys, merge]
    refine congrArg _ (mergeMembers_of_absorbed fun e he => ?_)
    refine ⟨((base.members.lookup e.1).getD .null).merge e.2, ?_, ih e he⟩
    have hlookup : ns.lookup e.1 = some e.2 := (Table.mem_iff_of_nodup hkeys).1 he
    rw [lookup_mergeMembers hkeys, hlookup]
  | _ => simp [merge]

/-- **Two layers laid twice are laid once** — where the upper layer hides a part of the lower one,
it hides it again. -/
theorem merge_merge_pair (hbase : Distinct base) (hlower : Distinct lower)
    (hupper : Distinct upper) : (((base.merge lower).merge upper).merge lower).merge upper
      = (base.merge lower).merge upper := by
  induction hupper generalizing base lower with
  | @obj us hus husd ih =>
    cases hlower with
    | @obj ls hls hlsd =>
      rw [merge_obj base hls]
      simp only [merge]
      have hkeys : ∀ key, key ∈ ls.map (·.1) ∨ key ∈ us.map (·.1) →
          key ∈ (mergeMembers (mergeMembers base.members ls) us).map (·.1) := fun key hkey => by
        rw [mem_keys_mergeMembers, mem_keys_mergeMembers]
        exact hkey.elim (fun h => .inl (.inr h)) .inr
      have hlower := keys_mergeMembers_of_subset fun key hkey => hkeys key (.inl hkey)
      have hboth := keys_mergeMembers_of_subset fun key hkey => by
        rw [hlower]
        exact hkeys key (.inr hkey)
      refine congrArg _ (Members.ext (hboth.trans hlower) ?_ fun key _ => ?_)
      · have hnodup := nodup_keys_mergeMembers (nodup_keys_mergeMembers hbase.members.1 ls) us
        exact nodup_keys_mergeMembers (nodup_keys_mergeMembers hnodup ls) us
      · simp only [lookup_mergeMembers hls, lookup_mergeMembers hus]
        cases hl : ls.lookup key with
        | none =>
          cases hu : us.lookup key with
          | none => rfl
          | some u => simp [merge_merge_self (husd _ (Table.mem_of_find? hu))]
        | some l =>
          have hld := hlsd _ (Table.mem_of_find? hl)
          cases hu : us.lookup key with
          | none => simp [merge_merge_self hld]
          | some u =>
            simpa using ih _ (Table.mem_of_find? hu) (hbase.lookup_members key) hld
    | _ => simp [merge]
  | _ => simp [merge]

end Json

/-! ## Overlays -/

namespace Overlay

/-- What reading an overlay ensures: no object has a key twice, and the part of each module is an
object. -/
structure WellFormed (o : Overlay) : Prop where
  global : Json.Distinct (.obj o.global)
  modules : Json.Distinct (.obj o.modules)
  objects : ∀ e ∈ o.modules, e.2.isObject = true

variable {o : Overlay} {module : String} {defaults : Json}

theorem wellFormed_empty : empty.WellFormed :=
  ⟨Json.distinct_obj_nil, Json.distinct_obj_nil, fun _ he => absurd he List.not_mem_nil⟩

/-- Removing a key keeps the others distinct. -/
theorem distinct_remove {members : Json.Members} (h : Json.Distinct (.obj members))
    (key : String) : Json.Distinct (.obj (Json.Members.remove key members)) := by
  obtain ⟨hkeys, hms⟩ := Json.distinct_obj_iff.1 h
  obtain ⟨kept, hperm, hsub⟩ := Json.Members.remove_subperm key members
  refine .obj ?_ fun e he => hms e (hsub.subset (hperm.mem_iff.2 he))
  exact ((hperm.map _).nodup_iff).1 (hkeys.sublist (hsub.map _))

theorem distinct_part {fault : Fault} {v : Option Json} {members : Json.Members}
    (hv : ∀ w ∈ v, w.Distinct) (h : part fault v = .ok members) :
    Json.Distinct (.obj members) := by
  cases v with
  | none => cases h; exact Json.distinct_obj_nil
  | some w =>
    cases w with
    | obj ms => cases h; exact hv _ rfl
    | _ => cases h

/-- **An overlay that is read from a value with distinct keys is well formed.** -/
theorem wellFormed_of_ofJson {v : Json} (hv : v.Distinct) (h : ofJson v = .ok o) :
    o.WellFormed := by
  cases hv with
  | @obj members hkeys hms =>
    have hlookup : ∀ key, ∀ w ∈ members.lookup key, w.Distinct := fun key w hw =>
      hms _ (Table.mem_of_find? hw)
    simp only [ofJson, bind, Except.bind, pure, Except.pure] at h
    cases hmodules : part .modulesNotAnObject (members.lookup "modules") with
    | error f => rw [hmodules] at h; cases h
    | ok modules =>
      rw [hmodules] at h
      cases hbad : modules.find? (fun e => !e.2.isObject) with
      | some e => simp [hbad, throw, throwThe, MonadExceptOf.throw] at h
      | none =>
        simp only [hbad] at h
        split at h
        · cases h
        · cases h
          refine ⟨distinct_remove (distinct_remove (.obj hkeys hms) _) _,
            distinct_part (hlookup _) hmodules, fun e he => ?_⟩
          simpa using List.find?_eq_none.1 hbad e he
  | _ => cases h

namespace WellFormed

theorem scope (h : o.WellFormed) {scope : Json} (hs : o.modules.lookup module = some scope) :
    scope.Distinct ∧ scope.isObject = true :=
  ⟨(Json.distinct_obj_iff.1 h.modules).2 _ (Table.mem_of_find? hs),
    h.objects _ (Table.mem_of_find? hs)⟩

theorem distinct_resolve (h : o.WellFormed) (hd : defaults.Distinct) :
    (o.resolve module defaults).Distinct := by
  unfold resolve
  cases hs : o.modules.lookup module with
  | none => exact hd.merge h.global
  | some scope => exact (hd.merge h.global).merge (h.scope hs).1

/-- The values of a module are an object under any overlay. -/
theorem isObject_resolve (h : o.WellFormed) : (o.resolve module defaults).isObject = true := by
  unfold resolve
  rw [Json.merge_obj defaults (Json.distinct_obj_iff.1 h.global).1]
  cases hs : o.modules.lookup module with
  | none => rfl
  | some scope =>
    obtain ⟨hd, hobj⟩ := h.scope hs
    cases scope with
    | obj members => rfl
    | _ => cases hobj

/-- **An overlay laid a second time changes nothing.** -/
theorem resolve_resolve (h : o.WellFormed) (hd : defaults.Distinct) :
    o.resolve module (o.resolve module defaults) = o.resolve module defaults := by
  unfold resolve
  cases hs : o.modules.lookup module with
  | none => exact Json.merge_merge_self h.global
  | some scope => exact Json.merge_merge_pair hd h.global (h.scope hs).1

end WellFormed

/-- **An overlay that is laid over an object already is laid over any larger one.** -/
theorem resolve_append {members : Json.Members} (rest : Json.Members)
    (h : o.resolve module (.obj members) = .obj members) :
    o.resolve module (.obj (members ++ rest)) = .obj (members ++ rest) := by
  unfold resolve at h ⊢
  cases hs : o.modules.lookup module with
  | none =>
    simp only [hs, Json.merge, Json.obj.injEq] at h ⊢
    have hglobal : o.global.map (·.1) ⊆ members.map (·.1) := fun key hkey => by
      rw [← h]
      exact Json.mem_keys_mergeMembers.2 (.inr hkey)
    rw [Json.mergeMembers_append_of_subset hglobal, h]
  | some scope =>
    cases scope with
    | obj upper =>
      simp only [hs, Json.merge, Json.obj.injEq] at h ⊢
      have hglobal : o.global.map (·.1) ⊆ members.map (·.1) := fun key hkey => by
        rw [← h]
        exact Json.mem_keys_mergeMembers.2 (.inl (Json.mem_keys_mergeMembers.2 (.inr hkey)))
      have hupper : upper.map (·.1) ⊆ (Json.mergeMembers members o.global).map (·.1) := by
        intro key hkey
        rw [Json.keys_mergeMembers_of_subset hglobal, ← h]
        exact Json.mem_keys_mergeMembers.2 (.inr hkey)
      rw [Json.mergeMembers_append_of_subset hglobal, Json.mergeMembers_append_of_subset hupper, h]
    | _ => simp [hs, Json.merge] at h

end Overlay

end InterfaceGen
