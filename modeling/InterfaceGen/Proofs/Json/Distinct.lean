import InterfaceGen.Json.Value
import InterfaceGen.Proofs.Lists
import InterfaceGen.Proofs.Table
import Mathlib.Data.List.Perm.Subperm

/-!
# Proofs/Json/Distinct — values whose objects have each key once

An object is a list of members, and nothing in its type keeps a key from coming twice; the objects
that are read never do (`Distinct`). Among such values sameness is an equivalence: main statements
`Distinct.same_refl`, `Distinct.same_symm`, `Distinct.same_trans`.
-/

namespace InterfaceGen.Json

/-- No object in the value has a key twice. -/
inductive Distinct : Json → Prop where
  | null : Distinct .null
  | bool (b : Bool) : Distinct (.bool b)
  | num (n : Number) : Distinct (.num n)
  | str (s : String) : Distinct (.str s)
  | arr {items : List Json} (h : ∀ v ∈ items, Distinct v) : Distinct (.arr items)
  | obj {members : Members} (hkeys : (members.map (·.1)).Nodup)
      (h : ∀ e ∈ members, Distinct e.2) : Distinct (.obj members)

variable {a b c : Json} {ms ns : Members} {items others : List Json}

theorem distinct_obj_iff :
    Distinct (.obj ms) ↔ (ms.map (·.1)).Nodup ∧ ∀ e ∈ ms, Distinct e.2 :=
  ⟨fun h => by cases h with | obj hkeys h => exact ⟨hkeys, h⟩, fun h => .obj h.1 h.2⟩

theorem distinct_obj_nil : Distinct (.obj []) :=
  .obj List.nodup_nil fun _ he => absurd he List.not_mem_nil

/-! ## Sameness of containers -/

theorem sameItems_iff :
    sameItems items others = true ↔ List.Forall₂ (same · · = true) items others := by
  induction items generalizing others with
  | nil => cases others <;> simp [sameItems]
  | cons v items ih =>
    cases others with
    | nil => simp [sameItems]
    | cons w others => simp [sameItems, ih]

/-- Every member of the one object is found in the other. -/
theorem sameMembers_iff : sameMembers ms ns = true ↔
    ∀ e ∈ ms, ∃ w, ns.lookup e.1 = some w ∧ same e.2 w = true := by
  induction ms with
  | nil => simp [sameMembers]
  | cons e ms ih =>
    obtain ⟨k, v⟩ := e
    rw [sameMembers, Bool.and_eq_true, ih, List.forall_mem_cons]
    cases ns.lookup k <;> simp

theorem same_obj_iff : same (.obj ms) (.obj ns) = true ↔
    ms.length = ns.length ∧ ∀ e ∈ ms, ∃ w, ns.lookup e.1 = some w ∧ same e.2 w = true := by
  simp [same, sameMembers_iff]

/-! ## An equivalence -/

/-- **A value is the same as itself.** -/
theorem Distinct.same_refl (h : Distinct a) : same a a = true := by
  induction h with
  | null => rfl
  | bool b => simp [same]
  | num n => simp [same]
  | str s => simp [same]
  | arr _ ih => exact sameItems_iff.2 (List.forall₂_same.2 ih)
  | obj hkeys _ ih =>
    refine same_obj_iff.2 ⟨rfl, fun e he => ⟨e.2, ?_, ih e he⟩⟩
    exact (Table.mem_iff_of_nodup hkeys).1 he

/-- **Sameness is symmetric** — two objects of one length, the members of the one found in the
other, have the same keys. -/
theorem Distinct.same_symm (ha : Distinct a) (hb : Distinct b) (h : same a b = true) :
    same b a = true := by
  induction ha generalizing b with
  | null => cases b <;> simp_all [same]
  | bool x => cases b <;> simp_all [same]
  | num n => cases b <;> simp_all [same, Number.same_comm]
  | str s => cases b <;> simp_all [same]
  | @arr items hitems ih =>
    cases hb with
    | @arr others hothers =>
      exact sameItems_iff.2 (forall₂_swap_of_mem (fun v hv w hw => ih v hv (hothers w hw))
        (sameItems_iff.1 h))
    | _ => simp [same] at h
  | @obj ms hkeys hms ih =>
    cases hb with
    | @obj ns hkeys' hns =>
      obtain ⟨hlen, hall⟩ := same_obj_iff.1 h
      have hsub : ms.map (·.1) ⊆ ns.map (·.1) := by
        intro k hk
        obtain ⟨e, he, rfl⟩ := List.mem_map.1 hk
        obtain ⟨w, hw, _⟩ := hall e he
        exact List.mem_map.2 ⟨_, Table.mem_of_find? hw, rfl⟩
      have hperm : (ms.map (·.1)).Perm (ns.map (·.1)) :=
        (hkeys.subperm hsub).perm_of_length_le (by simp [hlen])
      refine same_obj_iff.2 ⟨hlen.symm, fun e he => ?_⟩
      obtain ⟨f, hf, hfe⟩ := List.mem_map.1 (hperm.mem_iff.2 (List.mem_map.2 ⟨e, he, rfl⟩))
      obtain ⟨w, hw, hsame⟩ := hall f hf
      have hwe : w = e.2 := by
        rw [hfe] at hw
        exact Option.some.inj (hw.symm.trans ((Table.mem_iff_of_nodup hkeys').1 he))
      subst hwe
      exact ⟨f.2, hfe ▸ (Table.mem_iff_of_nodup hkeys).1 hf, ih f hf (hns e he) hsame⟩
    | _ => simp [same] at h

/-- Sameness of numbers chains: two doubles are the same if both are zero or they are equal. -/
theorem Number.same_trans {x y z : Number} (h : x.same y = true) (h' : y.same z = true) :
    x.same z = true := by
  cases x <;> cases y <;> cases z <;> simp_all [Number.same, Double.sameValue]
  rcases h with h | rfl
  · rcases h' with h' | rfl
    · exact .inl ⟨h.1, h'.2⟩
    · exact .inl h
  · exact h'

/-- **Sameness is transitive.** -/
theorem Distinct.same_trans (ha : Distinct a) (h : same a b = true) (h' : same b c = true) :
    same a c = true := by
  induction ha generalizing b c with
  | null => cases b <;> cases c <;> simp_all [same]
  | bool x => cases b <;> cases c <;> simp_all [same]
  | num n =>
    cases b <;> cases c <;> simp only [same, Bool.false_eq_true] at h h' ⊢
    exact Number.same_trans h h'
  | str s => cases b <;> cases c <;> simp_all [same]
  | @arr items _ ih =>
    cases b with
    | arr others =>
      cases c with
      | arr third =>
        exact sameItems_iff.2 (forall₂_trans_of_mem (fun v hv w u => ih v hv)
          (sameItems_iff.1 h) (sameItems_iff.1 h'))
      | _ => simp [same] at h'
    | _ => simp [same] at h
  | @obj ms _ _ ih =>
    cases b with
    | obj ns =>
      cases c with
      | obj os =>
        obtain ⟨hlen, hall⟩ := same_obj_iff.1 h
        obtain ⟨hlen', hall'⟩ := same_obj_iff.1 h'
        refine same_obj_iff.2 ⟨hlen.trans hlen', fun e he => ?_⟩
        obtain ⟨w, hw, hsame⟩ := hall e he
        obtain ⟨u, hu, hsame'⟩ := hall' _ (Table.mem_of_find? hw)
        exact ⟨u, hu, ih e he hsame hsame'⟩
      | _ => simp [same] at h'
    | _ => simp [same] at h

end InterfaceGen.Json
