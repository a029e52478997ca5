import InterfaceGen.Proofs.Lists
import InterfaceGen.Table
import Mathlib.Data.List.Induction
import Mathlib.Data.String.Basic

/-!
# Proofs/Table — a sorted table is a function from its keys

The keys of a table strictly increase (`Table.Sorted`), and `insert` keeps it so. An entry is then
the same as a successful lookup (`Sorted.mem_iff`), and two tables with the same lookups are the
same list (`Sorted.ext`). Tables whose lookups agree, agree entry by entry (`Sorted.alike`).
-/

namespace InterfaceGen

namespace Table

variable {α β : Type}

/-! ## Lookups in any list of entries -/

theorem find?_cons (key k : String) (v : α) (t : Table α) :
    find? key ((k, v) :: t) = if key = k then some v else find? key t := by
  by_cases h : key = k
  · subst h; simp [find?]
  · have hb : (key == k) = false := by simpa using h
    simp [find?, List.lookup_cons, hb, h]

theorem find?_insert (key other : String) (value : α) (t : Table α) :
    (t.insert key value).find? other = if other = key then some value else t.find? other := by
  by_cases h : other = key
  · subst h; simp
  · simp [h]

/-- **A lookup that succeeds finds an entry.** -/
theorem mem_of_find? {key : String} {value : α} {t : Table α} (h : t.find? key = some value) :
    (key, value) ∈ t := by
  induction t with
  | nil => cases h
  | cons e t ih =>
    obtain ⟨k, v⟩ := e
    rw [find?_cons] at h
    split at h
    · next hk => subst hk; cases h; exact List.mem_cons_self
    · exact List.mem_cons_of_mem _ (ih h)

/-- **Where no key comes twice, an entry is what its key finds.** -/
theorem mem_iff_of_nodup {key : String} {value : α} {t : Table α} (h : t.keys.Nodup) :
    (key, value) ∈ t ↔ t.find? key = some value := by
  refine ⟨fun hm => ?_, mem_of_find?⟩
  induction t with
  | nil => cases hm
  | cons e t ih =>
    obtain ⟨k, v⟩ := e
    obtain ⟨hk, ht⟩ := List.nodup_cons.1 h
    rw [find?_cons]
    rcases List.mem_cons.1 hm with heq | hm
    · cases heq; simp
    · rw [if_neg fun heq => hk (List.mem_map.2 ⟨_, hm, heq⟩), ih ht hm]

/-- An absent key is the key of no entry. -/
theorem find?_eq_none_iff {key : String} {t : Table α} :
    t.find? key = none ↔ ∀ e ∈ t, e.1 ≠ key := by
  induction t with
  | nil => simp
  | cons e t ih =>
    obtain ⟨k, v⟩ := e
    rw [find?_cons]
    by_cases h : key = k
    · subst h; simp
    · simp [h, ih, Ne.symm h]

theorem has_iff {key : String} {t : Table α} :
    t.has key = true ↔ ∃ value, t.find? key = some value := Option.isSome_iff_exists

theorem mem_keys_iff_has {key : String} {t : Table α} : key ∈ t.keys ↔ t.has key = true := by
  induction t with
  | nil => simp [keys, has]
  | cons e t ih =>
    obtain ⟨k, v⟩ := e
    rw [has, find?_cons, keys, List.map_cons, List.mem_cons, ← keys, ih]
    by_cases h : key = k
    · simp [h]
    · simp [h, has]

/-- Values may be replaced entry by entry without disturbing the lookups. -/
theorem find?_map (f : String → α → β) (key : String) (t : Table α) :
    find? key (t.map fun e => (e.1, f e.1 e.2)) = (t.find? key).map (f key) := by
  induction t with
  | nil => rfl
  | cons e t ih =>
    obtain ⟨k, v⟩ := e
    rw [List.map_cons, find?_cons, find?_cons, ih]
    by_cases h : key = k
    · subst h; simp
    · simp [h]

/-- An entry of a table after an insertion is the new one or an old one. -/
theorem mem_insert_imp {key : String} {value : α} {e : String × α} {t : Table α}
    (h : e ∈ t.insert key value) : e = (key, value) ∨ e ∈ t := by
  induction t with
  | nil => simpa [Table.insert] using h
  | cons f t ih =>
    obtain ⟨k, v⟩ := f
    simp only [Table.insert] at h
    split at h
    · rcases List.mem_cons.1 h with h | h
      · exact .inl h
      · exact .inr (List.mem_cons_of_mem _ h)
    · split at h
      · exact List.mem_cons.1 h
      · rcases List.mem_cons.1 h with h | h
        · exact .inr (h ▸ List.mem_cons_self)
        · exact (ih h).imp_right (List.mem_cons_of_mem _)

/-- **Where no key comes with two values, the table of some entries finds exactly them.** -/
theorem find?_ofList_iff {entries : List (String × α)}
    (h : ∀ k v w, (k, v) ∈ entries → (k, w) ∈ entries → v = w) {key : String} {value : α} :
    (ofList entries).find? key = some value ↔ (key, value) ∈ entries := by
  induction entries using List.reverseRecOn with
  | nil => simp [ofList]
  | append_singleton entries e ih =>
    obtain ⟨k, v⟩ := e
    have hconcat : ofList (entries ++ [(k, v)]) = (ofList entries).insert k v := by simp [ofList]
    have ih := ih fun k v w hv hw =>
      h k v w (List.mem_append_left _ hv) (List.mem_append_left _ hw)
    rw [hconcat, find?_insert, List.mem_append, List.mem_singleton, Prod.mk.injEq]
    by_cases hk : key = k
    · -- an older entry of the same key has the value of the new one
      subst hk
      have hlast : (key, v) ∈ entries ++ [(key, v)] := by simp
      have hold (hm : (key, value) ∈ entries) : v = value :=
        h key v value hlast (List.mem_append_left _ hm)
      simp only [if_true, Option.some.injEq, true_and]
      exact ⟨fun heq => .inr heq.symm, fun hor => hor.elim hold Eq.symm⟩
    · simp only [hk, if_false, false_and, or_false, ih]

/-! ## Sorted tables -/

/-- The keys strictly increase. -/
def Sorted (t : Table α) : Prop := t.Pairwise fun a b => a.1 < b.1

@[simp] theorem sorted_nil : Sorted ([] : Table α) := List.Pairwise.nil

namespace Sorted

variable {s t : Table α}

/-- **Insertion keeps the keys in order.** -/
theorem insert (h : t.Sorted) (key : String) (value : α) : (t.insert key value).Sorted := by
  induction t with
  | nil => exact List.pairwise_singleton _ _
  | cons e t ih =>
    obtain ⟨k, v⟩ := e
    obtain ⟨hk, ht⟩ := List.pairwise_cons.1 h
    simp only [Table.insert]
    split
    · next heq => subst heq; exact List.pairwise_cons.2 ⟨hk, ht⟩
    · next hne =>
      split
      · next hlt =>
        refine List.pairwise_cons.2 ⟨fun f hf => ?_, h⟩
        rcases List.mem_cons.1 hf with rfl | hf
        · exact hlt
        · exact lt_trans hlt (hk f hf)
      · next hnlt =>
        have hlt : k < key := lt_of_le_of_ne (not_lt.1 hnlt) (Ne.symm hne)
        refine List.pairwise_cons.2 ⟨fun f hf => ?_, ih ht⟩
        rcases mem_insert_imp hf with rfl | hf
        · exact hlt
        · exact hk f hf

theorem pairwise_keys (h : t.Sorted) : t.keys.Pairwise (· < ·) :=
  List.Pairwise.map _ (fun _ _ hlt => hlt) h

theorem nodup_keys (h : t.Sorted) : t.keys.Nodup := h.pairwise_keys.imp ne_of_lt

/-- **In a sorted table an entry is what its key finds.** -/
theorem mem_iff (h : t.Sorted) {key : String} {value : α} :
    (key, value) ∈ t ↔ t.find? key = some value := mem_iff_of_nodup h.nodup_keys

theorem map (h : t.Sorted) (f : String → α → β) :
    Sorted (t.map fun e => (e.1, f e.1 e.2)) :=
  List.Pairwise.map _ (fun _ _ hlt => hlt) h

theorem filter (h : t.Sorted) (p : String × α → Bool) : Sorted (t.filter p) :=
  List.Pairwise.filter _ h

/-- **Two sorted tables with the same lookups are the same list.** -/
theorem ext (hs : s.Sorted) (ht : t.Sorted) (h : ∀ key, s.find? key = t.find? key) : s = t := by
  have hmem : ∀ e, e ∈ s ↔ e ∈ t := fun e => by rw [hs.mem_iff, ht.mem_iff, h]
  refine List.Perm.eq_of_pairwise (fun a b _ _ hab hba => absurd hab (lt_asymm hba)) hs ht ?_
  exact (List.perm_ext_iff_of_nodup (hs.imp fun hlt heq => ne_of_lt hlt (congrArg Prod.fst heq))
    (ht.imp fun hlt heq => ne_of_lt hlt (congrArg Prod.fst heq))).2 hmem

end Sorted

end Table

/-! ## Sets of names -/

namespace Names

/-- The names strictly increase. -/
def Sorted (s : Names) : Prop := s.Pairwise (· < ·)

/-- **Two sorted sets with the same names are the same list.** -/
theorem Sorted.ext {s t : Names} (hs : s.Sorted) (ht : t.Sorted)
    (h : ∀ name, name ∈ s ↔ name ∈ t) : s = t := by
  refine List.Perm.eq_of_pairwise (fun a b _ _ hab hba => absurd hab (lt_asymm hba)) hs ht ?_
  exact (List.perm_ext_iff_of_nodup (hs.imp ne_of_lt) (ht.imp ne_of_lt)).2 h

/-- Adding a name keeps the order. -/
theorem Sorted.insert {s : Names} (h : s.Sorted) (name : String) : (s.insert name).Sorted := by
  induction s with
  | nil => exact List.pairwise_singleton _ _
  | cons n s ih =>
    obtain ⟨hn, hs⟩ := List.pairwise_cons.1 h
    simp only [Names.insert]
    split
    · exact h
    · next hne =>
      split
      · next hlt =>
        refine List.pairwise_cons.2 ⟨fun m hm => ?_, h⟩
        rcases List.mem_cons.1 hm with rfl | hm
        · exact hlt
        · exact lt_trans hlt (hn m hm)
      · next hnlt =>
        have hlt : n < name := lt_of_le_of_ne (not_lt.1 hnlt) (Ne.symm hne)
        refine List.pairwise_cons.2 ⟨fun m hm => ?_, ih hs⟩
        rcases mem_insert.1 hm with rfl | hm
        · exact hlt
        · exact hn m hm

/-- The set of some names holds these names. -/
@[simp] theorem mem_ofList {name : String} {names : List String} :
    name ∈ ofList names ↔ name ∈ names := by
  have hfold : ∀ (names : List String) (s : Names),
      name ∈ names.foldl (fun s n => s.insert n) s ↔ name ∈ names ∨ name ∈ s := by
    intro names
    induction names with
    | nil => simp
    | cons n names ih =>
      intro s
      rw [List.foldl_cons, ih, mem_insert, List.mem_cons]
      tauto
  simpa [ofList] using hfold names []

end Names

/-! ## Tables that agree -/

namespace Table

variable {α β : Type}

/-- The tables have the same keys, and values that agree under each of them. -/
def Alike (r : α → β → Prop) (s : Table α) (t : Table β) : Prop :=
  List.Forall₂ (fun a b => a.1 = b.1 ∧ r a.2 b.2) s t

namespace Alike

variable {r : α → β → Prop} {s : Table α} {t : Table β}

theorem keys_eq (h : Alike r s t) : s.keys = t.keys := map_eq_of_forall₂ (fun _ _ hab => hab.1) h

theorem values (h : Alike r s t) : List.Forall₂ r s.values t.values := by
  rw [Table.values, Table.values, List.forall₂_map_left_iff, List.forall₂_map_right_iff]
  exact h.imp fun _ _ hab => hab.2

theorem find? (h : Alike r s t) (key : String) : Option.Rel r (s.find? key) (t.find? key) := by
  induction h with
  | nil => exact .none
  | @cons a b s t hab _ ih =>
    obtain ⟨k, v⟩ := a
    obtain ⟨k', w⟩ := b
    obtain ⟨rfl, hvw⟩ := hab
    rw [find?_cons, find?_cons]
    split
    · exact .some hvw
    · exact ih

end Alike

/-- **Sorted tables whose lookups agree, agree entry by entry.** -/
theorem Sorted.alike {r : α → β → Prop} {s : Table α} {t : Table β} (hs : s.Sorted) (ht : t.Sorted)
    (h : ∀ key, Option.Rel r (s.find? key) (t.find? key)) : Alike r s t := by
  have hkeys : t.keys = s.keys := by
    refine Names.Sorted.ext ht.pairwise_keys hs.pairwise_keys fun key => ?_
    have hkey := h key
    rw [mem_keys_iff_has, mem_keys_iff_has, has, has]
    generalize s.find? key = v, t.find? key = w at hkey
    cases hkey <;> simp
  rw [keys, keys, ← List.forall₂_eq_eq_eq, List.forall₂_map_left_iff, List.forall₂_map_right_iff]
    at hkeys
  -- entries side by side have one key, and so their values are what it finds
  refine forall₂_swap_of_mem (fun b hb a ha hba => ⟨hba.symm, ?_⟩) hkeys
  have hab := h a.1
  rw [hs.mem_iff.1 ha, ← hba, ht.mem_iff.1 hb] at hab
  cases hab with
  | some hab => exact hab

end Table

end InterfaceGen
