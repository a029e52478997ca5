import InterfaceGen.Files.Walk
import InterfaceGen.Proofs.Files.Following
import Mathlib.Data.List.Basic
import Mathlib.Data.List.Count

/-!
# Proofs/Files/Walking — a walk ends, and meets every file where its path leads

A walk goes down to entries below a directory, or along a link to a directory that it is not in.
Each link leaves fewer directories for the links after it, and each step down fewer entries below,
so the product of these numbers bounds its depth (`room`): the depth that a walk is given is never
used up. Main statements: `locate_of_mem_walk`, `walkBelow_maxDepth`.
-/

namespace InterfaceGen

/-- Fewer items meet a condition if it implies another one and one of them meets only that. -/
theorem countP_lt_countP {α : Type} {p q : α → Bool} {l : List α} {x : α}
    (h : ∀ y ∈ l, p y = true → q y = true) (hx : x ∈ l) (hp : p x = false) (hq : q x = true) :
    l.countP p < l.countP q := by
  obtain ⟨front, back, rfl⟩ := List.append_of_mem hx
  have hfront : front.countP p ≤ front.countP q :=
    List.countP_mono_left fun y hy => h y (List.mem_append_left _ hy)
  have hback : back.countP p ≤ back.countP q :=
    List.countP_mono_left fun y hy => h y (List.mem_append_right _ (List.mem_cons_of_mem _ hy))
  simp only [List.countP_append, List.countP_cons, hp, hq, Bool.false_eq_true, if_false, if_true]
  omega

namespace FileSystem

variable {fs fs' : FileSystem} {l m : Location} {e : Entry} {path name : String}
  {names : List String} {outside inside : List Opened} {depth depth' : Nat} {readonly : Bool}

/-! ## What a walk meets -/

/-- What no case for directories takes is none. -/
theorem isDirectory_eq_false {e : Entry} (h : ∀ readonly, e = .directory readonly → False) :
    e.isDirectory = false := by
  cases e with
  | directory readonly => exact absurd rfl (h readonly)
  | _ => rfl

/-- **A walk meets no directories, and what it meets is where its path leads.** -/
theorem locate_of_mem_walkBelow {found : Found}
    (h : .ok found ∈ fs.walkBelow depth outside path names l) :
    ∃ e, fs.locate found.path = .ok (found.location, e) ∧ e.isDirectory = false := by
  induction depth generalizing outside path names l with
  | zero => cases h
  | succ depth ih =>
    rw [walkBelow] at h
    obtain ⟨name, -, h⟩ := List.mem_flatMap.1 h
    dsimp only at h
    split at h
    · cases List.mem_singleton.1 h
    · split at h
      · cases List.mem_singleton.1 h
      · exact ih h
    · next m e hnot hlocate =>
      cases List.mem_singleton.1 h
      exact ⟨e, hlocate, isDirectory_eq_false hnot⟩

theorem locate_of_mem_walk {found : Found} (h : .ok found ∈ fs.walk path) :
    ∃ e, fs.locate found.path = .ok (found.location, e) ∧ e.isDirectory = false := by
  rw [walk] at h
  split at h
  · cases List.mem_singleton.1 h
  · exact locate_of_mem_walkBelow h
  · next m e hnot hlocate =>
    cases List.mem_singleton.1 h
    exact ⟨e, hlocate, isDirectory_eq_false hnot⟩

/-! ## Entries by their names -/

/-- The locations of entries are made of names. -/
def Named (fs : FileSystem) : Prop :=
  ∀ x ∈ fs.entries, ∀ name ∈ x.1, (Component.normal name).Follows

theorem mem_names_iff : name ∈ fs.names l ↔ ∃ e, (l ++ [name], e) ∈ fs.entries := by
  rw [FileSystem.names, List.mem_mergeSort, List.mem_filterMap]
  constructor
  · rintro ⟨⟨m, e⟩, hm, hname⟩
    simp only [Option.ite_none_right_eq_some] at hname
    obtain ⟨rfl, hlast⟩ := hname
    exact ⟨e, by rwa [List.dropLast_append_getLast? name hlast]⟩
  · rintro ⟨e, he⟩
    exact ⟨_, he, by simp⟩

theorem at?_ne_none_of_mem (h : (l, e) ∈ fs.entries) : fs.at? l ≠ none := by
  rw [at?]
  split
  · simp
  · intro hnone
    have := List.lookup_eq_none_iff.1 hnone _ h
    simp at this

theorem exists_at?_of_mem_names (h : name ∈ fs.names l) : ∃ e, fs.at? (l ++ [name]) = some e := by
  obtain ⟨_, hentry⟩ := mem_names_iff.1 h
  exact Option.ne_none_iff_exists'.1 (at?_ne_none_of_mem hentry)

theorem Named.follows (h : fs.Named) (hname : name ∈ fs.names l) :
    (Component.normal name).Follows := by
  obtain ⟨_, hentry⟩ := mem_names_iff.1 hname
  exact h _ hentry name (List.mem_append_right _ (List.mem_singleton_self name))

/-- The root and the locations of the entries. -/
def places (fs : FileSystem) : List Location := [] :: fs.entries.map (·.1)

theorem mem_places_of_at? (h : fs.at? l = some e) : l ∈ fs.places := by
  by_cases hroot : l = []
  · exact hroot ▸ List.mem_cons_self
  · exact List.mem_cons_of_mem _ (List.mem_map.2 ⟨_, mem_entries_of_at? h hroot, rfl⟩)

/-- **What stands in a directory is where its name is joined to the directory's path**, unless it is
a link. -/
theorem locate_join (hpath : fs.locate path = .ok (l, .directory readonly))
    (hname : (Component.normal name).Follows) (he : fs.at? (l ++ [name]) = some e)
    (hlink : ∀ target, e ≠ .link target) :
    fs.locate (Path.join path name) = .ok (l ++ [name], e) := by
  obtain ⟨left, hfind⟩ := find_join hpath hname
  have hwalk : fs.walkTo true (left + 1) l [name] = .ok (.entry (l ++ [name]) e) := by
    rw [walkTo, walkWith, if_neg hname.2.1, if_neg hname.2.2.1]
    cases e with
    | directory readonly => simp only [he, walkWith]
    | file content => simp only [he, List.isEmpty_nil, if_true]
    | link target => exact absurd rfl (hlink target)
  rw [locate, hfind, hwalk]

/-! ## How deep a walk gets -/

/-- How much deeper a walk can get that is in the directories `inside` and about to enter `l`: for
each place where it is not, it may follow a link and then get as deep as places lie. -/
def room (fs : FileSystem) (inside : List Opened) (l : Location) : Nat :=
  fs.places.countP (fun m => inside.all (·.location ≠ m)) * fs.places.length +
    fs.places.countP fun m => l <+: m ∧ l ≠ m

/-- Fewer places than all lie below one. -/
theorem countP_below_lt (h : l ∈ fs.places) :
    fs.places.countP (fun m => l <+: m ∧ l ≠ m) < fs.places.length :=
  List.countP_lt_length_iff.2 ⟨l, h, by simp⟩

/-- **A link to a place where the walk is not leaves less room**… -/
theorem room_link (hm : m ∈ fs.places) (hnew : inside.all (·.location ≠ m) = true) :
    fs.room (⟨path, m⟩ :: inside) m < fs.room inside l := by
  have hfewer :
      fs.places.countP (fun x => (⟨path, m⟩ :: inside : List Opened).all (·.location ≠ x)) <
      fs.places.countP fun x => inside.all (·.location ≠ x) :=
    countP_lt_countP (fun x _ hx => (Bool.and_eq_true_iff.1 hx).2) hm (by simp) hnew
  have hbelow := countP_below_lt hm
  have hmul := Nat.mul_le_mul_right fs.places.length (Nat.succ_le_of_lt hfewer)
  rw [Nat.succ_mul] at hmul
  rw [room, room]
  omega

/-- …and so does a step down. -/
theorem room_step (hm : l ++ [name] ∈ fs.places) :
    fs.room (⟨path, l ++ [name]⟩ :: inside) (l ++ [name]) < fs.room inside l := by
  have hplaces : fs.places.countP
        (fun x => (⟨path, l ++ [name]⟩ :: inside : List Opened).all (·.location ≠ x)) ≤
      fs.places.countP fun x => inside.all (·.location ≠ x) :=
    List.countP_mono_left fun x _ hx => (Bool.and_eq_true_iff.1 hx).2
  have hbelow : fs.places.countP (fun x => l ++ [name] <+: x ∧ l ++ [name] ≠ x) <
      fs.places.countP fun x => l <+: x ∧ l ≠ x := by
    refine countP_lt_countP (fun x _ hx => ?_) hm (by simp) (by simp)
    simp only [decide_eq_true_eq] at hx ⊢
    refine ⟨(List.prefix_append l [name]).trans hx.1, ?_⟩
    rintro rfl
    have hlength := hx.1.length_le
    rw [List.length_append, List.length_singleton] at hlength
    omega
  have hmul := Nat.mul_le_mul_right fs.places.length hplaces
  rw [room, room]
  omega

/-- A directory that no link leads to is one step down. -/
theorem eq_of_not_isLink (hnamed : fs.Named)
    (hpath : fs.locate path = .ok (l, .directory readonly)) (hname : name ∈ fs.names l)
    (hlink : fs.isLink (l ++ [name]) = false) (hm : fs.locate (Path.join path name) = .ok (m, e)) :
    m = l ++ [name] := by
  obtain ⟨entry, hentry⟩ := exists_at?_of_mem_names hname
  have hnot : ∀ target, entry ≠ .link target := by
    rintro target rfl
    simp [isLink, hentry] at hlink
  rw [locate_join hpath (hnamed.follows hname) hentry hnot] at hm
  cases hm
  rfl

/-- **More depth than there is room for makes no difference**, by induction on the depth: what a
walk enters has less room. -/
theorem walkBelow_congr (hnamed : fs.Named)
    (hpath : fs.locate path = .ok (l, .directory readonly))
    (h : fs.room (⟨path, l⟩ :: outside) l < depth)
    (h' : fs.room (⟨path, l⟩ :: outside) l < depth') :
    fs.walkBelow depth outside path names l = fs.walkBelow depth' outside path names l := by
  induction depth generalizing depth' outside path names l readonly with
  | zero => cases h
  | succ depth ih =>
    obtain ⟨depth', rfl⟩ := Nat.exists_eq_succ_of_ne_zero (Nat.ne_zero_of_lt h')
    rw [walkBelow, walkBelow]
    refine List.flatMap_congr fun name hname => ?_
    dsimp only
    split
    · rfl
    · next m readonly' hlocate =>
      split
      · rfl
      · next hnone =>
        have hm := mem_places_of_at? (at?_of_locate hlocate)
        have hroom : fs.room (⟨Path.join path name, m⟩ :: ⟨path, l⟩ :: outside) m <
            fs.room (⟨path, l⟩ :: outside) l := by
          split at hnone
          · exact room_link hm (by simpa using List.find?_eq_none.1 hnone)
          · next hlink =>
            obtain rfl := eq_of_not_isLink hnamed hpath hname (Bool.eq_false_iff.2 hlink) hlocate
            exact room_step hm
        exact ih hlocate (by omega) (by omega)
    · rfl

/-- **The depth that a walk is given is never used up**: with more of it, it meets the same. -/
theorem walkBelow_maxDepth (hnamed : fs.Named)
    (hpath : fs.locate path = .ok (l, .directory readonly)) (h : fs.maxDepth ≤ depth) :
    fs.walkBelow depth [] path names l = fs.walkBelow fs.maxDepth [] path names l := by
  have hplaces : fs.places.length = fs.entries.length + 1 := by simp [places]
  have hl := mem_places_of_at? (at?_of_locate hpath)
  have hroom : fs.room [⟨path, l⟩] l < fs.maxDepth := by
    have helsewhere : fs.places.countP (fun m => [Opened.mk path l].all (·.location ≠ m)) <
        fs.places.length := List.countP_lt_length_iff.2 ⟨l, hl, by simp⟩
    have hbelow := countP_below_lt hl
    have hmul := Nat.mul_le_mul_right fs.places.length (Nat.succ_le_of_lt helsewhere)
    rw [Nat.succ_mul] at hmul
    rw [room, maxDepth, ← hplaces]
    omega
  exact walkBelow_congr hnamed hpath (by omega) hroom

end FileSystem

end InterfaceGen
