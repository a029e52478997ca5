import InterfaceGen.Program
import InterfaceGen.Proofs.Reading

/-!
# Proofs/Precedence — what the command line gives stands over what a settings file holds

A command line that is read to its end holds each option with as many values as the option takes,
and repeats only options with many values (`Reading.Sound`, kept by every word). So the settings of
the command line alone give back what was given, and for everything else what empty settings have.
Laid over a base they leave the base where they are as usual; an option of a text that is given with
just the usual text is therefore lost (`Reading.Hides`). Main statement: `answer_settingsOf`.
-/

namespace InterfaceGen

open CommandLine

/-! ## Answers for options -/

/-- What settings have for an option. -/
inductive CommandLine.Answer where
  | texts (values : List String)
  /-- A switch that is on, off or left open. -/
  | switch (on : Option Bool)
  deriving Repr, DecidableEq

/-- The options that settings have an answer for. -/
def CommandLine.Key.isSetting : Key → Bool
  | .settings | .help | .version => false
  | _ => true

/-- What settings have for an option. -/
def Settings.answer (s : Settings) : Key → Answer
  | .primary => .texts s.primary
  | .dependencies => .texts s.dependencies
  | .templates => .texts s.templates.toList
  | .builtIn => .texts [s.builtIn]
  | .output => .texts s.output.toList
  | .delete => .switch (some s.delete)
  | .keep => .switch (some s.keep)
  | .listFiles => .switch (some s.listFiles)
  | .overlay => .texts s.overlay.toList
  | .keys => .texts s.keys
  | .modelOutput => .texts s.modelOutput.toList
  | .pattern => .texts [s.pattern]
  | .verbose => .switch s.verbose
  | .settings | .help | .version => .texts []

namespace Settings

theorem laterList_eq (earlier later : List String) :
    laterList earlier later = if later = [] then earlier else later := by
  cases later <;> rfl

theorem toList_or (earlier later : Option String) :
    (later.or earlier).toList = if later.toList = [] then earlier.toList else later.toList := by
  cases later <;> rfl

/-- **Settings laid over others** leave what the others have exactly where they are as usual. -/
theorem answer_merge (s t : Settings) (key : Key) :
    (s.merge t).answer key =
      if t.answer key = unset.answer key then s.answer key else t.answer key := by
  cases key with
  | primary | dependencies | keys =>
    simp only [answer, merge, unset, laterList_eq, Answer.texts.injEq]
    split <;> rfl
  | templates | output | overlay | modelOutput =>
    simp only [answer, merge, unset, toList_or, Answer.texts.injEq, Option.toList_none]
    split <;> rfl
  | builtIn | pattern =>
    simp only [answer, merge, laterText, Answer.texts.injEq, List.cons.injEq, and_true]
    split <;> rfl
  | delete | keep | listFiles =>
    simp only [answer, merge, unset, Answer.switch.injEq, Option.some.injEq]
    split
    next h => rw [h, Bool.or_false]
    next h => rw [Bool.eq_true_of_not_eq_false h, Bool.or_true]
  | verbose =>
    simp only [answer, merge, unset, Answer.switch.injEq]
    cases t.verbose <;> rfl
  | settings | help | version => simp [answer]

end Settings

namespace CommandLine

/-! ## Command lines as they are read -/

/-- As many values as an option takes. -/
def Arity.Takes (values : List String) : Arity → Prop
  | .none => values = []
  | .one => ∃ value, values = [value]
  | .many => values ≠ []

/-- No more values than an option takes. -/
def Arity.Allows (values : List String) : Arity → Prop
  | .none => values = []
  | .one => values.length ≤ 1
  | .many => True

theorem Arity.Allows.takes {arity : Arity} {values : List String} (h : arity.Allows values)
    (filled : arity ≠ .none → values ≠ []) : arity.Takes values := by
  cases arity with
  | none => exact h
  | many => exact filled (by decide)
  | one =>
    obtain ⟨v, rest, rfl⟩ := List.exists_cons_of_ne_nil (filled (by decide))
    obtain rfl : rest = [] :=
      List.eq_nil_of_length_eq_zero (Nat.le_zero.1 (Nat.le_of_succ_le_succ h))
    exact ⟨v, rfl⟩

theorem Arity.allows_nil (arity : Arity) : arity.Allows [] := by
  cases arity with
  | none => rfl
  | one => exact Nat.zero_le 1
  | many => exact trivial

theorem Arity.allows_singleton {arity : Arity} (h : arity ≠ .none) (value : String) :
    arity.Allows [value] := by
  cases arity with
  | none => exact (h rfl).elim
  | one => exact Nat.le_refl 1
  | many => exact trivial

namespace Reading

variable {r r' : Reading} {key : Key} {values : List String}

/-- Complete options have the values they take, those without many values are there once, and the
pending option has no more values than it takes, and none if it takes one that is still to come. -/
structure Sound (r : Reading) : Prop where
  takes : ∀ key values, (key, values) ∈ r.given → key.arity.Takes values
  once : ∀ key, key.arity ≠ .many → (r.given.filter (·.1 = key)).length ≤ 1
  allows : ∀ key values, r.pending = some (key, values) → key.arity.Allows values
  awaits : ∀ key values, r.pending = some (key, values) → r.accepting = true →
    key.arity ≠ .none ∧ (key.arity = .one → values = [])

theorem sound_empty : Sound empty where
  takes _ _ h := absurd h List.not_mem_nil
  once _ _ := Nat.zero_le 1
  allows _ _ h := nomatch h
  awaits _ _ h := nomatch h

theorem has_iff : r.has key = true ↔ ∃ values, (key, values) ∈ r.given := by
  simp [has, List.lookup_isSome_iff]

/-- An option is added with the values it takes, and twice only if it takes many. -/
theorem add_eq_ok (h : r.add key values = .ok r') :
    (key.arity ≠ .none → values ≠ []) ∧ (key.arity ≠ .many → r.has key = false) ∧
      r' = { r with given := r.given ++ [(key, values)], accepting := false } := by
  simp only [add] at h
  split at h; · cases h
  next filled =>
  split at h; · cases h
  split at h; · cases h
  split at h; · cases h
  next once =>
  split at h; · cases h
  refine ⟨fun ha hv => filled ⟨ha, by simp [hv]⟩, fun ha => ?_, (Except.ok.inj h).symm⟩
  exact Bool.eq_false_iff.2 fun hh => once ⟨ha, hh⟩

theorem Sound.add (hr : r.Sound) (hp : r.pending = none) (hv : key.arity.Allows values)
    (h : r.add key values = .ok r') : r'.Sound ∧ r'.pending = none := by
  obtain ⟨filled, once, rfl⟩ := add_eq_ok h
  refine ⟨⟨?_, ?_, ?_, ?_⟩, hp⟩
  · intro k vs hk
    obtain hk | hk := List.mem_append.1 hk
    · exact hr.takes k vs hk
    · obtain ⟨rfl, rfl⟩ := Prod.mk.inj (List.mem_singleton.1 hk)
      exact hv.takes filled
  · intro k ha
    by_cases hk : key = k
    · subst hk
      have fresh : r.given.filter (·.1 = key) = [] := by
        refine List.filter_eq_nil_iff.2 fun ⟨k', vs⟩ hmem hk' => ?_
        obtain rfl := of_decide_eq_true hk'
        exact Bool.eq_false_iff.1 (once ha) (has_iff.2 ⟨vs, hmem⟩)
      simp [List.filter_append, fresh]
    · simpa [List.filter_append, hk] using hr.once k ha
  · exact fun k vs hk => hr.allows k vs hk
  · exact fun k vs hk closed => nomatch closed

theorem Sound.settle (hr : r.Sound) (h : r.settle = .ok r') : r'.Sound ∧ r'.pending = none := by
  simp only [Reading.settle] at h
  split at h
  next hp =>
    obtain rfl := Except.ok.inj h
    exact ⟨hr, hp⟩
  next key values hp =>
    have cleared : Sound { r with pending := none } :=
      ⟨hr.takes, hr.once, fun _ _ hk => (nomatch hk), fun _ _ hk => nomatch hk⟩
    exact cleared.add rfl (hr.allows key values hp) h

theorem Sound.complete (hr : r.Sound) (hv : key.arity.Allows values)
    (h : r.complete key values = .ok r') : r'.Sound := by
  obtain ⟨settled, hs, h⟩ := exists_of_bind h
  obtain ⟨sound, hp⟩ := hr.settle hs
  exact (sound.add hp hv h).1

theorem Sound.await (hr : r.Sound) (ha : key.arity ≠ .none) (h : r.await key = .ok r') :
    r'.Sound := by
  obtain ⟨settled, hs, h⟩ := exists_of_bind h
  obtain rfl := Except.ok.inj h
  obtain ⟨sound, -⟩ := hr.settle hs
  refine ⟨sound.takes, sound.once, fun k vs hk => ?_, fun k vs hk _ => ?_⟩ <;>
    obtain ⟨rfl, rfl⟩ := Prod.mk.inj (Option.some.inj hk)
  · exact Arity.allows_nil _
  · exact ⟨ha, fun _ => rfl⟩

theorem Sound.value {w : String} (hr : r.Sound) (h : r.value w = .ok r') : r'.Sound := by
  simp only [Reading.value] at h
  split at h
  next key values hp =>
    split at h
    next accepting =>
      obtain rfl := Except.ok.inj h
      obtain ⟨some, single⟩ := hr.awaits key values hp accepting
      refine ⟨hr.takes, hr.once, fun k vs hk => ?_, fun k vs hk more => ?_⟩ <;>
        obtain ⟨rfl, rfl⟩ := Prod.mk.inj (Option.some.inj hk)
      · cases ha : key.arity with
        | none => exact (some ha).elim
        | many => exact trivial
        | one => rw [single ha]; exact Nat.le_refl 1
      · have many : key.arity = .many := of_decide_eq_true more
        exact ⟨some, fun one => nomatch many.symm.trans one⟩
    next => cases h
  next => cases h

theorem Sound.long {name : String} {attached : Option String} (hr : r.Sound)
    (h : r.long name attached = .ok r') : r'.Sound := by
  simp only [Reading.long] at h
  split at h; · cases h
  next key _ =>
  split at h
  next => cases h
  next ha => exact hr.complete (Arity.allows_nil _) h
  next ha => exact hr.complete (Arity.allows_singleton ha _) h
  next ha => exact hr.await ha h

theorem Sound.short {cs : List Char} (hr : r.Sound) (h : r.short cs = .ok r') : r'.Sound := by
  induction cs generalizing r with
  | nil =>
    obtain rfl := Except.ok.inj h
    exact hr
  | cons c rest ih =>
    simp only [Reading.short] at h
    split at h; · cases h
    next key _ =>
    split at h
    next ha =>
      obtain ⟨next, hn, h⟩ := exists_of_bind h
      exact ih (hr.complete (Arity.allows_nil _) hn) h
    next ha =>
      split at h
      next => exact hr.await ha h
      next => exact hr.complete (Arity.allows_singleton ha _) h
      next => exact hr.complete (Arity.allows_singleton ha _) h

/-- **A word keeps a reading sound.** -/
theorem Sound.word {w : String} (hr : r.Sound) (h : r.word w = .ok r') : r'.Sound := by
  simp only [Reading.word] at h
  split at h; · cases h
  split at h
  next =>
    obtain rfl := Except.ok.inj h
    exact ⟨hr.takes, hr.once, hr.allows, hr.awaits⟩
  next => exact hr.long h
  next => exact hr.short h
  next => exact hr.value h

/-- **A command line that is read is sound.** -/
theorem Sound.words {args : List String} (hr : r.Sound) (h : r.words args = .ok r') :
    r'.Sound := by
  induction args generalizing r with
  | nil => exact (hr.settle h).1
  | cons w rest ih =>
    obtain ⟨next, hn, h⟩ := exists_of_bind h
    exact ih (hr.word hn) h

/-! ## What a command line gives -/

/-- What the command line gives for an option: a switch is turned on. -/
def answer (r : Reading) (key : Key) : Answer :=
  if key.arity = .none then .switch (some true) else .texts (r.valuesOf key)

theorem valuesOf_of_not_has (h : r.has key = false) : r.valuesOf key = [] := by
  have none : r.given.filter (·.1 = key) = [] := by
    refine List.filter_eq_nil_iff.2 fun ⟨k, vs⟩ hmem hk => ?_
    obtain rfl := of_decide_eq_true hk
    exact Bool.eq_false_iff.1 h (has_iff.2 ⟨vs, hmem⟩)
  rw [valuesOf, none, List.flatMap_nil]

theorem Sound.valuesOf_many (hr : r.Sound) (ha : key.arity = .many) (h : r.has key = true) :
    r.valuesOf key ≠ [] := by
  obtain ⟨values, hmem⟩ := has_iff.1 h
  have filled := hr.takes key values hmem
  rw [ha] at filled
  intro empty
  have listed := List.flatMap_eq_nil_iff.1 empty (key, values)
    (List.mem_filter.2 ⟨hmem, decide_eq_true rfl⟩)
  exact filled listed

theorem Sound.valuesOf_one (hr : r.Sound) (ha : key.arity = .one) (h : r.has key = true) :
    ∃ value, r.valuesOf key = [value] := by
  obtain ⟨values, hmem⟩ := has_iff.1 h
  have filled := hr.takes key values hmem
  rw [ha] at filled
  obtain ⟨value, rfl⟩ := filled
  have listed : (key, [value]) ∈ r.given.filter (·.1 = key) :=
    List.mem_filter.2 ⟨hmem, decide_eq_true rfl⟩
  obtain ⟨entry, he⟩ := List.length_eq_one_iff.1
    (Nat.le_antisymm (hr.once key (by rw [ha]; decide)) (List.length_pos_of_mem listed))
  rw [he] at listed
  obtain rfl := List.mem_singleton.1 listed
  exact ⟨value, by rw [valuesOf, he]; rfl⟩

/-- An option with one value gives it back as it is, or nothing. -/
theorem Sound.toList_valueOf (hr : r.Sound) (ha : key.arity = .one) :
    (r.valueOf key).toList = r.valuesOf key := by
  cases h : r.has key with
  | false => rw [valueOf, valuesOf_of_not_has h]; rfl
  | true =>
    obtain ⟨value, hv⟩ := hr.valuesOf_one ha h
    rw [valueOf, hv]; rfl

theorem Sound.getD_valueOf (hr : r.Sound) (ha : key.arity = .one) (usual : String) :
    [(r.valueOf key).getD usual] = if r.has key then r.valuesOf key else [usual] := by
  cases h : r.has key with
  | false => rw [valueOf, valuesOf_of_not_has h]; rfl
  | true =>
    obtain ⟨value, hv⟩ := hr.valuesOf_one ha h
    rw [valueOf, hv]; rfl

/-- **The settings of the command line alone** have what is given, and for everything else what
empty settings have. -/
theorem Sound.answer_settings (hr : r.Sound) (hk : key.isSetting = true) :
    r.settings.answer key = if r.has key then r.answer key else Settings.unset.answer key := by
  cases key with
  | primary | dependencies | keys =>
    simp only [Settings.answer, settings, answer, Key.arity, reduceCtorEq, if_false]
    split
    next => rfl
    next h => rw [valuesOf_of_not_has (Bool.eq_false_iff.2 h)]; rfl
  | templates | output | overlay | modelOutput =>
    simp only [Settings.answer, settings, answer, Key.arity, reduceCtorEq, if_false]
    rw [hr.toList_valueOf rfl]
    split
    next => rfl
    next h => rw [valuesOf_of_not_has (Bool.eq_false_iff.2 h)]; rfl
  | builtIn | pattern =>
    simp only [Settings.answer, settings, answer, Key.arity, reduceCtorEq, if_false]
    rw [hr.getD_valueOf rfl]
    split <;> rfl
  | delete | keep | listFiles =>
    simp only [Settings.answer, settings, answer, Key.arity, if_true]
    split
    next h => rw [h]
    next h => rw [Bool.eq_false_iff.2 h]; rfl
  | verbose =>
    simp only [Settings.answer, settings, answer, Key.arity, if_true]
    split <;> rfl
  | settings | help | version => cases hk

/-! ## Precedence -/

/-- The command line has an option with just the text that stands for one that is not given. -/
def Hides (r : Reading) (key : Key) : Prop :=
  (key = .builtIn ∨ key = .pattern) ∧ r.answer key = Settings.unset.answer key

instance : Decidable (r.Hides key) := inferInstanceAs (Decidable (_ ∧ _))

/-- What is given differs from what empty settings have, unless it is hidden. -/
theorem Sound.hides_iff (hr : r.Sound) (hk : key.isSetting = true) (h : r.has key = true) :
    r.Hides key ↔ r.answer key = Settings.unset.answer key := by
  refine ⟨And.right, fun usual => ⟨?_, usual⟩⟩
  cases key with
  | builtIn => exact .inl rfl
  | pattern => exact .inr rfl
  | primary | dependencies | keys =>
    exact absurd (Answer.texts.inj usual) (hr.valuesOf_many rfl h)
  | templates | output | overlay | modelOutput =>
    obtain ⟨value, hv⟩ := hr.valuesOf_one rfl h
    exact absurd (hv.symm.trans (Answer.texts.inj usual)) (List.cons_ne_nil _ _)
  | delete | keep | listFiles | verbose => cases usual
  | settings | help | version => cases hk

/-- **Laid over a base**, the settings of the command line have what is given, and leave the rest
and what is hidden to the base. -/
theorem Sound.answer_merge_settings (hr : r.Sound) (base : Settings) (hk : key.isSetting = true) :
    (base.merge r.settings).answer key =
      if r.has key ∧ ¬ r.Hides key then r.answer key else base.answer key := by
  rw [Settings.answer_merge, hr.answer_settings hk]
  cases h : r.has key with
  | false => simp
  | true => simp [hr.hides_iff hk h]

/-- Settings have what the command line gives, and for every other option what the base has. -/
def Overrides (r : Reading) (base s : Settings) : Prop :=
  ∀ key, key.isSetting = true → s.answer key = if r.has key then r.answer key else base.answer key

end Reading

end CommandLine

namespace Program

/-- The settings under those of the command line: the ones in the settings file, if one is named. -/
def IsBase (fs : FileSystem) (base : Settings) : Option String → Prop
  | some path => fs.readSettings path = .ok base
  | none => base = Settings.default

theorem settingsOf_of_base {fs : FileSystem} {args : List String} {r : Reading} {base : Settings}
    (hr : Reading.empty.words args = .ok r) (hb : IsBase fs base (r.valueOf .settings)) :
    ∃ request, parse args = .ok request ∧
      settingsOf fs request = .ok (base.merge r.settings) := by
  refine ⟨⟨r.settings, r.valueOf .settings⟩, ?_, ?_⟩
  · rw [parse, hr]
    rfl
  · simp only [settingsOf]
    cases hf : r.valueOf .settings with
    | none =>
      rw [hf] at hb
      obtain rfl := hb
      rfl
    | some path =>
      rw [hf] at hb
      exact congrArg (· >>= fun base => pure (base.merge r.settings)) hb

/-- **The command line stands over the settings file.** Every option has the value it is given, and
every option that is not given the value of the base; only a built-in set or pattern that is given
as the usual one is left to the base. -/
theorem answer_settingsOf {fs : FileSystem} {args : List String} {r : Reading} {base : Settings}
    (hr : Reading.empty.words args = .ok r) (hb : IsBase fs base (r.valueOf .settings)) :
    ∃ request s, parse args = .ok request ∧ settingsOf fs request = .ok s ∧
      ∀ key, key.isSetting = true →
        s.answer key = if r.has key ∧ ¬ r.Hides key then r.answer key else base.answer key := by
  obtain ⟨request, hp, hs⟩ := settingsOf_of_base hr hb
  exact ⟨request, base.merge r.settings, hp, hs, fun key hk =>
    (Reading.sound_empty.words hr).answer_merge_settings base hk⟩

/-- A settings file with a built-in set and an output root. -/
def settingsFileSystem : FileSystem :=
  ⟨[(["work"], .directory false), (["work", "settings.json"], .file (.text
    "\x7b\"internal_templates\":\"typescript\",\"codegen\":\"here\"\x7d"))], ["work"]⟩

/-- The settings in it. -/
def fileSettings : Settings :=
  { Settings.unset with builtIn := "typescript", output := some "here" }

theorem isBase_fileSettings : IsBase settingsFileSystem fileSettings (some "settings.json") :=
  (by decide +kernel : settingsFileSystem.readSettings "settings.json" = .ok fileSettings)

/-- An output root that is given stands, and the built-in set of the file is kept. -/
theorem answer_settingsOf_output : ∃ request s,
    parse ["--settings", "settings.json", "-c", "there"] = .ok request ∧
      settingsOf settingsFileSystem request = .ok s ∧
      s.output = some "there" ∧ s.builtIn = "typescript" := by
  have hr : Reading.empty.words ["--settings", "settings.json", "-c", "there"] =
      .ok ⟨[(.settings, ["settings.json"]), (.output, ["there"])], none, false, false⟩ := rfl
  obtain ⟨request, s, hp, hs, hkeys⟩ := answer_settingsOf hr isBase_fileSettings
  have houtput : Answer.texts s.output.toList = .texts ["there"] := hkeys .output rfl
  have hbuiltIn : Answer.texts [s.builtIn] = .texts ["typescript"] := hkeys .builtIn rfl
  refine ⟨request, s, hp, hs, ?_, List.singleton_inj.1 (Answer.texts.inj hbuiltIn)⟩
  exact Option.toList_eq_singleton_iff.1 (Answer.texts.inj houtput)

/-- **A built-in set that is given as the usual one does not stand over the file's.** -/
theorem not_overrides_usual : ¬ ∀ (fs : FileSystem) (args : List String) (r : Reading)
    (base : Settings) (request : Request) (s : Settings), Reading.empty.words args = .ok r →
      IsBase fs base (r.valueOf .settings) → parse args = .ok request →
        settingsOf fs request = .ok s → r.Overrides base s := by
  intro hall
  have hr : Reading.empty.words ["--settings", "settings.json", "--it", "rust"] =
      .ok ⟨[(.settings, ["settings.json"]), (.builtIn, ["rust"])], none, false, false⟩ := rfl
  obtain ⟨request, hp, hs⟩ := settingsOf_of_base hr isBase_fileSettings
  have kept : Answer.texts ["typescript"] = .texts ["rust"] :=
    hall _ _ _ _ _ _ hr isBase_fileSettings hp hs .builtIn rfl
  exact absurd kept (by decide)

end Program

end InterfaceGen
