import InterfaceGen.Proofs.Template.Shape

/-!
# Proofs/Template/Safe — a template that passes the check renders

The check goes through a template as rendering does, with the shapes of the values in place of the
values: a printed expression has to have a shape, a filter has to accept it, and what a condition
tests is known where it holds. Macros and embedded files are checked one level deeper, where they
are used. Main statements: `Expr.value_of_shape`, `renderNodes_of_safe`, `Engine.render_of_safe`.
-/

namespace InterfaceGen

namespace Template

/-! ## The check -/

/-- Whether some nodes of a file render in every scope that an environment fits. -/
abbrev Check := String → Env → List Node → Bool

/-- The shape of what a filter makes of a value; none if the filter may refuse the value. -/
def filterShape? (input : Shape) (name : String) (args : List (String × Expr)) : Option Shape :=
  match input, args with
  | .text, [] => if (Filters.cases.lookup name).isSome then some .text else none
  | .type, [] => if name = "type_name" then some .text else none
  | .type, [(arg, .str language)] =>
    if name = "type_name" ∧ arg = "lang" ∧ (Language.ofName? language).isSome then some .text
    else none
  | _, _ => none

/-- What is known of a macro's parameters, each of which has to be given. -/
def paramShapes? (args : List (String × Shape)) : List (String × Option Expr) → Option Env
  | [] => some []
  | (param, _) :: rest => do
    let shape ← args.lookup param
    let env ← paramShapes? args rest
    return ([param], shape) :: env

section Check

variable (e : Engine) (check : Check) (file : String)

mutual

/-- The shape of an expression's value; none if it may have none. -/
def Expr.shape? (env : Env) : Expr → Option Shape
  | .str _ => some .text
  | .variable path => env.find? path
  | .macroCall space name args => do
    let shapes ← argShapes? env args
    match e.findMacro file space name with
    | .ok (home, m) =>
      let params ← paramShapes? shapes m.params
      if check home params m.body then some .text else none
    | .error _ => none
  | .filter of name args => do
    let input ← of.shape? env
    filterShape? input name args
  | _ => none

/-- The shapes of the arguments of a call. -/
def argShapes? (env : Env) : List (String × Expr) → Option (List (String × Shape))
  | [] => some []
  | (name, e) :: rest => do
    let shape ← e.shape? env
    let shapes ← argShapes? env rest
    return (name, shape) :: shapes

end

/-- What is known where a condition holds; none if it may fail. -/
def Expr.assumed? (env : Env) : Expr → Option Env
  | .variable path =>
    some ((Text.pieces '.' path, ((env.find? path).getD .any).whenTrue) :: env)
  | .test path false name =>
    if name = "defined" then some ((Text.pieces '.' path, .any) :: env) else none
  | .not (.variable _) => some env
  | .both l r => do
    let env ← l.assumed? env
    r.assumed? env
  | _ => none

mutual

/-- Whether a node renders. -/
def Node.isSafe (env : Env) : Node → Bool
  | .text _ => true
  | .print x => (x.shape? e check file env).isSome
  | .branch cases otherwise => areSafeCases env cases && areSafe env otherwise
  | .loop none value (.variable path) body =>
    match env.find? path with
    | some (.list item) => areSafe (env.enter value item) body
    | _ => false
  | .embed name =>
    match e.template? name with
    | some found => check name env found.nodes
    | none => false
  | _ => false

/-- Whether the cases of a branch render, each where its condition holds. -/
def areSafeCases (env : Env) : List (Expr × List Node) → Bool
  | [] => true
  | (condition, body) :: rest =>
    match condition.assumed? env with
    | some inner => areSafe inner body && areSafeCases env rest
    | none => false

/-- Whether some nodes render one after another. -/
def areSafe (env : Env) : List Node → Bool
  | [] => true
  | n :: rest => n.isSafe env && areSafe env rest

end

end Check

/-- The check, macros and embedded files at most `depth` deep. -/
def isSafeTo (e : Engine) : Nat → Check
  | 0, _, _, _ => false
  | depth + 1, file, env, nodes => areSafe e (isSafeTo e depth) file env nodes

/-! ## Filters -/

theorem typeName_of_spellValue {o : Overlay} {v : Json} {args : Args} {l : Language} {w : String}
    (hl : Filters.languageOf (args.lookup "lang") = .ok l)
    (hv : Filters.spellValue (Filters.dialect o l) v = .ok w) :
    Filters.typeName o v args = .ok (.str w) := by
  simp [Filters.typeName, hl, hv, bind, Except.bind, pure, Except.pure]

/-- What can be spelled as a type is spelled, in every language there is. -/
theorem typeName_of_fits {o : Overlay} {v : Json} {args : Args} {l : Language}
    (hv : Shape.type.Fits v) (hl : Filters.languageOf (args.lookup "lang") = .ok l) :
    ∃ w, Filters.typeName o v args = .ok (.str w) := by
  obtain ⟨w, hw⟩ := hv (Filters.dialect o l)
  exact ⟨w, typeName_of_spellValue hl hw⟩

section Setting

variable {m : Model} {o : Overlay} {t : Setting} {expand : Expand} {check : Check} {s : Scope}
  {env : Env} {file : String}

/-- **A filter accepts a value of a shape that the check accepts.** -/
theorem applyFilter_of_shape {input shape : Shape} {name : String} {args : List (String × Expr)}
    {v : Json} (hv : input.Fits v) (h : filterShape? input name args = some shape) :
    ∃ w, applyFilter (templateCalls m o) name v (offers t expand s args) = .ok w ∧
      shape.Fits w := by
  have hname : Filters.cases.lookup "type_name" = none := by decide
  rw [filterShape?.eq_def] at h
  split at h <;> try cases h
  · obtain ⟨text, rfl⟩ := hv
    obtain ⟨hcase, hshape⟩ := Option.ite_none_right_eq_some.1 h
    obtain rfl := Option.some.inj hshape
    obtain ⟨change, hchange⟩ := Option.isSome_iff_exists.1 hcase
    exact ⟨.str (change text), by simp [applyFilter, templateCalls, hchange, offers, Offers.all,
      Except.mapError, Filters.changeCase, bind, Except.bind], _, rfl⟩
  · obtain ⟨rfl, hshape⟩ := Option.ite_none_right_eq_some.1 h
    obtain rfl := Option.some.inj hshape
    obtain ⟨w, hw⟩ := @typeName_of_fits o v [] .rust hv rfl
    exact ⟨.str w, by simp [applyFilter, templateCalls, hname, offers, Offers.all,
      Except.mapError, hw, bind, Except.bind], _, rfl⟩
  · next arg language =>
    obtain ⟨⟨rfl, rfl, hlanguage⟩, hshape⟩ := Option.ite_none_right_eq_some.1 h
    obtain rfl := Option.some.inj hshape
    obtain ⟨l, hl⟩ := Option.isSome_iff_exists.1 hlanguage
    obtain ⟨w, hw⟩ := @typeName_of_fits o v [("lang", .str language)] l hv
      (by simp [Filters.languageOf, hl])
    exact ⟨.str w, by simp [applyFilter, templateCalls, hname, offers, Offers.all, Expr.value,
      Except.mapError, hw, bind, Except.bind, pure, Except.pure], _, rfl⟩

/-! ## Macros -/

/-- Each argument with a known shape has a value of that shape. -/
def Offered (args : Offers) (shapes : List (String × Shape)) : Prop :=
  ∀ name shape, shapes.lookup name = some shape →
    ∃ v, args.lookup name = some (.ok v) ∧ shape.Fits v

theorem mem_paramShapes {shapes : List (String × Shape)} {params : List (String × Option Expr)}
    (h : paramShapes? shapes params = some env) : ∀ p ∈ env,
      ∃ param ∈ params.map (·.1), p.1 = [param] ∧ shapes.lookup param = some p.2 := by
  induction params generalizing env with
  | nil =>
    obtain rfl := Option.some.inj h
    exact fun p hp => absurd hp List.not_mem_nil
  | cons param params ih =>
    simp only [paramShapes?, Option.bind_eq_bind, Option.bind_eq_some_iff] at h
    obtain ⟨shape, hshape, rest, hrest, hcons⟩ := h
    obtain rfl := Option.some.inj hcons
    rw [List.forall_mem_cons]
    refine ⟨⟨param.1, List.mem_cons_self, rfl, hshape⟩, fun p hp => ?_⟩
    obtain ⟨name, hname, hpath⟩ := ih hrest p hp
    exact ⟨name, List.mem_cons_of_mem _ hname, hpath⟩

/-- **Parameters with known shapes are bound to the values that are given.** -/
theorem bindParams_of_offered {shapes : List (String × Shape)} {args : Offers} (called : String)
    (hargs : Offered args shapes) {params : List (String × Option Expr)}
    (h : paramShapes? shapes params = some env) :
    ∃ bound, bindParams called args params = .ok bound ∧ ∀ param ∈ params.map (·.1),
      ∃ v, args.lookup param = some (.ok v) ∧ bound.lookup param = some v := by
  induction params generalizing env with
  | nil => exact ⟨[], rfl, fun _ hparam => absurd hparam List.not_mem_nil⟩
  | cons param params ih =>
    obtain ⟨name, default⟩ := param
    simp only [paramShapes?, Option.bind_eq_bind, Option.bind_eq_some_iff] at h
    obtain ⟨shape, hshape, rest, hrest, -⟩ := h
    obtain ⟨v, hv, -⟩ := hargs name shape hshape
    obtain ⟨bound, hbound, hall⟩ := ih hrest
    refine ⟨(name, v) :: bound, by
      simp [bindParams, hv, hbound, bind, Except.bind, pure, Except.pure], fun other hother => ?_⟩
    by_cases heq : other = name
    · subst heq
      exact ⟨v, hv, by simp⟩
    · obtain ⟨w, hw, hlookup⟩ := hall other ((List.mem_cons.1 hother).resolve_left heq)
      exact ⟨w, hw, by rw [List.lookup_cons, beq_false_of_ne heq]; exact hlookup⟩

/-- Inside a macro its parameters are what their arguments are. -/
theorem fits_call {shapes : List (String × Shape)} {args : Offers} (hargs : Offered args shapes)
    {params : List (String × Option Expr)} {bound : Args}
    (hbound : ∀ param ∈ params.map (·.1), ∃ v, args.lookup param = some (.ok v) ∧
      bound.lookup param = some v)
    (h : paramShapes? shapes params = some env) : env.Fits (s.call file bound) := by
  intro p hp
  obtain ⟨param, hparam, hpath, hshape⟩ := mem_paramShapes h p hp
  obtain ⟨v, hv, hfits⟩ := hargs param p.2 hshape
  obtain ⟨w, hw, hlookup⟩ := hbound param hparam
  obtain rfl : v = w := Except.ok.inj (Option.some.inj (hv.symm.trans hw))
  refine ⟨v, ?_, hfits⟩
  rw [hpath, Scope.at?, Scope.call, Scope.findIn, Frame.find?, hlookup]
  rfl

/-- What passes the check is expanded. -/
def Check.Sound (check : Check) (expand : Expand) : Prop :=
  ∀ file env nodes s, check file env nodes = true → s.template = file → env.Fits s →
    ∃ text, expand s nodes = .ok text

/-- **A macro whose body passes the check has a text.** -/
theorem expandMacro_of_safe (hsound : check.Sound expand) {shapes : List (String × Shape)}
    {args : Offers} (hargs : Offered args shapes) {space name home : String} {mac : Macro}
    (hfound : t.engine.findMacro s.template space name = .ok (home, mac))
    (hparams : paramShapes? shapes mac.params = some env) (hbody : check home env mac.body = true) :
    ∃ text, expandMacro t expand s space name args = .ok text := by
  obtain ⟨bound, hbound, hall⟩ := bindParams_of_offered name hargs hparams
  obtain ⟨text, htext⟩ := hsound home env mac.body (s.call home bound) hbody rfl
    (fits_call hargs hall hparams)
  exact ⟨text, by simp [expandMacro, hfound, hbound, htext, placed, bind, Except.bind,
    Except.mapError]⟩

/-! ## Expressions -/

/-- What the check of a file relies on: the filters of a model under an overlay, that nodes one
level deeper are expanded, and a scope that the environment fits. -/
structure Ready (m : Model) (o : Overlay) (t : Setting) (check : Check) (expand : Expand)
    (file : String) (env : Env) (s : Scope) : Prop where
  calls : t.calls = templateCalls m o
  sound : check.Sound expand
  template : s.template = file
  fits : env.Fits s

mutual

/-- **An expression with a shape has a value of that shape.** -/
theorem Expr.value_of_shape (hready : Ready m o t check expand file env s) (x : Expr)
    {shape : Shape} (h : x.shape? t.engine check file env = some shape) :
    ∃ v, x.value t expand s = .ok v ∧ shape.Fits v := by
  cases x with
  | str text =>
    obtain rfl := Option.some.inj h
    exact ⟨.str text, rfl, text, rfl⟩
  | «variable» path =>
    obtain ⟨v, hv, hfits⟩ := hready.fits.find? h
    exact ⟨v, by rw [Expr.value, hv], hfits⟩
  | macroCall space name args =>
    simp only [Expr.shape?, Option.bind_eq_bind, Option.bind_eq_some_iff] at h
    obtain ⟨shapes, hshapes, h⟩ := h
    have hargs := offered_of_shapes hready args hshapes
    split at h
    · next home mac hfound =>
      obtain ⟨params, hparams, h⟩ := Option.bind_eq_some_iff.1 h
      obtain ⟨hbody, hshape⟩ := Option.ite_none_right_eq_some.1 h
      obtain rfl := Option.some.inj hshape
      rw [← hready.template] at hfound
      obtain ⟨text, htext⟩ := expandMacro_of_safe hready.sound hargs hfound hparams hbody
      exact ⟨.str text, by rw [Expr.value, htext]; rfl, text, rfl⟩
    · cases h
  | filter of name args =>
    simp only [Expr.shape?, Option.bind_eq_bind, Option.bind_eq_some_iff] at h
    obtain ⟨input, hinput, h⟩ := h
    obtain ⟨v, hv, hfits⟩ := Expr.value_of_shape hready of hinput
    obtain ⟨w, hw, hshape⟩ := applyFilter_of_shape hfits h
    refine ⟨w, ?_, hshape⟩
    rw [Expr.value, hv, ← hw, ← hready.calls]
    rfl
  | _ => cases h

theorem offered_of_shapes (hready : Ready m o t check expand file env s)
    (args : List (String × Expr)) {shapes : List (String × Shape)}
    (h : argShapes? t.engine check file env args = some shapes) :
    Offered (offers t expand s args) shapes := by
  cases args with
  | nil =>
    obtain rfl := Option.some.inj h
    exact fun name shape hname => absurd hname nofun
  | cons arg args =>
    obtain ⟨name, x⟩ := arg
    simp only [argShapes?, Option.bind_eq_bind, Option.bind_eq_some_iff] at h
    obtain ⟨shape, hshape, rest, hrest, hcons⟩ := h
    obtain rfl := Option.some.inj hcons
    obtain ⟨v, hv, hfits⟩ := Expr.value_of_shape hready x hshape
    intro other found hfound
    rw [List.lookup_cons] at hfound
    rw [offers, List.lookup_cons]
    split at hfound
    · obtain rfl := Option.some.inj hfound
      exact ⟨v, by rw [hv], hfits⟩
    · exact offered_of_shapes hready args hrest other found hfound

end

/-- **A condition with a known assumption has a truth, and where it holds so does the
assumption.** -/
theorem Expr.holds_of_assumed {inner : Env} (x : Expr) (h : x.assumed? env = some inner)
    (henv : env.Fits s) :
    ∃ b, x.holds t expand s = .ok b ∧ (b = true → inner.Fits s) := by
  fun_induction Expr.assumed? env x generalizing inner with
  | case1 env path =>
    obtain rfl := Option.some.inj h
    rw [Expr.holds]
    refine ⟨_, rfl, fun hb => Env.fits_cons.2 ⟨?_, henv⟩⟩
    rw [← Scope.find?_eq]
    cases hv : s.find? path with
    | none => rw [hv] at hb; cases hb
    | some v =>
      refine ⟨v, rfl, Shape.Fits.whenTrue ?_ (by rw [hv] at hb; exact hb)⟩
      cases hshape : env.find? path with
      | none => trivial
      | some shape =>
        obtain ⟨w, hw, hfits⟩ := henv.find? hshape
        obtain rfl := Option.some.inj (hv.symm.trans hw)
        exact hfits
  | case2 env path =>
    obtain rfl := Option.some.inj h
    rw [Expr.holds, testVariable, if_pos rfl]
    refine ⟨_, rfl, fun hb => Env.fits_cons.2 ⟨?_, henv⟩⟩
    obtain ⟨v, hv⟩ := Option.isSome_iff_exists.1 (by simpa using hb)
    exact ⟨v, hv, trivial⟩
  | case3 => cases h
  | case4 env path =>
    obtain rfl := Option.some.inj h
    exact ⟨_, rfl, fun _ => henv⟩
  | case5 env l r ihl ihr =>
    simp only [Option.bind_eq_bind, Option.bind_eq_some_iff] at h
    obtain ⟨between, hl, hr⟩ := h
    obtain ⟨b, hb, hbetween⟩ := ihl hl henv
    rw [Expr.holds, hb]
    cases b with
    | false => exact ⟨false, rfl, nofun⟩
    | true => exact ihr between hr (hbetween rfl)
  | case6 => cases h

/-! ## Nodes -/

theorem Ready.mono {inner : Env} (h : Ready m o t check expand file env s) (hinner : inner.Fits s) :
    Ready m o t check expand file inner s :=
  ⟨h.calls, h.sound, h.template, hinner⟩

theorem Ready.enter (h : Ready m o t check expand file env s) {l : Loop} {item : Shape}
    (hkey : l.key = none) (hitem : item.Fits l.currentValue) :
    Ready m o t check expand file (env.enter l.value item) (s.enter ⟨[], some l⟩) :=
  ⟨h.calls, h.sound, h.template, h.fits.enter hkey hitem⟩

/-- If every round of a loop has a text, so has the loop. -/
theorem rounds_of_forall {round : Loop → Outcome String} {key : Option String} {value : String}
    {count index : Nat} {items : List (String × Json)}
    (h : ∀ k v i, (k, v) ∈ items → ∃ text, round ⟨key, value, i, count, k, v⟩ = .ok text) :
    ∃ text, rounds round key value count index items = .ok text := by
  induction items generalizing index with
  | nil => exact ⟨"", rfl⟩
  | cons item items ih =>
    obtain ⟨k, v⟩ := item
    obtain ⟨text, htext⟩ := h k v index List.mem_cons_self
    obtain ⟨more, hmore⟩ := @ih (index + 1) fun k v i hmem => h k v i (List.mem_cons_of_mem _ hmem)
    exact ⟨text ++ more, by simp [rounds, htext, hmore, bind, Except.bind, pure, Except.pure]⟩

/-- A loop over a list has a text if its body has one for each of the items. -/
theorem render_loop {value path : String} {body : List Node} {items : List Json}
    (hv : s.find? path = some (.arr items))
    (hbody : ∀ l : Loop, l.key = none → l.value = value → l.currentValue ∈ items →
      ∃ text, renderNodes t expand body (s.enter ⟨[], some l⟩) = .ok (text, s.enter ⟨[], some l⟩)) :
    ∃ text, (Node.loop none value (.variable path) body).render t expand s = .ok (text, s) := by
  have hrounds : ∃ text, rounds (fun l => placed .elsewhere
      ((renderNodes t expand body (s.enter ⟨[], some l⟩)).map (·.1))) none value items.length 0
      (items.map (("", ·))) = .ok text := by
    refine rounds_of_forall fun k v i hmem => ?_
    obtain ⟨w, hw, heq⟩ := List.mem_map.1 hmem
    obtain ⟨rfl, rfl⟩ := Prod.mk.inj heq
    obtain ⟨text, htext⟩ := hbody ⟨none, value, i, items.length, "", w⟩ rfl rfl hw
    exact ⟨text, by rw [htext]; rfl⟩
  obtain ⟨text, htext⟩ := hrounds
  exact ⟨text, by simp [Node.render, containerName, Expr.base, Expr.value, hv, entries, htext,
    bind, Except.bind, pure, Except.pure]⟩

mutual

/-- **A node that passes the check has a text, and leaves the scope as it is.** -/
theorem Node.render_of_safe {env : Env} {s : Scope}
    (hready : Ready m o t check expand file env s) (n : Node)
    (h : n.isSafe t.engine check file env = true) :
    ∃ text, n.render t expand s = .ok (text, s) := by
  match n with
  | .text chars => exact ⟨_, rfl⟩
  | .print x =>
    obtain ⟨shape, hshape⟩ := Option.isSome_iff_exists.1 h
    obtain ⟨v, hv, -⟩ := Expr.value_of_shape hready x hshape
    exact ⟨printed v, by rw [Node.render, hv]; rfl⟩
  | .branch cases otherwise =>
    obtain ⟨hcases, hotherwise⟩ := Bool.and_eq_true_iff.1 h
    obtain ⟨found, hfound, hscope⟩ := renderCases_of_safe hready cases hcases
    rw [Node.render, hfound]
    cases found with
    | some p =>
      obtain rfl := hscope p rfl
      exact ⟨p.1, rfl⟩
    | none => exact renderNodes_of_safe hready otherwise hotherwise
  | .loop none value (.variable path) body =>
    rw [Node.isSafe] at h
    split at h
    · next item hpath =>
      obtain ⟨v, hv, items, rfl, hitems⟩ := hready.fits.find? hpath
      refine render_loop hv fun l hkey hvalue hmem => ?_
      subst hvalue
      exact renderNodes_of_safe (hready.enter hkey (hitems _ hmem)) body h
    · cases h
  | .embed name =>
    rw [Node.isSafe] at h
    split at h
    · next found hfound =>
      obtain ⟨text, htext⟩ := hready.sound name env found.nodes _ h rfl (hready.fits.embed name)
      exact ⟨text, by simp [Node.render, hfound, htext, placed, Except.mapError, bind, Except.bind,
        pure, Except.pure]⟩
    · cases h

theorem renderCases_of_safe {env : Env} {s : Scope}
    (hready : Ready m o t check expand file env s) (cases : List (Expr × List Node))
    (h : areSafeCases t.engine check file env cases = true) :
    ∃ found, renderCases t expand cases s = .ok found ∧ ∀ p, found = some p → p.2 = s := by
  match cases with
  | [] => exact ⟨none, rfl, nofun⟩
  | (condition, body) :: rest =>
    rw [areSafeCases] at h
    split at h
    · next inner hinner =>
      obtain ⟨hbody, hrest⟩ := Bool.and_eq_true_iff.1 h
      obtain ⟨b, hb, hholds⟩ := condition.holds_of_assumed hinner hready.fits
      rw [renderCases, hb]
      cases b with
      | false => exact renderCases_of_safe hready rest hrest
      | true =>
        obtain ⟨text, htext⟩ := renderNodes_of_safe (hready.mono (hholds rfl)) body hbody
        exact ⟨some (text, s), by rw [htext]; rfl, fun p hp => by cases hp; rfl⟩
    · cases h

/-- **Nodes that pass the check have a text, and leave the scope as it is.** -/
theorem renderNodes_of_safe {env : Env} {s : Scope}
    (hready : Ready m o t check expand file env s) (nodes : List Node)
    (h : areSafe t.engine check file env nodes = true) :
    ∃ text, renderNodes t expand nodes s = .ok (text, s) := by
  match nodes with
  | [] => exact ⟨"", rfl⟩
  | n :: rest =>
    obtain ⟨hn, hrest⟩ := Bool.and_eq_true_iff.1 h
    obtain ⟨text, htext⟩ := Node.render_of_safe hready n hn
    obtain ⟨more, hmore⟩ := renderNodes_of_safe hready rest hrest
    exact ⟨text ++ more, by simp [renderNodes, htext, hmore, bind, Except.bind, pure, Except.pure]⟩

end

end Setting

/-! ## Templates -/

/-- **Nodes that pass the check some levels deep are expanded**, if that many levels are left. -/
theorem sound_isSafeTo {m : Model} {o : Overlay} {t : Setting}
    (hcalls : t.calls = templateCalls m o) {checked depth : Nat} (h : checked ≤ depth) :
    (isSafeTo t.engine checked).Sound (expandTo t depth) := by
  induction checked generalizing depth with
  | zero => exact fun _ _ _ _ hsafe => absurd hsafe Bool.false_ne_true
  | succ checked ih =>
    obtain ⟨depth, rfl⟩ : ∃ k, depth = k + 1 := ⟨depth - 1, by omega⟩
    intro file env nodes s hsafe hfile henv
    obtain ⟨text, htext⟩ := renderNodes_of_safe
      ⟨hcalls, ih (Nat.le_of_succ_le_succ h), hfile, henv⟩ nodes hsafe
    exact ⟨text, by rw [expandTo, htext]; rfl⟩

end Template

namespace Engine

open Template

variable {e : Engine} {name : String} {t : Template}

theorem render_eq (c : Calls) (hfind : e.template? name = some t) (globals : Json.Members) :
    e.render c name globals = (expandTo ⟨e, c⟩ maxDepth (.start globals name) t.nodes).mapError
      (·.message name) := by
  rw [render, hfind]

/-- **A template that passes the check renders** whenever the values it is given fit. -/
theorem render_of_safe {env : Env} {globals : Json.Members} {depth : Nat}
    (hfind : e.template? name = some t) (hdepth : depth ≤ maxDepth)
    (h : isSafeTo e depth name env t.nodes = true) (henv : env.Fits (.start globals name))
    (m : Model) (o : Overlay) : ∃ text, e.render (templateCalls m o) name globals = .ok text := by
  obtain ⟨text, htext⟩ := sound_isSafeTo (t := ⟨e, templateCalls m o⟩) rfl hdepth name env t.nodes _
    h rfl henv
  exact ⟨text, by rw [render_eq _ hfind, htext]; rfl⟩

end Engine

end InterfaceGen
