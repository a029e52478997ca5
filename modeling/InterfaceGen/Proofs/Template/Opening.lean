import InterfaceGen.Proofs.Template.Safe
import Mathlib.Data.List.TakeWhile

/-!
# Proofs/Template/Opening — the first line of a text, read off the nodes that print it

A template that starts with characters and names has a first line that is known before anything is
rendered, up to what the names are. The line may stand in a condition of its own, and is then blank
unless that holds. Main statement: `renderNodes_of_opening`.
-/

namespace InterfaceGen

namespace Template

/-- A part of a line: characters, or what is printed of a variable, in another case or as it is. -/
inductive LinePart where
  | chars (cs : List Char)
  | value (path : String) (case : Option String)
  deriving DecidableEq

/-- A line that is blank if the variable `blankIf` is true. -/
structure OpeningLine where
  blankIf : Option String
  parts : List LinePart
  deriving DecidableEq

/-! ## Reading a line off nodes -/

namespace LinePart

/-- Whether a part holds a line break. -/
def ends : LinePart → Bool
  | .chars cs => '\n' ∈ cs
  | .value _ _ => false

/-- A part up to its line break. -/
def cut : LinePart → LinePart
  | .chars cs => .chars (cs.takeWhile (· ≠ '\n'))
  | part => part

end LinePart

/-- What a node adds to a line, if it is plain text or prints a name. -/
def Node.part? : Node → Option LinePart
  | .text cs => some (.chars cs)
  | .print (.variable path) => some (.value path none)
  | .print (.filter (.variable path) name []) =>
    if (Filters.cases.lookup name).isSome then some (.value path (some name)) else none
  | _ => none

/-- The parts of a line that some nodes print, and whether a line break ends it. -/
def lineParts? : List Node → Option (List LinePart × Bool)
  | [] => some ([], false)
  | n :: rest => do
    let part ← n.part?
    if part.ends then return ([part.cut], true)
    let (parts, ended) ← lineParts? rest
    return (part :: parts, ended)

/-- The first line of some nodes. -/
def opening? : List Node → Option OpeningLine
  | .branch [(.not (.variable path), body)] [] :: .text ('\n' :: _) :: _ =>
    match lineParts? body with
    | some (parts, false) => some ⟨some path, parts⟩
    | _ => none
  | nodes =>
    match lineParts? nodes with
    | some (parts, true) => some ⟨none, parts⟩
    | _ => none

/-! ## The text of a line -/

/-- What is printed of a variable. -/
def Scope.shown (s : Scope) (path : String) : String := (s.find? path).elim "" printed

/-- The text of a part of a line. -/
def LinePart.text (s : Scope) : LinePart → String
  | .chars cs => String.ofList cs
  | .value path none => s.shown path
  | .value path (some name) => ((Filters.cases.lookup name).getD id) (s.shown path)

/-- The text of some parts of a line. -/
def lineText (s : Scope) : List LinePart → String
  | [] => ""
  | part :: parts => part.text s ++ lineText s parts

/-- The text of a line. -/
def OpeningLine.text (s : Scope) (line : OpeningLine) : String :=
  if line.blankIf.any (fun path => (s.find? path).any truthy) then "" else lineText s line.parts

/-- A part with a line break has the text of the part before it, and something after it. -/
theorem LinePart.text_of_ends {part : LinePart} (h : part.ends = true) (s : Scope) :
    ∃ rest, part.text s = part.cut.text s ++ "\n" ++ rest := by
  cases part with
  | chars cs =>
    obtain ⟨front, back, rfl, hfront⟩ := List.eq_append_cons_of_mem (of_decide_eq_true h)
    have hall : ∀ c ∈ front, decide (c ≠ '\n') = true :=
      fun c hc => decide_eq_true fun heq => hfront (heq ▸ hc)
    have htake : (front ++ '\n' :: back).takeWhile (· ≠ '\n') = front := by
      rw [List.takeWhile_append_of_pos hall, List.takeWhile_cons_of_neg (by simp), List.append_nil]
    exact ⟨String.ofList back, by rw [text, cut, text, htake, ← String.toList_inj]; simp⟩
  | value path case => cases h

/-! ## Rendering -/

section Rendering

variable {m : Model} {o : Overlay} {t : Setting} {expand : Expand} {s s' : Scope} {text : String}

/-- Nodes are rendered one after another. -/
theorem renderNodes_cons_eq_ok {n : Node} {rest : List Node}
    (h : renderNodes t expand (n :: rest) s = .ok (text, s')) : ∃ first between more,
      n.render t expand s = .ok (first, between) ∧
        renderNodes t expand rest between = .ok (more, s') ∧ text = first ++ more := by
  rw [renderNodes] at h
  cases hn : n.render t expand s with
  | error f => rw [hn] at h; cases h
  | ok p =>
    cases hrest : renderNodes t expand rest p.2 with
    | error f => simp [hn, hrest, bind, Except.bind] at h
    | ok q =>
      simp [hn, hrest, bind, Except.bind, pure, Except.pure] at h
      exact ⟨p.1, p.2, q.1, rfl, by rw [hrest, ← h.2], h.1.symm⟩

/-- What a filter that changes the case prints. -/
theorem printed_of_case (hcalls : t.calls = templateCalls m o) {path name : String} {w : Json}
    (hname : (Filters.cases.lookup name).isSome)
    (h : (Expr.filter (.variable path) name []).value t expand s = .ok w) :
    printed w = (LinePart.value path (some name)).text s := by
  obtain ⟨change, hchange⟩ := Option.isSome_iff_exists.1 hname
  rw [LinePart.text, hchange, Option.getD_some, Scope.shown]
  rw [Expr.value, Expr.value, hcalls] at h
  cases hv : s.find? path with
  | none => rw [hv] at h; cases h
  | some v =>
    cases v <;> simp [hv, applyFilter, templateCalls, hchange, offers, Offers.all,
      Except.mapError, Filters.changeCase, bind, Except.bind] at h
    rw [← h]
    rfl

/-- A node that adds a part to a line prints the text of that part. -/
theorem render_of_part (hcalls : t.calls = templateCalls m o) {n : Node} {part : LinePart}
    (h : n.part? = some part) (hrender : n.render t expand s = .ok (text, s')) :
    text = part.text s ∧ s' = s := by
  have hprinted : ∀ {x : Expr}, (Node.print x).render t expand s = .ok (text, s') →
      ∃ w, x.value t expand s = .ok w ∧ text = printed w ∧ s' = s := by
    intro x hx
    rw [Node.render] at hx
    cases hw : x.value t expand s with
    | error f => rw [hw] at hx; cases hx
    | ok w =>
      rw [hw] at hx
      obtain ⟨rfl, rfl⟩ := Prod.mk.inj (Except.ok.inj hx)
      exact ⟨w, rfl, rfl, rfl⟩
  rw [Node.part?.eq_def] at h
  split at h
  · obtain rfl := Option.some.inj h
    obtain ⟨rfl, rfl⟩ := Prod.mk.inj (Except.ok.inj hrender)
    exact ⟨rfl, rfl⟩
  · next path =>
    obtain rfl := Option.some.inj h
    obtain ⟨w, hw, rfl, rfl⟩ := hprinted hrender
    refine ⟨?_, rfl⟩
    rw [LinePart.text, Scope.shown]
    rw [Expr.value] at hw
    split at hw
    · next v hv =>
      obtain rfl := Except.ok.inj hw
      rw [hv]
      rfl
    · cases hw
  · next path name =>
    obtain ⟨hname, hpart⟩ := Option.ite_none_right_eq_some.1 h
    obtain rfl := Option.some.inj hpart
    obtain ⟨w, hw, rfl, rfl⟩ := hprinted hrender
    exact ⟨printed_of_case hcalls hname hw, rfl⟩
  · cases h

/-- **The parts that are read off some nodes are what the nodes print**, up to the line break. -/
theorem renderNodes_of_lineParts (hcalls : t.calls = templateCalls m o) {nodes : List Node}
    {parts : List LinePart} {ended : Bool} (h : lineParts? nodes = some (parts, ended))
    (hrender : renderNodes t expand nodes s = .ok (text, s')) :
    if ended then ∃ rest, text = lineText s parts ++ "\n" ++ rest
    else text = lineText s parts ∧ s' = s := by
  induction nodes generalizing parts text with
  | nil =>
    obtain ⟨rfl, rfl⟩ := Prod.mk.inj (Option.some.inj h)
    obtain ⟨rfl, rfl⟩ := Prod.mk.inj (Except.ok.inj hrender)
    exact ⟨rfl, rfl⟩
  | cons n rest ih =>
    obtain ⟨first, between, more, hn, hmore, rfl⟩ := renderNodes_cons_eq_ok hrender
    simp only [lineParts?, Option.bind_eq_bind, Option.bind_eq_some_iff] at h
    obtain ⟨part, hpart, h⟩ := h
    obtain ⟨rfl, rfl⟩ := render_of_part hcalls hpart hn
    split at h
    · next hends =>
      obtain ⟨rfl, rfl⟩ := Prod.mk.inj (Option.some.inj h)
      obtain ⟨tail, htail⟩ := part.text_of_ends hends between
      exact ⟨tail ++ more, by rw [htail]; simp [lineText, String.append_assoc]⟩
    · obtain ⟨⟨others, ended⟩, hothers, h⟩ := Option.bind_eq_some_iff.1 h
      obtain ⟨rfl, rfl⟩ := Prod.mk.inj (Option.some.inj h)
      have hrest := ih hothers hmore
      cases ended with
      | true =>
        obtain ⟨tail, rfl⟩ := hrest
        exact ⟨tail, by simp [lineText, String.append_assoc]⟩
      | false =>
        obtain ⟨rfl, rfl⟩ := hrest
        exact ⟨rfl, rfl⟩

/-- A variable is negated to whether it is absent or false. -/
theorem holds_not_variable (t : Setting) (expand : Expand) (s : Scope) (path : String) :
    (Expr.not (.variable path)).holds t expand s = .ok !(s.find? path).any truthy := by
  simp only [Expr.holds, Expr.path?, Expr.base, negatedVariable, Expr.value]
  cases s.find? path <;> rfl

/-- A line in a condition of its own is blank unless the condition holds. -/
theorem render_blank_branch (hcalls : t.calls = templateCalls m o) {path : String}
    {body : List Node} {parts : List LinePart} (h : lineParts? body = some (parts, false))
    (hrender : (Node.branch [(.not (.variable path), body)] []).render t expand s =
      .ok (text, s')) : text = OpeningLine.text s ⟨some path, parts⟩ := by
  rw [Node.render, renderCases, holds_not_variable] at hrender
  rw [OpeningLine.text, Option.any_some]
  cases htrue : (s.find? path).any truthy with
  | true =>
    rw [htrue] at hrender
    exact (Prod.mk.inj (Except.ok.inj hrender)).1.symm
  | false =>
    rw [htrue] at hrender
    cases hbody : renderNodes t expand body s with
    | error f => rw [hbody] at hrender; cases hrender
    | ok p =>
      rw [hbody] at hrender
      obtain rfl : p = (text, s') := Except.ok.inj hrender
      exact (renderNodes_of_lineParts hcalls h hbody).1

/-- **The line that is read off some nodes is the first line of their text.** -/
theorem renderNodes_of_opening (hcalls : t.calls = templateCalls m o) {nodes : List Node}
    {line : OpeningLine} (h : opening? nodes = some line)
    (hrender : renderNodes t expand nodes s = .ok (text, s')) :
    ∃ rest, text = line.text s ++ "\n" ++ rest := by
  rw [opening?.eq_def] at h
  split at h
  · next path body cs rest =>
    split at h
    · next parts hparts =>
      obtain rfl := Option.some.inj h
      obtain ⟨first, between, more, hfirst, hmore, rfl⟩ := renderNodes_cons_eq_ok hrender
      obtain ⟨chars, after, tail, hchars, -, rfl⟩ := renderNodes_cons_eq_ok hmore
      obtain ⟨rfl, rfl⟩ := Prod.mk.inj (Except.ok.inj hchars)
      refine ⟨String.ofList cs ++ tail, ?_⟩
      rw [render_blank_branch hcalls hparts hfirst, ← String.toList_inj]
      simp
    · cases h
  · split at h
    · next parts hparts =>
      obtain rfl := Option.some.inj h
      exact renderNodes_of_lineParts hcalls hparts hrender
    · cases h

/-- What is expanded is rendered, macros and embedded files one level less deep. -/
theorem expandTo_eq_ok {depth : Nat} {nodes : List Node} (h : expandTo t depth s nodes = .ok text) :
    ∃ below s', renderNodes t (expandTo t below) nodes s = .ok (text, s') := by
  cases depth with
  | zero => cases h
  | succ below =>
    rw [expandTo] at h
    cases hnodes : renderNodes t (expandTo t below) nodes s with
    | error f => rw [hnodes] at h; cases h
    | ok p =>
      rw [hnodes] at h
      obtain rfl := Except.ok.inj h
      exact ⟨below, p.2, hnodes⟩

end Rendering

end Template

namespace Engine

open Template

/-- The text of a template starts with the line that is read off it. -/
theorem text_of_opening {e : Engine} {name text : String} {t : Template} {globals : Json.Members}
    {line : OpeningLine} {m : Model} {o : Overlay} (hfind : e.template? name = some t)
    (hline : opening? t.nodes = some line)
    (hrender : e.render (templateCalls m o) name globals = .ok text) :
    ∃ rest, text = line.text (.start globals name) ++ "\n" ++ rest := by
  rw [render_eq _ hfind] at hrender
  cases hexpand : expandTo ⟨e, templateCalls m o⟩ maxDepth (.start globals name) t.nodes with
  | error f => rw [hexpand] at hrender; cases hrender
  | ok found =>
    rw [hexpand] at hrender
    obtain rfl := Except.ok.inj hrender
    obtain ⟨below, s, hnodes⟩ := expandTo_eq_ok hexpand
    exact renderNodes_of_opening rfl hline hnodes

/-- **A template that passes the check renders, and its first line is the one read off it**,
whenever the values it is given fit. -/
theorem render_of_opening {e : Engine} {name : String} {t : Template} {env : Env}
    {globals : Json.Members} {depth : Nat} {line : OpeningLine}
    (hfind : e.template? name = some t) (hdepth : depth ≤ maxDepth)
    (hsafe : isSafeTo e depth name env t.nodes = true) (hline : opening? t.nodes = some line)
    (henv : env.Fits (.start globals name)) (m : Model) (o : Overlay) :
    ∃ rest, e.render (templateCalls m o) name globals =
      .ok (line.text (.start globals name) ++ "\n" ++ rest) := by
  obtain ⟨text, htext⟩ := render_of_safe hfind hdepth hsafe henv m o
  obtain ⟨rest, rfl⟩ := text_of_opening hfind hline htext
  exact ⟨rest, htext⟩

end Engine

end InterfaceGen
