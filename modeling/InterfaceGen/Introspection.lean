import InterfaceGen.Model.Writer
import InterfaceGen.Overlay

/-!
# Introspection — the values that keys have in each local module

The modules come in dependency order and the keys as they were asked for. A key that nothing gives a
value is reported as undefined, which is not an error.
-/

namespace InterfaceGen

/-- The value of a key in a module. -/
structure Introspection.Entry where
  module : String
  key : String
  value : Option Json
  deriving Repr

/-- The values of some keys in all local modules. -/
abbrev Introspection := List Introspection.Entry

namespace Introspection

/-- What stands for the value of a key without one. -/
def undefined : String := "<undefined>"

/-- The line that reports an entry. -/
def Entry.text (e : Entry) : String :=
  let value := match e.value with
    | some v => v.text
    | none => undefined
  e.module ++ ": " ++ e.key ++ " = " ++ value

/-- The values of `keys` in every local module. -/
def ofModel (m : Model) (o : Overlay) (keys : List String) : Introspection :=
  m.localModules.flatMap fun d =>
    keys.map fun key => ⟨d.name, key, o.lookup d.name key d.valueSpace⟩

/-- The report, an entry on a line. -/
def text (i : Introspection) : String := "".intercalate (i.map (·.text ++ "\n"))

end Introspection

end InterfaceGen
