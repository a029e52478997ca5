import InterfaceGen.Generation.TemplateFile

/-!
# Generation/BuiltIn/Rust — the built-in templates for Rust

A module becomes a directory of source files, a remote class a trait, and an event a struct of its own
in the directory `events`.
-/

namespace InterfaceGen.BuiltIn.Rust

open TemplateFile (lines)

/-- The file of a module: its imports and what it declares. -/
def module : String := lines [
  "src/\x7b\x7b module.name | snake_case \x7d\x7d/mod.rs",
  "\x7b% include \"partials/header.tera\" %\x7d",
  "\x7b%- if module.doc %\x7d",
  "//! \x7b\x7b module.doc \x7d\x7d",
  "\x7b%- endif %\x7d",
  "\x7b% for import in module.imports %\x7d",
  "#[allow(unused_imports)]",
  "pub(crate) use crate::\x7b\x7b import.name | snake_case \x7d\x7d::*;",
  "\x7b%- endfor %\x7d",
  "\x7b% for def in module.aliases %\x7d",
  "mod \x7b\x7b def.name | snake_case \x7d\x7d;",
  "pub use \x7b\x7b def.name | snake_case \x7d\x7d::\x7b\x7b def.className \x7d\x7d;",
  "\x7b%- endfor %\x7d",
  "\x7b%- for def in module.enumTypes %\x7d",
  "mod \x7b\x7b def.name | snake_case \x7d\x7d;",
  "pub use \x7b\x7b def.name | snake_case \x7d\x7d::\x7b\x7b def.className \x7d\x7d;",
  "\x7b%- endfor %\x7d",
  "\x7b%- for def in module.complexTypes %\x7d",
  "mod \x7b\x7b def.name | snake_case \x7d\x7d;",
  "pub use \x7b\x7b def.name | snake_case \x7d\x7d::\x7b\x7b def.className \x7d\x7d;",
  "\x7b%- endfor %\x7d",
  "\x7b%- for def in module.remoteClasses %\x7d",
  "mod \x7b\x7b def.name | snake_case \x7d\x7d;",
  "pub use \x7b\x7b def.name | snake_case \x7d\x7d::\x7b\x7b def.className \x7d\x7d;",
  "\x7b%- endfor %\x7d",
  "\x7b%- if module.events %\x7d",
  "",
  "pub mod events \x7b",
  "\x7b%- for event in module.events %\x7d",
  "    mod \x7b\x7b event.qualifiedName | snake_case \x7d\x7d;",
  "    pub use \x7b\x7b event.qualifiedName | snake_case \x7d\x7d::\x7b\x7b event.qualifiedName \x7d\x7d;",
  "\x7b%- endfor %\x7d",
  "\x7d",
  "\x7b%- endif %\x7d"]

/-- A remote class as an interface of its methods and events. -/
def remoteClass : String := lines [
  "\x7b% import \"partials/fields.tera\" as fields -%\x7d",
  "src/\x7b\x7b module.name | snake_case \x7d\x7d/\x7b\x7b entity.name | snake_case \x7d\x7d.rs",
  "\x7b% include \"partials/header.tera\" %\x7d",
  "#[allow(unused_imports)]",
  "use super::*;",
  "#[allow(unused_imports)]",
  "use std::collections::\x7bBTreeMap, BTreeSet\x7d;",
  "\x7b% if entity.doc %\x7d",
  "/// \x7b\x7b entity.doc \x7d\x7d",
  "\x7b%- endif %\x7d",
  "pub trait \x7b\x7b entity.className \x7d\x7d\x7b% if entity.extends %\x7d: \x7b\x7b entity.extends.name | pascal_case \x7d\x7d\x7b% endif %\x7d \x7b",
  "\x7b%- if entity.constructor and not entity.isAbstract %\x7d",
  "    fn create(\x7b\x7b fields::params(fields=entity.constructor.params) \x7d\x7d) -> Self",
  "    where",
  "        Self: Sized;",
  "\x7b%- endif %\x7d",
  "\x7b%- for method in entity.methods %\x7d",
  "\x7b%- if method.doc %\x7d",
  "",
  "    /// \x7b\x7b method.doc \x7d\x7d",
  "\x7b%- endif %\x7d",
  "    fn \x7b\x7b method.name | snake_case \x7d\x7d(&self\x7b% for param in method.params %\x7d, \x7b\x7b param.name | snake_case \x7d\x7d: \x7b\x7b fields::rust_type(field=param) \x7d\x7d\x7b% endfor %\x7d)\x7b% if method.returnType %\x7d -> \x7b\x7b method.returnType | type_name \x7d\x7d\x7b% endif %\x7d;",
  "\x7b%- endfor %\x7d",
  "\x7b%- for event in entity.events %\x7d",
  "",
  "    fn on_\x7b\x7b event.name | snake_case \x7d\x7d(&self, handler: Box<dyn Fn(&events::\x7b\x7b entity.className \x7d\x7d\x7b\x7b event.name | pascal_case \x7d\x7d) + Send + Sync>);",
  "\x7b%- endfor %\x7d",
  "\x7d"]

/-- A structured type. -/
def complexType : String := lines [
  "\x7b% import \"partials/fields.tera\" as fields -%\x7d",
  "src/\x7b\x7b module.name | snake_case \x7d\x7d/\x7b\x7b entity.name | snake_case \x7d\x7d.rs",
  "\x7b% include \"partials/header.tera\" %\x7d",
  "#[allow(unused_imports)]",
  "use super::*;",
  "#[allow(unused_imports)]",
  "use std::collections::\x7bBTreeMap, BTreeSet\x7d;",
  "\x7b% if entity.doc %\x7d",
  "/// \x7b\x7b entity.doc \x7d\x7d",
  "\x7b%- endif %\x7d",
  "#[derive(Debug, Clone, PartialEq)]",
  "pub struct \x7b\x7b entity.className \x7d\x7d \x7b",
  "\x7b%- if entity.extends %\x7d",
  "    pub parent: \x7b\x7b entity.extends.name | pascal_case \x7d\x7d,",
  "\x7b%- endif %\x7d",
  "\x7b%- for field in entity.properties %\x7d",
  "\x7b%- if field.doc %\x7d",
  "    /// \x7b\x7b field.doc \x7d\x7d",
  "\x7b%- endif %\x7d",
  "    pub \x7b\x7b field.name | snake_case \x7d\x7d: \x7b\x7b fields::rust_type(field=field) \x7d\x7d,",
  "\x7b%- endfor %\x7d",
  "\x7d"]

/-- An enum type. -/
def enumType : String := lines [
  "src/\x7b\x7b module.name | snake_case \x7d\x7d/\x7b\x7b entity.name | snake_case \x7d\x7d.rs",
  "\x7b% include \"partials/header.tera\" %\x7d",
  "\x7b%- if entity.doc %\x7d",
  "/// \x7b\x7b entity.doc \x7d\x7d",
  "\x7b%- endif %\x7d",
  "#[derive(Debug, Clone, Copy, PartialEq, Eq, Hash, PartialOrd, Ord)]",
  "pub enum \x7b\x7b entity.className \x7d\x7d \x7b",
  "\x7b%- for value in entity.values %\x7d",
  "    \x7b\x7b value | pascal_case \x7d\x7d,",
  "\x7b%- endfor %\x7d",
  "\x7d",
  "",
  "impl \x7b\x7b entity.className \x7d\x7d \x7b",
  "    pub fn as_str(&self) -> &'static str \x7b",
  "        match self \x7b",
  "\x7b%- for value in entity.values %\x7d",
  "            \x7b\x7b entity.className \x7d\x7d::\x7b\x7b value | pascal_case \x7d\x7d => \"\x7b\x7b value \x7d\x7d\",",
  "\x7b%- endfor %\x7d",
  "        \x7d",
  "    \x7d",
  "\x7d"]

/-- An alias of a primitive. -/
def aliasType : String := lines [
  "src/\x7b\x7b module.name | snake_case \x7d\x7d/\x7b\x7b entity.name | snake_case \x7d\x7d.rs",
  "\x7b% include \"partials/header.tera\" %\x7d",
  "\x7b%- if entity.doc %\x7d",
  "/// \x7b\x7b entity.doc \x7d\x7d",
  "\x7b%- endif %\x7d",
  "pub type \x7b\x7b entity.className \x7d\x7d = \x7b\x7b entity.target | type_name \x7d\x7d;"]

/-- The payload of an event. -/
def event : String := lines [
  "\x7b% import \"partials/fields.tera\" as fields -%\x7d",
  "src/\x7b\x7b module.name | snake_case \x7d\x7d/events/\x7b\x7b entity.qualifiedName | snake_case \x7d\x7d.rs",
  "\x7b% include \"partials/header.tera\" %\x7d",
  "#[allow(unused_imports)]",
  "use super::super::*;",
  "#[allow(unused_imports)]",
  "use std::collections::\x7bBTreeMap, BTreeSet\x7d;",
  "",
  "/// Raised by [`\x7b\x7b entity.ownerName \x7d\x7d`]\x7b% if entity.doc %\x7d: \x7b\x7b entity.doc \x7d\x7d\x7b% endif %\x7d",
  "#[derive(Debug, Clone, PartialEq)]",
  "pub struct \x7b\x7b entity.qualifiedName \x7d\x7d \x7b",
  "\x7b%- for field in entity.properties %\x7d",
  "    pub \x7b\x7b field.name | snake_case \x7d\x7d: \x7b\x7b fields::rust_type(field=field) \x7d\x7d,",
  "\x7b%- endfor %\x7d",
  "\x7d"]

/-- The comment every file starts with. -/
def header : String := lines [
  "// Generated by \x7b\x7b generator.name \x7d\x7d \x7b\x7b generator.version \x7d\x7d from \x7b\x7b module.name \x7d\x7d \x7b\x7b module.version \x7d\x7d. Do not edit.",
  "\x7b%- if config.license is defined %\x7d",
  "// License: \x7b\x7b config.license \x7d\x7d",
  "\x7b%- endif %\x7d"]

/-- How fields and parameters are spelled. -/
def fields : String := lines [
  "\x7b% macro rust_type(field) -%\x7d",
  "\x7b%- if field.optional -%\x7d",
  "Option<\x7b\x7b field.dataType | type_name \x7d\x7d>",
  "\x7b%- else -%\x7d",
  "\x7b\x7b field.dataType | type_name \x7d\x7d",
  "\x7b%- endif -%\x7d",
  "\x7b%- endmacro rust_type %\x7d",
  "",
  "\x7b% macro params(fields) -%\x7d",
  "\x7b%- for param in fields -%\x7d",
  "\x7b%- if not loop.first %\x7d, \x7b% endif -%\x7d",
  "\x7b\x7b param.name | snake_case \x7d\x7d: \x7b\x7b self::rust_type(field=param) \x7d\x7d",
  "\x7b%- endfor -%\x7d",
  "\x7b%- endmacro params %\x7d"]

/-- The files of the set. -/
def files : List TemplateFile := [
  ⟨"module.tera", module⟩,
  ⟨"remoteClass.tera", remoteClass⟩,
  ⟨"complexType.tera", complexType⟩,
  ⟨"enumType.tera", enumType⟩,
  ⟨"alias.tera", aliasType⟩,
  ⟨"event.tera", event⟩,
  ⟨"partials/header.tera", header⟩,
  ⟨"partials/fields.tera", fields⟩]

end InterfaceGen.BuiltIn.Rust
