import InterfaceGen.Generation.TemplateFile

/-!
# Generation/BuiltIn/TypeScript — the built-in templates for TypeScript

A module becomes a directory with an index, a remote class an interface with a factory beside it,
and an event an interface of its own in the directory `events`.
-/

namespace InterfaceGen.BuiltIn.TypeScript

open TemplateFile (lines)

/-- The index file of a module. -/
def moduleIndex : String := lines [
  "\x7b\x7b module.name \x7d\x7d/index.ts",
  "\x7b% include \"partials/header.tera\" %\x7d",
  "\x7b%- if module.doc %\x7d",
  "/** \x7b\x7b module.doc \x7d\x7d */",
  "\x7b%- endif %\x7d",
  "\x7b% for def in module.aliases %\x7d",
  "export type \x7b \x7b\x7b def.className \x7d\x7d \x7d from './\x7b\x7b def.className \x7d\x7d';",
  "\x7b%- endfor %\x7d",
  "\x7b%- for def in module.enumTypes %\x7d",
  "export \x7b \x7b\x7b def.className \x7d\x7d \x7d from './\x7b\x7b def.className \x7d\x7d';",
  "\x7b%- endfor %\x7d",
  "\x7b%- for def in module.complexTypes %\x7d",
  "export type \x7b \x7b\x7b def.className \x7d\x7d \x7d from './\x7b\x7b def.className \x7d\x7d';",
  "\x7b%- endfor %\x7d",
  "\x7b%- for def in module.remoteClasses %\x7d",
  "export type \x7b \x7b\x7b def.className \x7d\x7d \x7d from './\x7b\x7b def.className \x7d\x7d';",
  "\x7b%- if not def.isAbstract %\x7d",
  "export type \x7b \x7b\x7b def.className \x7d\x7dFactory \x7d from './create\x7b\x7b def.className \x7d\x7d';",
  "\x7b%- endif %\x7d",
  "\x7b%- endfor %\x7d",
  "\x7b%- for event in module.events %\x7d",
  "export type \x7b \x7b\x7b event.qualifiedName \x7d\x7d \x7d from './events/\x7b\x7b event.qualifiedName \x7d\x7d';",
  "\x7b%- endfor %\x7d"]

/-- A remote class as an interface of its methods and events. -/
def remoteClass : String := lines [
  "\x7b\x7b module.name \x7d\x7d/\x7b\x7b entity.className \x7d\x7d.ts",
  "\x7b% include \"partials/header.tera\" %\x7d",
  "\x7b%- if entity.doc %\x7d",
  "/** \x7b\x7b entity.doc \x7d\x7d */",
  "\x7b%- endif %\x7d",
  "export interface \x7b\x7b entity.className \x7d\x7d\x7b% if entity.extends %\x7d extends \x7b\x7b entity.extends.name | pascal_case \x7d\x7d\x7b% endif %\x7d \x7b",
  "\x7b%- for method in entity.methods %\x7d",
  "\x7b%- if method.doc %\x7d",
  "  /** \x7b\x7b method.doc \x7d\x7d */",
  "\x7b%- endif %\x7d",
  "  \x7b\x7b method.name | camel_case \x7d\x7d(\x7b% for param in method.params %\x7d\x7b% if not loop.first %\x7d, \x7b% endif %\x7d\x7b\x7b param.name | camel_case \x7d\x7d\x7b% if param.optional %\x7d?\x7b% endif %\x7d: \x7b\x7b param.dataType | type_name(lang=\"typescript\") \x7d\x7d\x7b% endfor %\x7d): Promise<\x7b% if method.returnType %\x7d\x7b\x7b method.returnType | type_name(lang=\"typescript\") \x7d\x7d\x7b% else %\x7dvoid\x7b% endif %\x7d>;",
  "\x7b%- endfor %\x7d",
  "\x7b%- for event in entity.events %\x7d",
  "  on\x7b\x7b event.name | pascal_case \x7d\x7d(listener: (event: \x7b\x7b entity.className \x7d\x7d\x7b\x7b event.name | pascal_case \x7d\x7d) => void): void;",
  "\x7b%- endfor %\x7d",
  "\x7d"]

/-- The factory of a remote class that is not abstract. -/
def remoteClassFactory : String := lines [
  "\x7b% if not entity.isAbstract %\x7d\x7b\x7b module.name \x7d\x7d/create\x7b\x7b entity.className \x7d\x7d.ts\x7b% endif %\x7d",
  "\x7b% include \"partials/header.tera\" %\x7d",
  "import type \x7b \x7b\x7b entity.className \x7d\x7d \x7d from './\x7b\x7b entity.className \x7d\x7d';",
  "",
  "export type \x7b\x7b entity.className \x7d\x7dFactory = (",
  "\x7b%- if entity.constructor %\x7d",
  "\x7b%- for param in entity.constructor.params %\x7d\x7b% if not loop.first %\x7d, \x7b% endif %\x7d\x7b\x7b param.name | camel_case \x7d\x7d\x7b% if param.optional %\x7d?\x7b% endif %\x7d: \x7b\x7b param.dataType | type_name(lang=\"typescript\") \x7d\x7d\x7b% endfor %\x7d",
  "\x7b%- endif -%\x7d",
  ") => Promise<\x7b\x7b entity.className \x7d\x7d>;"]

/-- A structured type. -/
def complexType : String := lines [
  "\x7b\x7b module.name \x7d\x7d/\x7b\x7b entity.className \x7d\x7d.ts",
  "\x7b% include \"partials/header.tera\" %\x7d",
  "\x7b%- if entity.doc %\x7d",
  "/** \x7b\x7b entity.doc \x7d\x7d */",
  "\x7b%- endif %\x7d",
  "export interface \x7b\x7b entity.className \x7d\x7d\x7b% if entity.extends %\x7d extends \x7b\x7b entity.extends.name | pascal_case \x7d\x7d\x7b% endif %\x7d \x7b",
  "\x7b%- for field in entity.properties %\x7d",
  "\x7b%- if field.doc %\x7d",
  "  /** \x7b\x7b field.doc \x7d\x7d */",
  "\x7b%- endif %\x7d",
  "  \x7b\x7b field.name | camel_case \x7d\x7d\x7b% if field.optional %\x7d?\x7b% endif %\x7d: \x7b\x7b field.dataType | type_name(lang=\"typescript\") \x7d\x7d;",
  "\x7b%- endfor %\x7d",
  "\x7d"]

/-- An enum type. -/
def enumType : String := lines [
  "\x7b\x7b module.name \x7d\x7d/\x7b\x7b entity.className \x7d\x7d.ts",
  "\x7b% include \"partials/header.tera\" %\x7d",
  "\x7b%- if entity.doc %\x7d",
  "/** \x7b\x7b entity.doc \x7d\x7d */",
  "\x7b%- endif %\x7d",
  "export enum \x7b\x7b entity.className \x7d\x7d \x7b",
  "\x7b%- for value in entity.values %\x7d",
  "  \x7b\x7b value | pascal_case \x7d\x7d = '\x7b\x7b value \x7d\x7d',",
  "\x7b%- endfor %\x7d",
  "\x7d"]

/-- An alias of a primitive. -/
def aliasType : String := lines [
  "\x7b\x7b module.name \x7d\x7d/\x7b\x7b entity.className \x7d\x7d.ts",
  "\x7b% include \"partials/header.tera\" %\x7d",
  "\x7b%- if entity.doc %\x7d",
  "/** \x7b\x7b entity.doc \x7d\x7d */",
  "\x7b%- endif %\x7d",
  "export type \x7b\x7b entity.className \x7d\x7d = \x7b\x7b entity.target | type_name(lang=\"typescript\") \x7d\x7d;"]

/-- The payload of an event. -/
def event : String := lines [
  "\x7b\x7b module.name \x7d\x7d/events/\x7b\x7b entity.qualifiedName \x7d\x7d.ts",
  "\x7b% include \"partials/header.tera\" %\x7d",
  "",
  "/** Raised by \x7b\x7b entity.ownerName \x7d\x7d\x7b% if entity.doc %\x7d: \x7b\x7b entity.doc \x7d\x7d\x7b% endif %\x7d */",
  "export interface \x7b\x7b entity.qualifiedName \x7d\x7d \x7b",
  "\x7b%- for field in entity.properties %\x7d",
  "  \x7b\x7b field.name | camel_case \x7d\x7d\x7b% if field.optional %\x7d?\x7b% endif %\x7d: \x7b\x7b field.dataType | type_name(lang=\"typescript\") \x7d\x7d;",
  "\x7b%- endfor %\x7d",
  "\x7d"]

/-- The comment every file starts with. -/
def header : String := lines [
  "// Generated by \x7b\x7b generator.name \x7d\x7d \x7b\x7b generator.version \x7d\x7d from \x7b\x7b module.name \x7d\x7d \x7b\x7b module.version \x7d\x7d. Do not edit.",
  "\x7b%- if config.license is defined %\x7d",
  "// License: \x7b\x7b config.license \x7d\x7d",
  "\x7b%- endif %\x7d"]

/-- The files of the set. -/
def files : List TemplateFile := [
  ⟨"module_index.tera", moduleIndex⟩,
  ⟨"remoteClass.tera", remoteClass⟩,
  ⟨"remoteClass_factory.tera", remoteClassFactory⟩,
  ⟨"complexType.tera", complexType⟩,
  ⟨"enumType.tera", enumType⟩,
  ⟨"alias.tera", aliasType⟩,
  ⟨"event.tera", event⟩,
  ⟨"partials/header.tera", header⟩]

end InterfaceGen.BuiltIn.TypeScript
