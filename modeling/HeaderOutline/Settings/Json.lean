import HeaderOutline.Json
import HeaderOutline.Settings.Basic

/-! The data form of settings. Only a group's directory has to be given; paths are written as spelled. -/
namespace HeaderOutline

def Path.json (path : Path) : Json := .str path.text

def Path.ofJson? (json : Json) : Option Path := json.str?.map Path.mk

def HeaderGroup.json (group : HeaderGroup) : Json :=
  .obj [("directory", group.directory.json), ("headers", .strings group.headers),
    ("discover", .bool group.discover)]

def HeaderGroup.ofJson? (json : Json) : Option HeaderGroup := do
  let fields ← json.fields? 3
  let directory ← fields.required 0 "directory" Path.ofJson?
  let headers ← fields.withDefault 1 "headers" [] (Json.list? Json.str?)
  let discover ← fields.withDefault 2 "discover" false Json.bool?
  some ⟨directory, headers, discover⟩

namespace Settings

def textField? : String × Json → Option (String × String)
  | (name, json) => json.str?.map fun value => (name, value)

def predefinedOfJson? : Json → Option (Dictionary String)
  | .obj fields => (fields.mapM textField?).map Dictionary.ofList
  | _ => none

def json (settings : Settings) : Json :=
  .obj [("headers", .arr (settings.headers.map HeaderGroup.json)),
    ("include_dirs", .arr (settings.includeDirs.map Path.json)),
    ("macros", .strings settings.macros),
    ("predefined", .obj (settings.predefined.entries.map fun entry => (entry.1, .str entry.2))),
    ("clang_args", .strings settings.frontEndArguments),
    ("input_name", .str settings.inputName),
    ("index_symbols", .bool settings.indexSymbols)]

def ofJson? (json : Json) : Option Settings := do
  let fields ← json.fields? 7
  let headers ← fields.withDefault 0 "headers" default.headers (Json.list? HeaderGroup.ofJson?)
  let includeDirs ← fields.withDefault 1 "include_dirs" default.includeDirs (Json.list? Path.ofJson?)
  let macros ← fields.withDefault 2 "macros" default.macros (Json.list? Json.str?)
  let predefined ← fields.withDefault 3 "predefined" default.predefined predefinedOfJson?
  let frontEndArguments ←
    fields.withDefault 4 "clang_args" default.frontEndArguments (Json.list? Json.str?)
  let inputName ← fields.withDefault 5 "input_name" default.inputName Json.str?
  let indexSymbols ← fields.withDefault 6 "index_symbols" default.indexSymbols Json.bool?
  some ⟨headers, includeDirs, macros, predefined, frontEndArguments, inputName, indexSymbols⟩

end Settings

end HeaderOutline
