import ApiBindings.Data.Toml.Document
import ApiBindings.Files.Path
import ApiBindings.Formatter
set_option autoImplicit false

namespace ApiBindings

open Data.Toml (Item)

structure TypesConfig where
  output : String
  package : Option String := none
deriving DecidableEq, Repr

structure OperationsConfig where
  output : String
  package : Option String := none
  manifest : Option String := none
deriving DecidableEq, Repr

structure Config where
  input : String
  formatter : FormatterKind := .auto
  types : Option TypesConfig := none
  operations : Option OperationsConfig := none
deriving DecidableEq, Repr

inductive ConfigError where
  | unreadable (path : String) (cause : AccessError)
  | invalid (path : String)
  | noUnits (path : String)
deriving DecidableEq, Repr

def ConfigError.message : ConfigError → String
  | .unreadable path cause => s!"failed to read config {path}: {cause.message}"
  | .invalid path => s!"invalid config {path}: TOML parse error"
  | .noUnits path => s!"config {path} names no unit; add a [types] or [operations] table"

def itemText? : Item → Option String
  | .text s => some s
  | _ => none

def itemFields? (known : List String) : Item → Option (List (String × Item))
  | .record entries | .table _ entries =>
    if entries.all fun entry => known.contains entry.1 then some entries else none
  | .list items => if known.length ≤ items.length then some (known.zip items) else none
  | _ => none

def requiredText? (fields : List (String × Item)) (key : String) : Option String :=
  (fields.lookup key).bind itemText?

def optionalText? (fields : List (String × Item)) (key : String) : Option (Option String) :=
  match fields.lookup key with
  | some item => (itemText? item).map some
  | none => some none

def itemIsEmpty : Item → Bool
  | .list [] | .record [] | .table _ [] | .tables [] => true
  | _ => false

def FormatterKind.ofItem? : Item → Option FormatterKind
  | .text name => FormatterKind.ofName? name
  | .record [(name, item)] | .table _ [(name, item)] =>
    if itemIsEmpty item then FormatterKind.ofName? name else none
  | _ => none

def TypesConfig.ofItem? (item : Item) : Option TypesConfig := do
  let fields ← itemFields? ["output", "package"] item
  return { output := ← requiredText? fields "output", package := ← optionalText? fields "package" }

def OperationsConfig.ofItem? (item : Item) : Option OperationsConfig := do
  let fields ← itemFields? ["output", "package", "manifest"] item
  return {
    output := ← requiredText? fields "output"
    package := ← optionalText? fields "package"
    manifest := ← optionalText? fields "manifest" }

namespace Config

def ofItem? (item : Item) : Option Config := do
  let fields ← itemFields? ["input", "formatter", "types", "operations"] item
  return {
    input := ← requiredText? fields "input"
    formatter := ← match fields.lookup "formatter" with
      | some item => FormatterKind.ofItem? item
      | none => some .auto
    types := ← match fields.lookup "types" with
      | some item => (TypesConfig.ofItem? item).map some
      | none => some none
    operations := ← match fields.lookup "operations" with
      | some item => (OperationsConfig.ofItem? item).map some
      | none => some none }

def seenFrom (config : Config) (directory : String) : Config where
  input := Path.join directory config.input
  formatter := config.formatter
  types := config.types.map fun types => { types with output := Path.join directory types.output }
  operations := config.operations.map fun operations =>
    { operations with
      output := Path.join directory operations.output
      manifest := operations.manifest.map (Path.join directory) }

def read (path text : String) : Except ConfigError Config :=
  match (Data.Toml.read? text).bind fun entries => ofItem? (.record entries) with
  | none => .error (.invalid path)
  | some config =>
    if config.types.isNone && config.operations.isNone then .error (.noUnits path)
    else .ok (config.seenFrom (Path.parent path))

def load (path : String) (content : Except AccessError String) : Except ConfigError Config :=
  match content with
  | .ok text => read path text
  | .error cause => .error (.unreadable path cause)

end Config

end ApiBindings
