import ApiBindings.Data.JsonValue
import ApiBindings.Generation
set_option autoImplicit false

namespace ApiBindings

open Data (JsonValue)

structure ManifestParameter where
  name : String
  type : String
  variadic : Bool
deriving DecidableEq, Repr

structure ManifestEntry where
  name : String
  method : String
  path : String
  parameters : List ManifestParameter
  results : List String
deriving DecidableEq, Repr

namespace ManifestEntry

def ofOperation (operation : CompiledOperation) : ManifestEntry where
  name := operation.signature.name
  method := operation.method.name
  path := operation.path
  parameters := operation.signature.parameters.map fun p => ⟨p.name, p.type.render, p.variadic⟩
  results := operation.signature.results.map TypeExpr.render

end ManifestEntry

def Generated.manifest (generated : Generated) : List ManifestEntry :=
  generated.operations.map ManifestEntry.ofOperation

namespace ManifestParameter

def json (p : ManifestParameter) : JsonValue :=
  .record ([("name", .text p.name), ("type", .text p.type)] ++
    if p.variadic then [("variadic", .flag true)] else [])

end ManifestParameter

def ManifestEntry.json (e : ManifestEntry) : JsonValue :=
  .record [
    ("name", .text e.name),
    ("method", .text e.method),
    ("path", .text e.path),
    ("params", .list (e.parameters.map ManifestParameter.json)),
    ("returns", .list (e.results.map .text))]

def Generated.manifestText (generated : Generated) : String :=
  (JsonValue.list (generated.manifest.map ManifestEntry.json)).pretty ++ "\n"

end ApiBindings
