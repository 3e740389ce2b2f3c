import ApiBindings.Rendering.Basic
set_option autoImplicit false

namespace ApiBindings

def optionTypeName (operation : String) : String := operation ++ "Option"

def constructorDoc (constructor : String) (parameter : Parameter) : String :=
  let name := String.ofList (Text.quotedText parameter.name.toList)
  let detail := match parameter.description with
    | some text => (Text.docLines text.toList).map String.ofList
    | none => []
  "\n".intercalate (s!"{constructor} sets the {name} query parameter." :: detail)

def optionConstructor (operation option suffix : String) (parameter : Parameter) (type : TypeExpr) : Function :=
  let constructor := operation ++ "With" ++ suffix
  { name := constructor
    doc := some (constructorDoc constructor parameter)
    parameters := [{ name := "v", type }]
    results := [.named option]
    body := .queryOption parameter.name type.isSlice }

def pushConstructors (components : Components) (operation option : String) (names : Names) :
    List Parameter → Build Unit
  | [] => pure ()
  | parameter :: rest => do
    let (suffix, names) := names.claim (Naming.exported parameter.name)
    let type ← match parameter.schema with
      | some schema => valueType components (operation ++ suffix) schema
      | none => pure (.named "string")
    Build.push (optionConstructor operation option suffix parameter type)
    pushConstructors components operation option names rest

def optionDeclaration (operation option : String) : Declaration where
  name := option
  doc := some s!"{option} sets one query parameter of a {operation} request."
  shape := .function [.named "url.Values"]

def declareOptions (components : Components) (operation option : String) (query : List Parameter) :
    Build Unit := do
  Build.declare (optionDeclaration operation option)
  pushConstructors components operation option {} query

end ApiBindings
