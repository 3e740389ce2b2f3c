import ApiBindings.Operation.Basic
import ApiBindings.Operation.Finder
import ApiBindings.Operation.Options
import ApiBindings.Operation.Path
set_option autoImplicit false

namespace ApiBindings

structure Payload where
  type : TypeExpr
  isObject : Bool
  declared : Option String := none

variable (components : Components)

def payload (operation role : String) (s : Schema) : Build Payload := do
  match s.bareReference with
  | some path =>
    let name ← Build.check operation (components.typeName path)
    let isObject ← Build.check operation (components.isObjectRef s)
    return { type := .named name, isObject }
  | none =>
    match s.arrayOfReference with
    | some path =>
      let name ← Build.check operation (components.typeName path)
      return { type := .slice (.named name), isObject := false }
    | none =>
      let name ← Build.claim (operation ++ role)
      render components name s
      return { type := .named name, isObject := (← get).isRecord name, declared := some name }

def pathVariables (operation : String) : List BoundParameter → Build (List Variable)
  | [] => pure []
  | bound :: rest => do
    let type ← match bound.parameter.schema with
      | some schema => valueType components (operation ++ Naming.exported bound.wire) schema
      | none => pure (.named "string")
    let others ← pathVariables operation rest
    return { name := bound.ident, type } :: others

def bodyPayload (operation : String) : Option Schema → Build (Option Payload)
  | some schema => some <$> payload components operation "Request" schema
  | none => pure none

def claimOption (operation : String) (query : List Parameter) : Build (Option String) :=
  if query.isEmpty then pure none else some <$> Build.claim (optionTypeName operation)

def clientMethod (entry : Document.Entry) (path : PathExpr) (inPath : List Variable) (body : Option Payload)
    (option : Option String) (response : Payload) : Function :=
  let binding : ResponseBinding := { type := response.type, byPointer := response.isObject }
  let inBody := match body with
    | some body =>
      [{ name := "body", type := if body.isObject then body.type.toPointer else body.type : Variable }]
    | none => []
  let inQuery := match option with
    | some option => [{ name := "opts", type := .named option, variadic := true : Variable }]
    | none => []
  { name := entry.name
    doc := some (operationDoc entry.name entry.method entry.path entry.operation)
    receiver := some { name := "c", type := .pointer (.named "Client") }
    parameters := { name := "ctx", type := .named "context.Context" } :: inPath ++ inBody ++ inQuery
    results := [binding.result, .named "error"]
    body := .call {
      method := entry.method
      path
      body := body.map fun _ => "body"
      options := option.map fun _ => "opts"
      response := binding } }

def declareOptionsOf (operation : String) (query : List Parameter) : Option String → Build Unit
  | some option => declareOptions components operation option query
  | none => pure ()

def declareFinderOf (operation : String) (response : Payload) (s : Schema) : Build Unit :=
  match response.declared with
  | some declared => if response.isObject then declareFinder components operation declared s else pure ()
  | none => pure ()

def compileOperation (earlier : List String) (entry : Document.Entry) : Build Outcome :=
  let { path, item, method, operation } := entry
  let name := entry.name
  if name ∈ earlier then throw (.malformed name (.duplicateOperation method path))
  else match operation.responseSchema with
    | none => pure (.skipped { name, method, path, reason := "no JSON content for status 200" })
    | some responseSchema => do
      let parameters ← Build.check name (mergedParameters components item operation)
      let bound := bindPathParameters {} parameters
      let inPath ← pathVariables components name bound
      let body ← bodyPayload components name operation.bodySchema
      let query := parameters.filter (·.location = "query")
      let option ← claimOption name query
      let response ← payload components name "Response" responseSchema
      match PathExpr.ofTemplate path bound with
      | .error cause => throw (.malformed name cause)
      | .ok pathExpr =>
        let signature := clientMethod entry pathExpr inPath body option response
        Build.push signature
        declareOptionsOf components name query option
        declareFinderOf components name response responseSchema
        return .emitted { method, path, signature }

end ApiBindings
