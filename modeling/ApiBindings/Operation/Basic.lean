import ApiBindings.Naming
import ApiBindings.Shape.Reference
import ApiBindings.Text.Lines
import ApiBindings.Unit.Function
set_option autoImplicit false

namespace ApiBindings

structure SkippedOperation where
  name : String
  method : Method
  path : String
  reason : String
deriving DecidableEq, Repr

structure CompiledOperation where
  method : Method
  path : String
  signature : Function

inductive Outcome where
  | emitted (operation : CompiledOperation)
  | skipped (operation : SkippedOperation)

-- Segments of a path that are not empty; `segment` holds the open one, last
-- character first.
def segmentsFrom (segment : List Char) : List Char → List (List Char)
  | [] => if segment.isEmpty then [] else [segment.reverse]
  | c :: rest =>
    if c = '/' then
      if segment.isEmpty then segmentsFrom [] rest else segment.reverse :: segmentsFrom [] rest
    else segmentsFrom (c :: segment) rest

def segmentWords (segment : List Char) : List (List Char) :=
  match segment with
  | '{' :: rest =>
    if rest.getLast? = some '}' then [['b', 'y'], rest.dropLast] else [segment]
  | _ => [segment]

def operationName (id : Option String) (method : Method) (path : String) : String :=
  match id.filter fun id => !(Text.trim id.toList).isEmpty with
  | some id => Naming.exported id
  | none =>
    let words := Text.lower method.name.toList :: (segmentsFrom [] path.toList).flatMap segmentWords
    Naming.exported (String.ofList (['_'].intercalate words))

def Document.Entry.name (entry : Document.Entry) : String :=
  operationName entry.operation.id entry.method entry.path

def isJsonMedia (media : List Char) : Bool :=
  let essence := Text.trim (media.takeWhile (· ≠ ';'))
  essence = "application/json".toList || "+json".toList.isSuffixOf essence

def Content.jsonSchema (content : Content) : Option Schema :=
  match content.lookup "application/json" with
  | some schema => schema
  | none => ((content.find? fun entry => isJsonMedia entry.1.toList).map (·.2)).join

def Operation.responseSchema (operation : Operation) : Option Schema :=
  (operation.responses.lookup "200").bind fun response => Content.jsonSchema response.content

def Operation.bodySchema (operation : Operation) : Option Schema :=
  operation.requestBody.bind fun body => Content.jsonSchema body.content

def mergeParameter (merged : List Parameter) (parameter : Parameter) : List Parameter :=
  match merged with
  | [] => [parameter]
  | other :: rest =>
    if other.name = parameter.name ∧ other.location = parameter.location then parameter :: rest
    else other :: mergeParameter rest parameter

def isPathOrQuery (parameter : Parameter) : Bool :=
  parameter.location = "path" || parameter.location = "query"

def mergedParameters (components : Components) (item : PathItem) (operation : Operation) :
    Except Defect (List Parameter) := do
  let parameters ← (item.parameters ++ operation.parameters).mapM components.parameter
  return (parameters.filter isPathOrQuery).foldl mergeParameter []

def operationDoc (name : String) (method : Method) (path : String) (operation : Operation) : String :=
  let linesOf (text : Option String) := (text.map fun text => Text.docLines text.toList).getD []
  let summary := linesOf operation.summary
  let detail := if summary.isEmpty then linesOf operation.description else summary
  let first := s!"{name} performs {method.name} {path}."
  "\n".intercalate (first :: (if detail.isEmpty then [] else "" :: detail.map String.ofList))

end ApiBindings
