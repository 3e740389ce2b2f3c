import ApiBindings.Data.Json
import ApiBindings.Data.Yaml.Node
import ApiBindings.Document.Basic
import ApiBindings.Failure
set_option autoImplicit false

namespace ApiBindings

open Data (Node Decoder)

namespace TypeNames

def decode (depth : Nat) (node : Node) : Decoder TypeNames := do
  match ← Decoder.target node with
  | .scalar { atom? := some (.text name), .. } => return .single name
  | .list false items =>
    if depth = 0 then failure
    else .several <$> items.mapM fun item => do
      match ← Decoder.atom item with
      | .text name => pure name
      | _ => failure
  | _ => failure

end TypeNames

def EnumValue.ofAtom : Data.Atom → EnumValue
  | .text s => .text s
  | .integer n => if Data.fitsSigned n then .integer n else .double (.ofInt n)
  | .double x => .double x
  | .flag b => .flag b
  | .null => .null

def EnumValue.decode (node : Node) : Decoder EnumValue := ofAtom <$> Decoder.atom node

def ExclusiveBound.decode (node : Node) : Decoder ExclusiveBound := do
  match ← Decoder.atom node with
  | .flag b => return .flag b
  | .integer n => return .value (.ofInt n)
  | .double x => return .value x
  | _ => failure

namespace Schema

def fieldNames : List String := [
  "type", "$ref", "title", "description", "format", "enum", "properties", "required", "items",
  "additionalProperties", "nullable", "anyOf", "oneOf", "allOf", "minimum", "maximum",
  "exclusiveMinimum", "exclusiveMaximum", "minLength", "maxLength", "minItems", "maxItems"]

def decodeLimits (f : Decoder.Fields) : Decoder Limits := do
  return {
    minimum := ← f.optional "minimum" Decoder.double
    maximum := ← f.optional "maximum" Decoder.double
    exclusiveMinimum := ← f.optional "exclusiveMinimum" ExclusiveBound.decode
    exclusiveMaximum := ← f.optional "exclusiveMaximum" ExclusiveBound.decode
    minLength := ← f.optional "minLength" Decoder.natural
    maxLength := ← f.optional "maxLength" Decoder.natural
    minItems := ← f.optional "minItems" Decoder.natural
    maxItems := ← f.optional "maxItems" Decoder.natural }

def decodeOther (depth : Nat) (schema : Node → Decoder Schema) (node : Node) :
    Decoder OtherProperties := do
  match ← Decoder.settle depth node with
  | .scalar { flag? := some b, .. } => return .allowed b
  | node => .schema <$> schema node

def decodeWith (depth : Nat) (member nested : Node → Decoder Schema) (node : Node) : Decoder Schema := do
  let f ← Decoder.fields depth fieldNames node
  let inner := depth - 1
  return {
    type := ← f.optional "type" (TypeNames.decode inner)
    ref := ← f.optional "$ref" Decoder.text
    title := ← f.optional "title" Decoder.text
    description := ← f.optional "description" Decoder.text
    format := ← f.optional "format" Decoder.text
    enumValues := ← f.optional "enum" (Decoder.list inner EnumValue.decode)
    properties := ← f.optional "properties" (Decoder.dictionary inner member)
    required := ← f.optional "required" (Decoder.list inner Decoder.text)
    items := ← f.optional "items" nested
    additional := ← f.optional "additionalProperties" (decodeOther inner nested)
    nullable := ← f.optional "nullable" Decoder.flag
    anyOf := ← f.optional "anyOf" (Decoder.list inner member)
    oneOf := ← f.optional "oneOf" (Decoder.list inner member)
    allOf := ← f.optional "allOf" (Decoder.list inner member)
    limits := ← decodeLimits f }

def decode : Nat → Node → Decoder Schema
  | 0 => decodeWith 0 (fun _ => failure) (fun _ => failure)
  | 1 => decodeWith 1 (fun _ => failure) (decode 0)
  | depth + 2 => decodeWith (depth + 2) (decode depth) (decode (depth + 1))

end Schema

def decodeContent (depth : Nat) : Node → Decoder Content :=
  Decoder.dictionary depth fun node => do
    let f ← Decoder.fields (depth - 1) ["schema"] node
    f.optional "schema" (Schema.decode (depth - 2))

def Parameter.decode (depth : Nat) (node : Node) : Decoder Parameter := do
  let f ← Decoder.fields depth ["name", "in", "required", "description", "schema"] node
  return {
    name := ← f.required "name" Decoder.text
    location := ← f.required "in" Decoder.text
    required := ← f.defaulted "required" false Decoder.flag
    description := ← f.optional "description" Decoder.text
    schema := ← f.optional "schema" (Schema.decode (depth - 1)) }

def decodeReference (depth : Nat) (node : Node) : Decoder String := do
  match node with
  | .record .. => (← Decoder.fields depth ["$ref"] node).required "$ref" Decoder.text
  | _ => failure

def ParameterEntry.decode (depth : Nat) (node : Node) : Decoder ParameterEntry := do
  let node ← Decoder.settle depth node
  (.reference <$> decodeReference depth node) <|> (.inline <$> Parameter.decode depth node)

def decodeParameters (depth : Nat) : Node → Decoder (List ParameterEntry) :=
  Decoder.list depth (ParameterEntry.decode (depth - 1))

def RequestBody.decode (depth : Nat) (node : Node) : Decoder RequestBody := do
  let f ← Decoder.fields depth ["required", "content"] node
  return {
    required := ← f.defaulted "required" false Decoder.flag
    content := ← f.defaulted "content" [] (decodeContent (depth - 1)) }

def Response.decode (depth : Nat) (node : Node) : Decoder Response := do
  let f ← Decoder.fields depth ["description", "content"] node
  return {
    description := ← f.optional "description" Decoder.text
    content := ← f.defaulted "content" [] (decodeContent (depth - 1)) }

def Operation.decode (depth : Nat) (node : Node) : Decoder Operation := do
  let f ← Decoder.fields depth
    ["operationId", "summary", "description", "parameters", "requestBody", "responses"] node
  return {
    id := ← f.optional "operationId" Decoder.text
    summary := ← f.optional "summary" Decoder.text
    description := ← f.optional "description" Decoder.text
    parameters := ← f.defaulted "parameters" [] (decodeParameters (depth - 1))
    requestBody := ← f.optional "requestBody" (RequestBody.decode (depth - 1))
    responses := ← f.defaulted "responses" []
      (Decoder.dictionary (depth - 1) (Response.decode (depth - 2))) }

def PathItem.decode (depth : Nat) (node : Node) : Decoder PathItem := do
  let f ← Decoder.fields depth ["get", "put", "post", "patch", "delete", "parameters"] node
  let operation := Operation.decode (depth - 1)
  return {
    get := ← f.optional "get" operation
    put := ← f.optional "put" operation
    post := ← f.optional "post" operation
    patch := ← f.optional "patch" operation
    delete := ← f.optional "delete" operation
    parameters := ← f.defaulted "parameters" [] (decodeParameters (depth - 1)) }

def Components.decode (depth : Nat) (node : Node) : Decoder Components := do
  let f ← Decoder.fields depth ["schemas", "parameters"] node
  return {
    schemas := ← f.defaulted "schemas" []
      (Decoder.dictionary (depth - 1) (Schema.decode (depth - 2)))
    parameters := ← f.defaulted "parameters" []
      (Decoder.dictionary (depth - 1) (Parameter.decode (depth - 2))) }

def Document.decode (depth : Nat) (node : Node) : Decoder Document := do
  let f ← Decoder.fields depth ["paths", "components"] node
  return {
    paths := ← f.defaulted "paths" [] (Decoder.dictionary (depth - 1) (PathItem.decode (depth - 2)))
    components := ← f.optional "components" (Components.decode (depth - 1)) }

namespace DataFormat

def source? (format : DataFormat) (text : String) : Option Data.Source :=
  match format with
  | .json => (Data.Json.read? text).map fun root => { root, nesting := 127 }
  | .yaml => Data.Yaml.read? text

end DataFormat

def Document.read (format : DataFormat) (text : String) : Except Failure Document :=
  match (format.source? text).bind (Data.Decoder.run · Document.decode) with
  | some doc => .ok doc
  | none => .error (.parse format)

end ApiBindings
