import ApiBindings.Naming
import ApiBindings.Shape.Basic
set_option autoImplicit false

namespace ApiBindings

def after? (lead text : String) : Option String :=
  if lead.toList.isPrefixOf text.toList then some (String.ofList (text.toList.drop lead.length))
  else none

namespace Components

def schema? (components : Components) (path : String) : Option (String × Schema) :=
  (after? "#/components/schemas/" path).bind fun name => components.schemas.find? (·.1 = name)

def parameter? (components : Components) (path : String) : Option Parameter :=
  (after? "#/components/parameters/" path).bind fun name => components.parameters.lookup name

def typeName (components : Components) (path : String) : Except Defect String :=
  match components.schema? path with
  | some (name, _) => .ok (Naming.exported name)
  | none => .error (.malformed (.unresolvedSchema path))

def longestChain : Nat := 16

def follow (components : Components) : Nat → Schema → Except Defect Schema
  | 0, _ => .error (.malformed (.longReferenceChain longestChain))
  | left + 1, s =>
    match s.ref with
    | none => .ok s
    | some path =>
      match components.schema? path with
      | none => .error (.malformed (.unresolvedSchema path))
      | some (_, target) =>
        match target.effective with
        | .ok next => follow components left next
        | .error defect => .error defect

def resolve (components : Components) (s : Schema) : Except Defect Schema :=
  s.effective.bind (components.follow longestChain)

def targetShape (components : Components) (s : Schema) : Except Defect Shape :=
  (components.resolve s).bind Schema.classify

def isCollectionRef (components : Components) (s : Schema) : Except Defect Bool :=
  (components.targetShape s).map Shape.isCollection

def isObjectRef (components : Components) (s : Schema) : Except Defect Bool :=
  (components.targetShape s).map Shape.isObject

def parameter (components : Components) : ParameterEntry → Except Defect Parameter
  | .inline parameter => .ok parameter
  | .reference path =>
    match components.parameter? path with
    | some parameter => .ok parameter
    | none => .error (.malformed (.unresolvedParameter path))

end Components

namespace Schema

def bareReference (s : Schema) : Option String := (s.nullablePartner.getD s).ref

def arrayOfReference (s : Schema) : Option String :=
  let s := s.nullablePartner.getD s
  let isArray := match s.firstType with
    | some type => type == "array"
    | none => s.ref.isNone
  if isArray then s.items.bind bareReference else none

end Schema

end ApiBindings
