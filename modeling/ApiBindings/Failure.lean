import ApiBindings.Document.Basic
import ApiBindings.Document.Scalar
import ApiBindings.Text.Quoted
set_option autoImplicit false

namespace ApiBindings

inductive DataFormat where
  | json
  | yaml
deriving DecidableEq, Repr

def DataFormat.name : DataFormat → String
  | .json => "JSON"
  | .yaml => "YAML"

inductive UnitKind where
  | types
  | operations
deriving DecidableEq, Repr

def UnitKind.name : UnitKind → String
  | .types => "types"
  | .operations => "operations"

inductive Malformation where
  | unknownType (type : String)
  | arrayWithoutItems
  | noShape
  | unresolvedSchema (path : String)
  | unresolvedParameter (path : String)
  | longReferenceChain (links : Nat)
  | conflictingDeclarations
  | unfitEnumValue (value : EnumValue) (type : ScalarType)
  | unsafePropertyName (property : String) (character : Char)
  | duplicateOperation (method : Method) (path : String)
  | unterminatedPlaceholder (path : String)
  | unboundPlaceholder (placeholder : String)
deriving DecidableEq, Repr

def Malformation.message : Malformation → String
  | .unknownType type => s!"unknown type '{type}'"
  | .arrayWithoutItems => "array schema has no items"
  | .noShape => "schema has no type and no inferable shape"
  | .unresolvedSchema path => s!"reference '{path}' does not name a component schema"
  | .unresolvedParameter path => s!"reference '{path}' does not name a component parameter"
  | .longReferenceChain links => s!"reference chain longer than {links} links"
  | .conflictingDeclarations => "two different declarations resolve to the same Go type name"
  | .unfitEnumValue value type => s!"enum value '{value.display}' does not fit type {type.name}"
  | .unsafePropertyName property character =>
    let name := String.ofList (Text.quotedText property.toList)
    let letter := String.ofList (Text.quotedLetter character)
    s!"property name {name} contains {letter}, which cannot appear in a struct tag"
  | .duplicateOperation method path => s!"duplicate operation name ({method.name} {path})"
  | .unterminatedPlaceholder path => s!"unterminated placeholder in path '{path}'"
  | .unboundPlaceholder placeholder =>
    "path placeholder '\x7b" ++ placeholder ++ "\x7d' has no path parameter"

inductive UnsupportedShape where
  | composition (members : Nat)
  | union (members : Nat)
  | untypedValues
deriving DecidableEq, Repr

def UnsupportedShape.message : UnsupportedShape → String
  | .composition members => s!"allOf composition with {members} members"
  | .union members => s!"anyOf/oneOf union of {members} schemas"
  | .untypedValues => "additionalProperties value schema declares no type"

inductive AccessError where
  | notFound
  | isDirectory
  | notDirectory
  | exists
  | notText
  | invalidName
  | other (message : String)
deriving DecidableEq, Repr

def AccessError.message : AccessError → String
  | .notFound => "No such file or directory (os error 2)"
  | .isDirectory => "Is a directory (os error 21)"
  | .notDirectory => "Not a directory (os error 20)"
  | .exists => "File exists (os error 17)"
  | .notText => "stream did not contain valid UTF-8"
  | .invalidName => "file name contained an unexpected NUL byte"
  | .other message => message

inductive Failure where
  | parse (format : DataFormat)
  | access (path : String) (cause : AccessError)
  | malformed (name : String) (cause : Malformation)
  | unsupported (name : String) (shape : UnsupportedShape)
  | unsupportedShapes (shapes : List (String × UnsupportedShape))
  | layout (unit : UnitKind) (message : String)
  | formatterUnavailable (name : String) (message : String)
deriving DecidableEq, Repr

namespace Failure

def message : Failure → String
  | .parse format => s!"failed to parse API document: invalid {format.name}"
  | .access path cause => s!"cannot access {path}: {cause.message}"
  | .malformed name cause => s!"malformed schema '{name}': {cause.message}"
  | .unsupported name shape => s!"unsupported schema shape {name}: {shape.message}"
  | .unsupportedShapes shapes =>
    let lines := shapes.map fun (name, shape) => s!"  - {name}: {shape.message}"
    s!"{shapes.length} unsupported schema shape(s):\n" ++ "\n".intercalate lines
  | .layout unit message => s!"failed to format {unit.name} unit: {message}"
  | .formatterUnavailable name message => s!"formatter '{name}' is not available: {message}"

def exitCode : Failure → Nat
  | .access .. => 3
  | _ => 2

end Failure

end ApiBindings
