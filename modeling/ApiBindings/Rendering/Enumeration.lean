import ApiBindings.Naming
import ApiBindings.Failure
import ApiBindings.Unit.Declaration
set_option autoImplicit false

namespace ApiBindings

namespace EnumValue

def numberSuffix (text : List Char) : List Char :=
  let word (digits : List Char) := digits.map fun c => if c = '.' ∨ c = '+' then '_' else c
  match text with
  | '-' :: digits => "Neg".toList ++ word digits
  | digits => word digits

def suffix : EnumValue → String
  | .text s => Naming.pascal s
  | .integer n => String.ofList (numberSuffix (toString n).toList)
  | .double x => String.ofList (numberSuffix x.format.toList)
  | .flag true => "True"
  | .flag false => "False"
  | .null => "Null"

def literal? (type : ScalarType) (value : EnumValue) : Option Literal :=
  match type, value with
  | _, .null => none
  | .string, value => some (.text value.display)
  | .bool, .flag b => some (.flag b)
  | .int, .integer n | .int32, .integer n | .int64, .integer n => some (.integer n)
  | .float32, .integer n | .float64, .integer n => some (.integer n)
  | .float32, .double x | .float64, .double x => some (.double x)
  | _, _ => none

end EnumValue

def enumConstants (type : ScalarType) (name : String) (names : Names) :
    List EnumValue → Except Malformation (List EnumConstant)
  | [] => .ok []
  | value :: rest =>
    match value.literal? type with
    | some literal =>
      let base := if value.suffix.isEmpty then name ++ "Empty" else name ++ value.suffix
      let (constant, names) := names.claim base
      (enumConstants type name names rest).map (⟨constant, literal⟩ :: ·)
    | none =>
      if value = .null then enumConstants type name names rest
      else .error (.unfitEnumValue value type)

def enumShape (name : String) (type : ScalarType) (values : List EnumValue) :
    Except Malformation DeclarationShape :=
  (enumConstants type name {} values).map (.enumeration (.named type.name))

end ApiBindings
