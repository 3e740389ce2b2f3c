import ApiBindings.Number.Shortest
import ApiBindings.Unit.Type
set_option autoImplicit false

namespace ApiBindings

open Number (Double)

inductive Literal where
  | text (s : String)
  | integer (n : Int)
  | double (x : Double)
  | flag (b : Bool)
deriving Repr

def Literal.same : Literal → Literal → Bool
  | .text a, .text b => a == b
  | .integer a, .integer b => a == b
  | .double a, .double b => a.equals b
  | .flag a, .flag b => a == b
  | _, _ => false

instance : BEq Literal := ⟨Literal.same⟩

structure EnumConstant where
  name : String
  value : Literal
deriving BEq, Repr

structure FieldTag where
  wire : String
  omitEmpty : Bool := false
  rules : Option String := none
deriving DecidableEq, Repr

structure Field where
  name : String
  doc : Option String := none
  type : TypeExpr
  required : Bool := true
  tag : Option FieldTag := none
deriving DecidableEq, Repr

inductive DeclarationShape where
  | alias (target : TypeExpr)
  | enumeration (underlying : TypeExpr) (constants : List EnumConstant)
  | record (fields : List Field)
  | slice (item : TypeExpr)
  | map (value : TypeExpr)
  | function (parameters : List TypeExpr)
deriving BEq, Repr

structure Declaration where
  name : String
  doc : Option String := none
  shape : DeclarationShape
deriving BEq, Repr

namespace DeclarationShape

def types : DeclarationShape → List TypeExpr
  | .alias target => [target]
  | .enumeration underlying _ => [underlying]
  | .record fields => fields.map Field.type
  | .slice item => [item]
  | .map value => [value]
  | .function parameters => parameters

def isRecord : DeclarationShape → Bool
  | .record _ => true
  | _ => false

end DeclarationShape

end ApiBindings
