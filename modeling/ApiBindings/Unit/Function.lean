import ApiBindings.Document.Basic
import ApiBindings.Unit.Type
set_option autoImplicit false

namespace ApiBindings

structure Variable where
  name : String
  type : TypeExpr
  variadic : Bool := false
deriving DecidableEq, Repr

structure PathExpr where
  format : String
  arguments : List String := []
deriving DecidableEq, Repr

structure ResponseBinding where
  type : TypeExpr
  byPointer : Bool
deriving DecidableEq, Repr

def ResponseBinding.result (response : ResponseBinding) : TypeExpr :=
  if response.byPointer then response.type.toPointer else response.type

structure ClientCall where
  method : Method
  path : PathExpr
  body : Option String := none
  options : Option String := none
  response : ResponseBinding
deriving DecidableEq, Repr

structure FinderField where
  name : String
  pointer : Bool
  isString : Bool
deriving DecidableEq, Repr

structure Finder where
  list : String
  kind : String
  byName : FinderField
  byId : FinderField
deriving DecidableEq, Repr

inductive FunctionBody where
  | call (call : ClientCall)
  | queryOption (wire : String) (repeated : Bool)
  | finder (finder : Finder)
  | notFoundMessage
deriving DecidableEq, Repr

structure Function where
  name : String
  doc : Option String := none
  receiver : Option Variable := none
  parameters : List Variable := []
  results : List TypeExpr := []
  body : FunctionBody
deriving DecidableEq, Repr

namespace FunctionBody

def packages : FunctionBody → List Package
  | .call request => if request.path.arguments.isEmpty then [.http] else [.http, .fmt]
  | .queryOption .. => [.fmt]
  | .finder f => if f.byName.isString && f.byId.isString then [] else [.fmt]
  | .notFoundMessage => [.fmt]

end FunctionBody

def Function.types (f : Function) : List TypeExpr := f.parameters.map Variable.type ++ f.results

end ApiBindings
