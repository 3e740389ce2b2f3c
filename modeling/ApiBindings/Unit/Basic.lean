import ApiBindings.Failure
import ApiBindings.Naming
import ApiBindings.Unit.Declaration
import ApiBindings.Unit.Function
set_option autoImplicit false

namespace ApiBindings

structure SourceUnit where
  package : String
  declarations : List Declaration := []
  functions : List Function := []
  names : Names := {}

namespace SourceUnit

def reserve (unit : SourceUnit) (name : String) : SourceUnit :=
  { unit with names := unit.names.reserve name }

def claim (unit : SourceUnit) (base : String) : String × SourceUnit :=
  let (name, names) := unit.names.claim base
  (name, { unit with names })

def find? (unit : SourceUnit) (name : String) : Option Declaration :=
  unit.declarations.find? (·.name = name)

-- Adds a declaration. The same one again changes nothing; another one of its
-- name is refused.
def declare (unit : SourceUnit) (declaration : Declaration) : Except Failure SourceUnit :=
  match unit.find? declaration.name with
  | some existing =>
    if existing == declaration then .ok unit
    else .error (.malformed declaration.name .conflictingDeclarations)
  | none => .ok { unit with declarations := unit.declarations ++ [declaration] }

def push (unit : SourceUnit) (function : Function) : SourceUnit :=
  { unit with functions := unit.functions ++ [function] }

def isRecord (unit : SourceUnit) (name : String) : Bool :=
  (unit.find? name).any (·.shape.isRecord)

def types (unit : SourceUnit) : List TypeExpr :=
  unit.declarations.flatMap (·.shape.types) ++ unit.functions.flatMap Function.types

def uses (unit : SourceUnit) (package : Package) : Bool :=
  unit.types.any (·.qualifier? == some package.qualifier) ||
    unit.functions.any (·.body.packages.contains package)

def imports (unit : SourceUnit) : List Package := Package.all.filter unit.uses

end SourceUnit

end ApiBindings
