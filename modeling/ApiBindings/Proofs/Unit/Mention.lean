import ApiBindings.Proofs.Unit.Growth
set_option autoImplicit false

namespace ApiBindings

abbrev Scope := String → Prop

namespace TypeExpr

def identifier? : TypeExpr → Option String
  | .named name => some name
  | .pointer target => target.identifier?
  | .slice item => item.identifier?
  | .map value => value.identifier?
  | .any => none

def Within (scope : Scope) (type : TypeExpr) : Prop := ∀ name, type.identifier? = some name → scope name

theorem within_named (scope : Scope) (name : String) (known : scope name) : (named name).Within scope := by
  intro other mentioned
  rwa [← Option.some.inj mentioned]

theorem within_any (scope : Scope) : any.Within scope := by
  intro name mentioned
  cases mentioned

theorem to_pointer_identifier (type : TypeExpr) : type.toPointer.identifier? = type.identifier? := by
  cases type <;> rfl

theorem within_pointer (scope : Scope) (type : TypeExpr) (within : type.Within scope) :
    type.toPointer.Within scope := by
  intro name mentioned
  exact within name (to_pointer_identifier type ▸ mentioned)

end TypeExpr

def FunctionBody.types : FunctionBody → List TypeExpr
  | .call request => [request.response.type]
  | .finder _ => [.named "NotFoundError"]
  | .queryOption .. | .notFoundMessage => []

def Function.mentioned (f : Function) : List TypeExpr :=
  (f.receiver.map Variable.type).toList ++ f.types ++ f.body.types

def Declaration.Within (scope : Scope) (d : Declaration) : Prop := ∀ type ∈ d.shape.types, type.Within scope

def Function.Within (scope : Scope) (f : Function) : Prop := ∀ type ∈ f.mentioned, type.Within scope

structure SourceUnit.Within (scope : Scope) (unit : SourceUnit) : Prop where
  declarations : ∀ d ∈ unit.declarations, d.Within scope
  functions : ∀ f ∈ unit.functions, f.Within scope

namespace SourceUnit

theorem within_wider (scope wider : Scope) (unit : SourceUnit) (within : unit.Within scope)
    (included : ∀ name, scope name → wider name) : unit.Within wider :=
  ⟨fun d member type listed name named => included name (within.declarations d member type listed name named),
    fun f member type listed name named => included name (within.functions f member type listed name named)⟩

theorem empty_within (scope : Scope) (unit : SourceUnit) (noDeclarations : unit.declarations = [])
    (noFunctions : unit.functions = []) : unit.Within scope := by
  refine ⟨fun d member => ?_, fun f member => ?_⟩
  · rw [noDeclarations] at member
    exact absurd member List.not_mem_nil
  · rw [noFunctions] at member
    exact absurd member List.not_mem_nil

theorem declare_within (scope : Scope) (unit after : SourceUnit) (d : Declaration)
    (declared : unit.declare d = .ok after) (within : unit.Within scope) (new : d.Within scope) :
    after.Within scope := by
  rcases declare_cases unit after d declared with ⟨_, _, _, _, same⟩ | ⟨_, appended⟩
  · rwa [same]
  · subst after
    refine ⟨fun other member => ?_, within.functions⟩
    rcases List.mem_append.mp member with old | last
    · exact within.declarations other old
    · rwa [List.mem_singleton.mp last]

theorem claim_within (scope : Scope) (unit after : SourceUnit) (base name : String)
    (claimed : unit.claim base = (name, after)) (within : unit.Within scope) : after.Within scope := by
  obtain ⟨rfl, rfl⟩ := Prod.mk.inj claimed
  exact ⟨within.declarations, within.functions⟩

theorem push_within (scope : Scope) (unit : SourceUnit) (f : Function) (within : unit.Within scope)
    (new : f.Within scope) : (unit.push f).Within scope := by
  refine ⟨within.declarations, fun other member => ?_⟩
  rcases List.mem_append.mp member with old | last
  · exact within.functions other old
  · rwa [List.mem_singleton.mp last]

end SourceUnit

end ApiBindings
