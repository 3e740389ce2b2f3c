import ApiBindings.Proofs.Rendering.Equations
import ApiBindings.Proofs.Rendering.Result
set_option autoImplicit false

namespace ApiBindings

def SourceUnit.inPackage (unit : SourceUnit) (package : String) : SourceUnit := { unit with package }

theorem declare_in_package (unit : SourceUnit) (package : String) (d : Declaration) :
    (unit.inPackage package).declare d = (unit.declare d).map (·.inPackage package) := by
  have same : (unit.inPackage package).find? d.name = unit.find? d.name := rfl
  unfold SourceUnit.declare
  rw [same]
  cases unit.find? d.name with
  | none => rfl
  | some existing =>
      dsimp only
      split <;> rfl

namespace Build

variable {α β : Type}

def Uniform (build : Build α) : Prop := ∀ unit package,
  build.result (unit.inPackage package) = ((build.result unit).1, (build.result unit).2.inPackage package)

theorem uniform_pure (a : α) : (pure a : Build α).Uniform := fun _ _ => rfl

theorem uniform_throw (failure : Failure) : (throw failure : Build α).Uniform := fun _ _ => rfl

theorem uniform_bind (x : Build α) (f : α → Build β) (first : x.Uniform) (next : ∀ a, (f a).Uniform) :
    (x >>= f).Uniform := by
  intro unit package
  rw [result_bind, result_bind, first unit package]
  cases x.result unit with
  | mk result middle =>
      cases result with
      | ok a => exact next a middle package
      | error failure => rfl

theorem uniform_map (f : α → β) (x : Build α) (uniform : x.Uniform) : (f <$> x).Uniform :=
  uniform_bind x (fun a => pure (f a)) uniform fun a => uniform_pure (f a)

theorem uniform_claim (base : String) : (claim base).Uniform := fun _ _ => rfl

theorem uniform_declare (d : Declaration) : (declare d).Uniform := by
  intro unit package
  rw [declare_result, declare_result, declare_in_package]
  cases unit.declare d <;> rfl

theorem uniform_closed : Closed fun {_} _ build => build.Uniform where
  pure _ := uniform_pure
  throw _ failure _ := uniform_throw failure
  bind _ := uniform_bind
  map _ := uniform_map
  claim base f next := uniform_bind _ f (uniform_claim base) next
  declare := uniform_declare

end Build

theorem render_uniform (components : Components) (name : String) (s : Schema) : (render components name s).Uniform :=
  Build.uniform_closed.declare_schema components _ name s

end ApiBindings
