import ApiBindings.Proofs.Rendering.Equations
import ApiBindings.Proofs.Rendering.Result
import ApiBindings.Proofs.Unit.Growth
set_option autoImplicit false

namespace ApiBindings

variable {α β : Type}

def Failure.OfDocument : Failure → Prop
  | .malformed .. | .unsupported .. | .unsupportedShapes _ => True
  | .parse _ | .access .. | .layout .. | .formatterUnavailable .. => False

theorem defect_of_document (name : String) (defect : Defect) : (defect.at name).OfDocument := by
  cases defect <;> trivial

namespace Build

def BlamesDocument (build : Build α) : Prop :=
  ∀ unit failure after, build.result unit = (.error failure, after) → failure.OfDocument

theorem blames_pure (a : α) : (pure a : Build α).BlamesDocument := fun _ _ _ failed => by cases failed

theorem blames_throw (failure : Failure) (blamed : failure.OfDocument) : (throw failure : Build α).BlamesDocument := by
  intro unit other after failed
  cases failed
  exact blamed

theorem blames_bind (x : Build α) (f : α → Build β) (first : x.BlamesDocument) (next : ∀ a, (f a).BlamesDocument) :
    (x >>= f).BlamesDocument := by
  intro unit failure after failed
  rcases bind_error x f unit after failure failed with early | ⟨a, middle, _, late⟩
  · exact first unit failure after early
  · exact next a middle failure after late

theorem blames_map (f : α → β) (x : Build α) (blames : x.BlamesDocument) : (f <$> x).BlamesDocument :=
  blames_bind x (fun a => pure (f a)) blames fun a => blames_pure (f a)

theorem blames_check (name : String) (checked : Except Defect α) : (check name checked).BlamesDocument := by
  cases checked with
  | ok a => exact blames_pure a
  | error defect => exact blames_throw _ (defect_of_document name defect)

theorem blames_get : (get : Build SourceUnit).BlamesDocument := fun _ _ _ failed => by cases failed

theorem blames_claim (base : String) : (claim base).BlamesDocument := fun _ _ _ failed => by cases failed

theorem blames_push (function : Function) : (push function).BlamesDocument := fun _ _ _ failed => by cases failed

theorem blames_declare (d : Declaration) : (declare d).BlamesDocument := by
  intro unit failure after failed
  rw [declare_result] at failed
  split at failed
  next => cases failed
  next other refused =>
    obtain ⟨rfl, _⟩ := SourceUnit.declare_error unit d other refused
    cases failed
    trivial

theorem reported_of_document (failure : Failure) (reported : failure.OfSchema) : failure.OfDocument := by
  cases failure <;> trivial

theorem blames_closed : Closed fun {_} _ build => build.BlamesDocument where
  pure _ := blames_pure
  throw _ failure reported := blames_throw failure (reported_of_document failure reported)
  bind _ := blames_bind
  map _ := blames_map
  claim base f next := blames_bind _ f (blames_claim base) next
  declare := blames_declare

end Build

section

variable (components : Components)

theorem declare_schema_blames (guard : Guard Schema) (name : String) (s : Schema) :
    (declareSchema components guard name s).BlamesDocument :=
  Build.blames_closed.declare_schema components guard name s

theorem element_type_blames (guard : Guard Schema) (hint : String) (s : Schema) :
    (elementType components guard hint s).BlamesDocument :=
  Build.blames_closed.element_type components guard hint s

end

end ApiBindings
