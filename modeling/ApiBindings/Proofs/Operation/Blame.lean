import ApiBindings.Operation.Compilation
import ApiBindings.Proofs.Rendering.Blame
set_option autoImplicit false

namespace ApiBindings

theorem map_error_of_document {α : Type} (name : String) (checked : Except Defect α) (failure : Failure)
    (failed : checked.mapError (Defect.at name) = .error failure) : failure.OfDocument := by
  cases checked with
  | ok a => cases failed
  | error defect =>
      cases failed
      exact defect_of_document name defect

section

variable (components : Components)

theorem value_type_blames (hint : String) (s : Schema) : (valueType components hint s).BlamesDocument :=
  element_type_blames components {} hint s

theorem payload_blames (operation role : String) (s : Schema) : (payload components operation role s).BlamesDocument := by
  unfold payload
  split
  next =>
    refine Build.blames_bind _ _ (Build.blames_check _ _) fun name => ?_
    exact Build.blames_bind _ _ (Build.blames_check _ _) fun isObject => Build.blames_pure _
  next =>
    split
    next => exact Build.blames_bind _ _ (Build.blames_check _ _) fun name => Build.blames_pure _
    next =>
      refine Build.blames_bind _ _ (Build.blames_claim _) fun name => ?_
      refine Build.blames_bind _ _ (declare_schema_blames components _ name s) fun _ => ?_
      exact Build.blames_bind _ _ Build.blames_get fun _ => Build.blames_pure _

theorem path_variables_blame (operation : String) (bound : List BoundParameter) :
    (pathVariables components operation bound).BlamesDocument := by
  induction bound with
  | nil => exact Build.blames_pure _
  | cons first rest ih =>
      unfold pathVariables
      have later (type : TypeExpr) := Build.blames_bind _ _ ih fun others =>
        Build.blames_pure ({ name := first.ident, type : Variable } :: others)
      split
      · exact Build.blames_bind _ _ (value_type_blames components _ _) later
      · exact Build.blames_bind _ _ (Build.blames_pure _) later

theorem push_constructors_blame (operation option : String) (names : Names) (query : List Parameter) :
    (pushConstructors components operation option names query).BlamesDocument := by
  induction query generalizing names with
  | nil => exact Build.blames_pure _
  | cons parameter rest ih =>
      unfold pushConstructors
      dsimp only
      have later (type : TypeExpr) := Build.blames_bind _ _
        (Build.blames_push (optionConstructor operation option (names.claim (Naming.exported parameter.name)).1 parameter type))
        fun _ => ih (names.claim (Naming.exported parameter.name)).2
      split
      · exact Build.blames_bind _ _ (value_type_blames components _ _) later
      · exact Build.blames_bind _ _ (Build.blames_pure _) later

theorem plan_finder_blames (fields : List Field) (responseName : String) (response : Schema) (failure : Failure)
    (failed : planFinder components fields responseName response = .error failure) : failure.OfDocument := by
  unfold planFinder at failed
  dsimp only at failed
  rcases except_bind_error _ _ _ failed with early | ⟨target, _, failed⟩
  · exact map_error_of_document _ _ _ early
  split at failed
  next => cases failed
  rcases except_bind_error _ _ _ failed with early | ⟨listed, _, failed⟩
  · exact map_error_of_document _ _ _ early
  split at failed
  next =>
    rcases except_bind_error _ _ _ failed with early | ⟨item, _, failed⟩
    · exact map_error_of_document _ _ _ early
    rcases except_bind_error _ _ _ failed with early | ⟨shape, _, failed⟩
    · exact map_error_of_document _ _ _ early
    split at failed
    next =>
      split at failed
      next => cases failed
      rcases except_bind_error _ _ _ failed with early | ⟨type, _, failed⟩
      · exact map_error_of_document _ _ _ early
      split at failed
      next => cases failed
      rcases except_bind_error _ _ _ failed with early | ⟨byName, _, failed⟩
      · exact map_error_of_document _ _ _ early
      rcases except_bind_error _ _ _ failed with early | ⟨byId, _, failed⟩
      · exact map_error_of_document _ _ _ early
      split at failed <;> cases failed
    next => cases failed
  next => cases failed

theorem declare_not_found_blames : declareNotFound.BlamesDocument := by
  refine Build.blames_bind _ _ Build.blames_get fun unit => ?_
  split
  · exact Build.blames_bind _ _ (Build.blames_declare _) fun _ => Build.blames_push _
  · exact Build.blames_pure _

theorem declare_finder_blames (operation responseName : String) (response : Schema) :
    (declareFinder components operation responseName response).BlamesDocument := by
  unfold declareFinder
  split
  · exact Build.blames_pure _
  refine Build.blames_bind _ _ Build.blames_get fun unit => ?_
  split
  next =>
    split
    next failure failed => exact Build.blames_throw _ (plan_finder_blames components _ _ _ failure failed)
    next => exact Build.blames_pure _
    next => exact Build.blames_bind _ _ declare_not_found_blames fun _ => Build.blames_push _
  next => exact Build.blames_pure _

theorem compile_operation_blames (earlier : List String) (entry : Document.Entry) :
    (compileOperation components earlier entry).BlamesDocument := by
  unfold compileOperation
  dsimp only
  split
  next => exact Build.blames_throw _ trivial
  next =>
    split
    next => exact Build.blames_pure _
    next s _ =>
      refine Build.blames_bind _ _ (Build.blames_check _ _) fun parameters => ?_
      refine Build.blames_bind _ _ (path_variables_blame components _ _) fun inPath => ?_
      refine Build.blames_bind _ _ ?_ fun body => ?_
      · unfold bodyPayload
        split
        · exact Build.blames_map _ _ (payload_blames components _ _ _)
        · exact Build.blames_pure _
      refine Build.blames_bind _ _ ?_ fun option => ?_
      · unfold claimOption
        split
        · exact Build.blames_pure _
        · exact Build.blames_map _ _ (Build.blames_claim _)
      refine Build.blames_bind _ _ (payload_blames components _ _ _) fun response => ?_
      split
      next => exact Build.blames_throw _ trivial
      next =>
        refine Build.blames_bind _ _ (Build.blames_push _) fun _ => ?_
        refine Build.blames_bind _ _ ?_ fun _ => ?_
        · unfold declareOptionsOf
          split
          · exact Build.blames_bind _ _ (Build.blames_declare _) fun _ => push_constructors_blame components _ _ _ _
          · exact Build.blames_pure _
        refine Build.blames_bind _ _ ?_ fun _ => Build.blames_pure _
        unfold declareFinderOf
        split
        · split
          · exact declare_finder_blames components _ _ _
          · exact Build.blames_pure _
        · exact Build.blames_pure _

end

end ApiBindings
