import ApiBindings.Proofs.Shape.Defect
import ApiBindings.Rendering.Basic
set_option autoImplicit false

namespace ApiBindings

def Components.isCollection (components : Components) (target : Schema) : Except Defect Bool :=
  if target.ref.isSome then components.isCollectionRef target else .ok false

theorem Components.is_collection_never_clashes (components : Components) (target : Schema) :
    NeverClashes (components.isCollection target) := by
  unfold isCollection
  split
  · exact components.is_collection_ref_never_clashes target
  · exact fun clash => by cases clash

def propertyField (components : Components) (guard : Guard Schema) (object : Schema) (name wire : String)
    (property : Schema) (type : TypeExpr) (collection : Bool) : Field :=
  let constraints := property.nullablePartner.getD property
  { name
    doc := property.doc.or constraints.doc
    type := fieldType type collection (object.requires wire) fun _ => components.closesCycle guard property
    required := object.requires wire
    tag := some {
      wire
      omitEmpty := !object.requires wire
      rules := constraints.validationRules (object.requires wire) } }

theorem property_field_type (components : Components) (guard : Guard Schema) (object : Schema) (name wire : String)
    (property : Schema) (type : TypeExpr) (collection : Bool) :
    (propertyField components guard object name wire property type collection).type =
      fieldType type collection (object.requires wire) fun _ => components.closesCycle guard property := rfl

section

variable (components : Components)

def shapeOf (element : String → Schema → Build TypeExpr) (fields : List (String × Schema) → Build (List Field))
    (name : String) (target : Schema) : Build DeclarationShape :=
  match target.ref with
  | some path => .alias <$> (.named <$> Build.check name (components.typeName path))
  | none =>
    match target.classify with
    | .error defect => throw (defect.at name)
    | .ok (.scalar type) => pure (.alias (.ofScalar type))
    | .ok (.enumeration type values) =>
      match enumShape name type values with
      | .ok shape => pure shape
      | .error cause => throw (.malformed name cause)
    | .ok (.array items) => .slice <$> element (name ++ "Item") items
    | .ok (.object properties) => .record <$> fields properties
    | .ok (.map none) => pure (.map .any)
    | .ok (.map (some value)) => .map <$> element (name ++ "Value") value

def elementOf (declare : Guard Schema → String → Schema → Build Unit) (element : String → Schema → Build TypeExpr)
    (collide : String → Build TypeExpr) (guard : Guard Schema) (hint : String) (target : Schema) : Build TypeExpr :=
  match target.ref with
  | some path => .named <$> Build.check hint (components.typeName path)
  | none =>
    match target.classify with
    | .error defect => throw (defect.at hint)
    | .ok (.scalar type) => pure (.ofScalar type)
    | .ok (.enumeration _ _) =>
      Build.claim hint >>= fun name => declare guard name target >>= fun _ => pure (.named name)
    | .ok (.array items) => .slice <$> element (hint ++ "Item") items
    | .ok (.map none) => pure (.map .any)
    | .ok (.map (some value)) => .map <$> element (hint ++ "Value") value
    | .ok (.object _) =>
      match guard.inProgress target with
      | some active => collide active
      | none =>
        Build.claim hint >>= fun name => declare (guard.enter target name) name target >>= fun _ => pure (.named name)

section

variable (collide : String → Build TypeExpr)

theorem declare_schema_or_eq (guard : Guard Schema) (name : String) (s : Schema) :
    declareSchemaOr components collide guard name s =
      match s.effective with
      | .error defect => throw (defect.at name)
      | .ok target =>
        shapeOf components (elementTypeOr components collide guard)
            (declareFieldsOr components collide guard name target {}) name target >>= fun shape =>
          Build.declare { name, doc := s.doc.or target.doc, shape } := by
  rw [declareSchemaOr]
  split
  next failed => rw [failed]
  next target stripped =>
    rw [stripped]
    dsimp only
    split
    next path reference => simp only [shapeOf, reference]
    next inline =>
      split
      next failed => simp only [shapeOf, inline, failed]
      next classified => simp only [shapeOf, inline, classified]
      next type values classified =>
        simp only [shapeOf, inline, classified]
        cases enumShape name type values <;> rfl
      next classified => simp only [shapeOf, inline, classified]
      next classified => simp only [shapeOf, inline, classified]
      next classified => simp only [shapeOf, inline, classified]
      next classified => simp only [shapeOf, inline, classified]

theorem element_type_or_eq (guard : Guard Schema) (hint : String) (s : Schema) :
    elementTypeOr components collide guard hint s =
      match s.effective with
      | .error defect => throw (defect.at hint)
      | .ok target =>
        elementOf components (declareSchemaOr components collide) (elementTypeOr components collide guard) collide guard
          hint target := by
  rw [elementTypeOr]
  split
  next failed => rw [failed]
  next target stripped =>
    rw [stripped]
    dsimp only
    split
    next path reference => simp only [elementOf, reference]
    next inline =>
      split
      next failed => simp only [elementOf, inline, failed]
      next classified => simp only [elementOf, inline, classified]
      next classified => simp only [elementOf, inline, classified]
      next classified => simp only [elementOf, inline, classified]
      next classified => simp only [elementOf, inline, classified]
      next classified => simp only [elementOf, inline, classified]
      next classified =>
        cases running : guard.inProgress target <;> simp only [elementOf, inline, classified, running]

theorem declare_fields_or_eq (guard : Guard Schema) (parent : String) (object : Schema) (names : Names) (wire : String)
    (property : Schema) (rest : List (String × Schema)) :
    declareFieldsOr components collide guard parent object names ((wire, property) :: rest) =
      match wire.toList.find? (!isTagSafe ·) with
      | some bad => throw (.malformed parent (.unsafePropertyName wire bad))
      | none =>
        let (name, names) := names.claim (Naming.exported wire)
        match property.effective with
        | .error defect => throw (defect.at (parent ++ name))
        | .ok target =>
          Build.check (parent ++ name) (components.isCollection target) >>= fun collection =>
            elementTypeOr components collide guard (parent ++ name) target >>= fun type =>
              declareFieldsOr components collide guard parent object names rest >>= fun others =>
                pure (propertyField components guard object name wire property type collection :: others) := by
  rw [declareFieldsOr]
  split
  next bad unsafeName => rw [unsafeName]; rfl
  next safe =>
    rw [Option.eq_none_iff_forall_ne_some.mpr safe]
    dsimp only
    split
    next failed => rw [failed]
    next target stripped =>
      rw [stripped]
      dsimp only
      split
      next path reference => simp only [Components.isCollection, reference]; rfl
      next inline => simp only [Components.isCollection, inline]; rfl

end

def schemaShape (guard : Guard Schema) (name : String) (target : Schema) : Build DeclarationShape :=
  shapeOf components (elementType components guard) (declareFields components guard name target {}) name target

theorem declare_schema_eq (guard : Guard Schema) (name : String) (s : Schema) :
    declareSchema components guard name s =
      match s.effective with
      | .error defect => throw (defect.at name)
      | .ok target =>
        schemaShape components guard name target >>= fun shape =>
          Build.declare { name, doc := s.doc.or target.doc, shape } :=
  declare_schema_or_eq components _ guard name s

theorem element_type_eq (guard : Guard Schema) (hint : String) (s : Schema) :
    elementType components guard hint s =
      match s.effective with
      | .error defect => throw (defect.at hint)
      | .ok target =>
        elementOf components (declareSchema components) (elementType components guard)
          (fun active => pure (.named active)) guard hint target :=
  element_type_or_eq components _ guard hint s

theorem declare_fields_eq (guard : Guard Schema) (parent : String) (object : Schema) (names : Names) (wire : String)
    (property : Schema) (rest : List (String × Schema)) :
    declareFields components guard parent object names ((wire, property) :: rest) =
      match wire.toList.find? (!isTagSafe ·) with
      | some bad => throw (.malformed parent (.unsafePropertyName wire bad))
      | none =>
        let (name, names) := names.claim (Naming.exported wire)
        match property.effective with
        | .error defect => throw (defect.at (parent ++ name))
        | .ok target =>
          Build.check (parent ++ name) (components.isCollection target) >>= fun collection =>
            elementType components guard (parent ++ name) target >>= fun type =>
              declareFields components guard parent object names rest >>= fun others =>
                pure (propertyField components guard object name wire property type collection :: others) :=
  declare_fields_or_eq components _ guard parent object names wire property rest

theorem declare_fields_nil (guard : Guard Schema) (parent : String) (object : Schema) (names : Names) :
    declareFields components guard parent object names [] = pure [] := by
  rw [declareFields, declareFieldsOr]

end

def Failure.OfSchema : Failure → Prop
  | .malformed _ cause => cause ≠ .conflictingDeclarations
  | .unsupported .. => True
  | _ => False

theorem defect_of_schema {α : Type} (name : String) (checked : Except Defect α) (defect : Defect)
    (never : NeverClashes checked) (failed : checked = .error defect) : (defect.at name).OfSchema := by
  cases defect with
  | malformed cause => exact fun clash => never (by rw [failed, clash])
  | unsupported shape => trivial

-- A property of steps that are `given` names to declare. A name that is claimed is given to what follows.
structure Build.Closed (P : ∀ {α : Type}, List String → Build α → Prop) : Prop where
  pure {α : Type} (given : List String) (a : α) : P given (pure a : Build α)
  throw {α : Type} (given : List String) (failure : Failure) (reported : failure.OfSchema) :
    P given (throw failure : Build α)
  bind {α β : Type} (given : List String) (x : Build α) (f : α → Build β) (first : P [] x) (next : ∀ a, P given (f a)) :
    P given (x >>= f)
  map {α β : Type} (given : List String) (f : α → β) (x : Build α) (holds : P given x) : P given (f <$> x)
  claim {α : Type} (base : String) (f : String → Build α) (next : ∀ name, P [name] (f name)) :
    P [] (Build.claim base >>= f)
  declare (d : Declaration) : P [d.name] (Build.declare d)

namespace Build.Closed

variable {P : ∀ {α : Type}, List String → Build α → Prop} (closed : Build.Closed @P) {α β : Type}

include closed

theorem defect (given : List String) (name : String) (checked : Except Defect β) (defect : Defect)
    (never : NeverClashes checked) (failed : checked = .error defect) :
    P given (MonadExcept.throw (defect.at name) : Build α) :=
  closed.throw given _ (defect_of_schema name checked defect never failed)

theorem check (given : List String) (name : String) (checked : Except Defect α) (never : NeverClashes checked) :
    P given (Build.check name checked) := by
  cases checked with
  | ok a => exact closed.pure given a
  | error defect => exact closed.defect given name _ defect never rfl

variable (components : Components)

mutual

theorem declare_schema (guard : Guard Schema) (name : String) (s : Schema) :
    P [name] (declareSchema components guard name s) := by
  rw [declare_schema_eq]
  split
  next defect failed => exact closed.defect _ name _ defect (Schema.effective_never_clashes s) failed
  next target stripped =>
  have bound := Schema.effective_size_le stripped
  refine closed.bind _ _ _ ?_ fun shape => closed.declare { name, doc := s.doc.or target.doc, shape }
  unfold schemaShape shapeOf
  split
  next path _ =>
    exact closed.map _ _ _ (closed.map _ _ _ (closed.check _ _ _ (components.type_name_never_clashes path)))
  next =>
    split
    next defect failed => exact closed.defect _ name _ defect (Schema.classify_never_clashes target) failed
    next => exact closed.pure _ _
    next type values _ =>
      split
      next => exact closed.pure _ _
      next cause failed => exact closed.throw _ _ (enum_shape_never_clashes name type values cause failed)
    next items classified =>
      have smaller : sizeOf items < sizeOf target := Schema.holds_classify classified
      exact closed.map _ _ _ (element_type guard _ items)
    next properties classified =>
      have smaller : sizeOf properties < sizeOf target := Schema.holds_classify classified
      exact closed.map _ _ _ (declare_fields guard name target {} properties)
    next => exact closed.pure _ _
    next value classified =>
      have smaller : sizeOf value < sizeOf target := Schema.holds_classify classified
      exact closed.map _ _ _ (element_type guard _ value)
termination_by 2 * sizeOf s
decreasing_by all_goals omega

theorem element_type (guard : Guard Schema) (hint : String) (s : Schema) :
    P [] (elementType components guard hint s) := by
  rw [element_type_eq]
  split
  next defect failed => exact closed.defect _ hint _ defect (Schema.effective_never_clashes s) failed
  next target stripped =>
  have bound := Schema.effective_size_le stripped
  unfold elementOf
  split
  next path _ => exact closed.map _ _ _ (closed.check _ _ _ (components.type_name_never_clashes path))
  next =>
    split
    next defect failed => exact closed.defect _ hint _ defect (Schema.classify_never_clashes target) failed
    next => exact closed.pure _ _
    next =>
      refine closed.claim hint _ fun name => ?_
      exact closed.map _ (fun _ => TypeExpr.named name) _ (declare_schema guard name target)
    next items classified =>
      have smaller : sizeOf items < sizeOf target := Schema.holds_classify classified
      exact closed.map _ _ _ (element_type guard _ items)
    next => exact closed.pure _ _
    next value classified =>
      have smaller : sizeOf value < sizeOf target := Schema.holds_classify classified
      exact closed.map _ _ _ (element_type guard _ value)
    next =>
      split
      next => exact closed.pure _ _
      next =>
        refine closed.claim hint _ fun name => ?_
        exact closed.map _ (fun _ => TypeExpr.named name) _ (declare_schema (guard.enter target name) name target)
termination_by 2 * sizeOf s + 1
decreasing_by all_goals omega

theorem declare_fields (guard : Guard Schema) (parent : String) (object : Schema) (names : Names)
    (properties : List (String × Schema)) : P [] (declareFields components guard parent object names properties) := by
  cases properties with
  | nil =>
      rw [declare_fields_nil]
      exact closed.pure _ _
  | cons entry rest =>
      obtain ⟨wire, property⟩ := entry
      have cell : sizeOf ((wire, property) :: rest) = 1 + (1 + sizeOf wire + sizeOf property) + sizeOf rest := rfl
      rw [declare_fields_eq]
      split
      next bad _ => exact closed.throw _ _ fun clash => by cases clash
      next =>
        dsimp only
        split
        next defect failed => exact closed.defect _ _ _ defect (Schema.effective_never_clashes property) failed
        next target stripped =>
          have bound := Schema.effective_size_le stripped
          refine closed.bind _ _ _ (closed.check _ _ _ (components.is_collection_never_clashes target)) fun collection => ?_
          refine closed.bind _ _ _ (element_type guard _ target) fun type => ?_
          exact closed.map _ _ _ (declare_fields guard parent object _ rest)
termination_by 2 * sizeOf properties
decreasing_by all_goals omega

end

end Build.Closed

end ApiBindings
