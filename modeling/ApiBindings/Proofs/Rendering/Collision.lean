import ApiBindings.Proofs.Rendering.Rendered
set_option autoImplicit false

namespace ApiBindings

section

variable (components : Components) (collide : String → Build TypeExpr)

def renderOr (name : String) (s : Schema) : Build Unit :=
  declareSchemaOr components collide (Guard.enter {} s name) name s

def valueTypeOr (hint : String) (s : Schema) : Build TypeExpr := elementTypeOr components collide {} hint s

-- What is nested is smaller, so two ways to declare a shape differ only if they differ in something smaller.
theorem shape_of_same (element other : String → Schema → Build TypeExpr)
    (fields others : List (String × Schema) → Build (List Field)) (name : String) (target : Schema)
    (elements : ∀ hint part, sizeOf part < sizeOf target → element hint part = other hint part)
    (records : ∀ properties, sizeOf properties < sizeOf target → fields properties = others properties) :
    shapeOf components element fields name target = shapeOf components other others name target := by
  unfold shapeOf
  split
  next => rfl
  next =>
    split
    next => rfl
    next => rfl
    next => rfl
    next items classified => rw [elements _ items (Schema.holds_classify classified)]
    next properties classified => rw [records properties (Schema.holds_classify classified)]
    next => rfl
    next value classified => rw [elements _ value (Schema.holds_classify classified)]

theorem element_of_same (declare again : Guard Schema → String → Schema → Build Unit)
    (element other : String → Schema → Build TypeExpr) (collide refer : String → Build TypeExpr) (guard : Guard Schema)
    (hint : String) (target : Schema)
    (elements : ∀ hint part, sizeOf part < sizeOf target → element hint part = other hint part)
    (enumerated : ∀ name, declare guard name target = again guard name target)
    (entered : ∀ name, declare (guard.enter target name) name target = again (guard.enter target name) name target)
    (inactive : guard.inProgress target = none) :
    elementOf components declare element collide guard hint target =
      elementOf components again other refer guard hint target := by
  unfold elementOf
  split
  next => rfl
  next =>
    split
    next => rfl
    next => rfl
    next => simp only [enumerated]
    next items classified => rw [elements _ items (Schema.holds_classify classified)]
    next => rfl
    next value classified => rw [elements _ value (Schema.holds_classify classified)]
    next => simp only [inactive, entered]

mutual

theorem declare_schema_or (guard : Guard Schema) (name : String) (s : Schema) (above : guard.Above (sizeOf s)) :
    declareSchemaOr components collide guard name s = declareSchema components guard name s := by
  rw [declare_schema_or_eq, declare_schema_eq]
  cases stripped : s.effective with
  | error defect => rfl
  | ok target =>
      have bound := Schema.effective_size_le stripped
      have same := shape_of_same components (elementTypeOr components collide guard) (elementType components guard)
        (declareFieldsOr components collide guard name target {}) (declareFields components guard name target {}) name target
        (fun hint part smaller => element_type_or guard hint part (above_smaller guard _ _ above (by omega)))
        fun properties smaller => declare_fields_or guard name target {} properties (above_smaller guard _ _ above (by omega))
      dsimp only [schemaShape]
      rw [same]
termination_by 2 * sizeOf s
decreasing_by all_goals omega

-- What is in progress is larger than what is looked at, so the look at it finds nothing.
theorem element_type_or (guard : Guard Schema) (hint : String) (s : Schema) (above : guard.Above (sizeOf s + 1)) :
    elementTypeOr components collide guard hint s = elementType components guard hint s := by
  rw [element_type_or_eq, element_type_eq]
  cases stripped : s.effective with
  | error defect => rfl
  | ok target =>
      have bound := Schema.effective_size_le stripped
      exact element_of_same components _ _ _ _ _ _ guard hint target
        (fun hint part smaller => element_type_or guard hint part (above_smaller guard _ _ above (by omega)))
        (fun name => declare_schema_or guard name target (above_smaller guard _ _ above (by omega)))
        (fun name => declare_schema_or (guard.enter target name) name target
          (enter_above guard target name (above_smaller guard _ _ above (by omega))))
        (above_not_active guard target (above_smaller guard _ _ above (by omega)))
termination_by 2 * sizeOf s + 1
decreasing_by all_goals omega

theorem declare_fields_or (guard : Guard Schema) (parent : String) (object : Schema) (names : Names)
    (properties : List (String × Schema)) (above : guard.Above (sizeOf properties)) :
    declareFieldsOr components collide guard parent object names properties =
      declareFields components guard parent object names properties := by
  cases listed : properties with
  | nil => rw [declareFieldsOr, declare_fields_nil]
  | cons entry rest =>
      obtain ⟨wire, property⟩ := entry
      have cell : sizeOf properties = 1 + (1 + sizeOf wire + sizeOf property) + sizeOf rest := by
        rw [listed]
        rfl
      rw [declare_fields_or_eq, declare_fields_eq]
      cases stripped : property.effective with
      | error defect => rfl
      | ok target =>
          have bound := Schema.effective_size_le stripped
          simp only [element_type_or guard _ target (above_smaller guard _ _ above (by omega)),
            declare_fields_or guard parent object _ rest (above_smaller guard _ _ above (by omega))]
termination_by 2 * sizeOf properties
decreasing_by all_goals omega

end

theorem render_or (name : String) (s : Schema) : renderOr components collide name s = render components name s :=
  declare_schema_or components collide (Guard.enter {} s name) name s
    (enter_above {} s name (List.forall_mem_nil _))

theorem value_type_or (hint : String) (s : Schema) : valueTypeOr components collide hint s = valueType components hint s :=
  element_type_or components collide {} hint s (List.forall_mem_nil _)

end

end ApiBindings
