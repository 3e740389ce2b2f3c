import ApiBindings.Shape.Basic
set_option autoImplicit false

namespace ApiBindings.Schema

theorem scalar_shape_constants (scalar type : ScalarType) (s : Schema) (values : List EnumValue)
    (shaped : s.scalarShape scalar = .enumeration type values) : type.hasConstants = true := by
  unfold scalarShape at shaped
  split at shaped
  next =>
    split at shaped
    next listed =>
      cases shaped
      exact (Bool.and_eq_true_iff.mp listed).1
    next => cases shaped
  next => cases shaped

theorem declared_unformatted (s : Schema) (declared : s.firstType = some "array" ∨ s.firstType = some "object") :
    s.formatType = none := by
  unfold formatType
  split
  · rw [if_pos declared]
  · rfl

theorem scalar_shape_not_object (s : Schema) (type : ScalarType) (properties : List (String × Schema)) :
    s.scalarShape type ≠ .object properties := by
  intro shaped
  have simple := scalar_shape_simple type s
  rw [shaped] at simple
  cases simple

theorem object_properties (s : Schema) (properties own : List (String × Schema))
    (classified : s.classify = .ok (.object properties)) (held : s.properties = some own) : own = properties := by
  generalize kind : Shape.object properties = shape at classified
  cases shaped_classify classified with
  | scalar type => exact absurd kind.symm (scalar_shape_not_object s type properties)
  | object listed =>
      cases kind
      exact Option.some.inj (held.symm.trans listed)
  | closed _ unlisted =>
      cases kind
      cases own with
      | nil => rfl
      | cons first rest => exact absurd held (unlisted first rest)
  | array | openMap | map => cases kind

theorem items_not_object (s items : Schema) (properties : List (String × Schema))
    (typed : s.firstType = some "array" ∨ s.firstType = none) (held : s.items = some items) :
    s.classify ≠ .ok (.object properties) := by
  intro classified
  generalize kind : Shape.object properties = shape at classified
  cases shaped_classify classified with
  | scalar type => exact scalar_shape_not_object s type properties kind.symm
  | object _ declared =>
      rcases declared with declared | ⟨_, bare⟩
      · rcases typed with array | missing
        · exact absurd (array.symm.trans declared) (by decide)
        · cases missing.symm.trans declared
      · cases held.symm.trans bare
  | closed declared =>
      rcases typed with array | missing
      · exact absurd (array.symm.trans declared) (by decide)
      · cases missing.symm.trans declared
  | array | openMap | map => cases kind

theorem enumeration_constants (s : Schema) (type : ScalarType) (values : List EnumValue)
    (classified : s.classify = .ok (.enumeration type values)) : type.hasConstants = true := by
  generalize kind : Shape.enumeration type values = shape at classified
  cases shaped_classify classified with
  | scalar scalar => exact scalar_shape_constants scalar type s values kind.symm
  | array | object | closed | openMap | map => cases kind

end ApiBindings.Schema
