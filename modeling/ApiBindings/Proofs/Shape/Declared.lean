import ApiBindings.Proofs.Shape.Classify
set_option autoImplicit false

namespace ApiBindings.Schema

def asObject (s : Schema) : Schema := { s with type := some (.single "object") }

theorem as_object_classify (s : Schema) : s.asObject.classify = s.objectShape := by
  rw [classify, s.asObject.declared_unformatted (Or.inr rfl)]
  rfl

theorem listed_object_shape (s : Schema) (first : String × Schema) (rest : List (String × Schema))
    (held : s.properties = some (first :: rest)) : s.objectShape = .ok (.object (first :: rest)) := by
  rw [objectShape, held]

theorem open_object_shape (s : Schema) (bare : s.properties = none ∨ s.properties = some [])
    (opened : ∀ value, s.additional ≠ some (.schema value)) (allowed : s.additional ≠ some (.allowed false)) :
    s.objectShape = .ok (.map none) := by
  have others : s.additional = none ∨ s.additional = some (.allowed true) := by
    cases held : s.additional with
    | none => exact Or.inl rfl
    | some other =>
        cases other with
        | schema value => exact absurd held (opened value)
        | allowed b =>
            cases b with
            | true => exact Or.inr rfl
            | false => exact absurd held allowed
  rcases bare with bare | bare <;> rcases others with others | others <;> simp [objectShape, bare, others]

theorem closed_object_shape (s : Schema) (bare : s.properties = some []) (closed : s.additional = some (.allowed false)) :
    s.objectShape = .ok (.object []) := by
  simp [objectShape, bare, closed]

theorem inferred_object (s : Schema) (shape : Shape) (opened : ∀ value, s.additional ≠ some (.schema value))
    (shaped : s.inferredShape = .ok shape) (kind : shape.isObject = true ∨ shape = .map none) :
    (s.properties = none ∧ s.additional = some (.allowed true) ∧ shape = .map none) ∨
      ∃ properties, s.properties = some properties ∧ shape = .object properties := by
  unfold inferredShape at shaped
  split at shaped
  next value held => exact absurd held (opened value)
  next =>
    split at shaped
    next free =>
      obtain ⟨allows, bare⟩ := Bool.and_eq_true_iff.mp free
      refine Or.inl ⟨Option.isNone_iff_eq_none.mp bare, ?_, (Except.ok.inj shaped).symm⟩
      unfold allowsOthers at allows
      split at allows
      next b held => rw [held, allows]
      next => cases allows
    next =>
      split at shaped
      next items _ => simp [← Except.ok.inj shaped, Shape.isObject] at kind
      next properties _ held => exact Or.inr ⟨properties, held, (Except.ok.inj shaped).symm⟩
      next => cases shaped

theorem untyped_classify (s : Schema) (shape : Shape) (untyped : s.type = none) (classified : s.classify = .ok shape)
    (composed : shape.isSimple = false) : s.inferredShape = .ok shape := by
  have missing : s.firstType = none := by rw [firstType, untyped]
  unfold classify at classified
  split at classified
  next type _ =>
    rw [← Except.ok.inj classified, scalar_shape_simple] at composed
    cases composed
  next type _ declared =>
    rw [missing] at declared
    cases declared
  next => exact classified

theorem object_or_map_composed (shape : Shape) (kind : shape.isObject = true ∨ shape = .map none) :
    shape.isSimple = false := by
  cases shape <;> simp_all [Shape.isObject, Shape.isSimple]

theorem inferred_objects_agree_iff (s : Schema) (shape : Shape) (untyped : s.type = none)
    (opened : ∀ value, s.additional ≠ some (.schema value)) (classified : s.classify = .ok shape)
    (kind : shape.isObject = true ∨ shape = .map none) :
    (s.asObject.classify = .ok shape ↔ ¬ (s.properties = some [] ∧ s.additional ≠ some (.allowed false))) ∧
      (s.properties = none → shape = .map none ∧ s.asObject.classify = .ok (.map none)) ∧
      (s.properties = some [] → s.additional ≠ some (.allowed false) →
        shape = .object [] ∧ s.asObject.classify = .ok (.map none)) := by
  have shaped := untyped_classify s shape untyped classified (object_or_map_composed shape kind)
  rw [as_object_classify]
  rcases inferred_object s shape opened shaped kind with ⟨bare, allowed, rfl⟩ | ⟨properties, held, rfl⟩
  · have same := open_object_shape s (Or.inl bare) opened (by simp [allowed])
    simp [same, bare]
  · cases properties with
    | cons first rest =>
        have same := listed_object_shape s first rest held
        simp [same, held]
    | nil =>
        by_cases closed : s.additional = some (.allowed false)
        · have same := closed_object_shape s held closed
          simp [same, held, closed]
        · have other := open_object_shape s (Or.inr held) opened closed
          simp [other, held, closed]

theorem labelled_object_agrees :
    let text : Schema := { type := some (.single "string") }
    let s : Schema := { format := some "int32", properties := some [("id", text)], additional := some (.allowed true) }
    let shape : Shape := .object [("id", text)]
    s.type = none ∧ (∀ value, s.additional ≠ some (.schema value)) ∧ s.classify = .ok shape ∧ shape.isObject = true ∧
      s.asObject.classify = .ok shape := by
  intro text s shape
  have opened : ∀ value, s.additional ≠ some (.schema value) := by simp [s]
  have agrees := (inferred_objects_agree_iff s shape rfl opened rfl (Or.inl rfl)).1
  exact ⟨rfl, opened, rfl, rfl, agrees.mpr fun empty => by simp [s] at empty⟩

theorem empty_objects_disagree :
    let free : Schema := { properties := some [], additional := some (.allowed true) }
    let silent : Schema := { properties := some [] }
    (free.classify = .ok (.object []) ∧ free.asObject.classify = .ok (.map none)) ∧
      (silent.classify = .ok (.object []) ∧ silent.asObject.classify = .ok (.map none)) ∧
      free.asObject.classify ≠ free.classify ∧ silent.asObject.classify ≠ silent.classify := by
  refine ⟨⟨rfl, rfl⟩, ⟨rfl, rfl⟩, fun same => ?_, fun same => ?_⟩ <;> cases same

end ApiBindings.Schema
