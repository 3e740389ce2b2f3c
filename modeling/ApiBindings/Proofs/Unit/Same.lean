import ApiBindings.Proofs.Unit.Growth
set_option autoImplicit false

namespace ApiBindings

open Number (Double)

theorem literal_same (literal : Literal) (number : literal ≠ .double .nan) : (literal == literal) = true := by
  change literal.same literal = true
  cases literal with
  | text s => exact beq_self_eq_true s
  | integer n => exact beq_self_eq_true n
  | flag b => exact beq_self_eq_true b
  | double x =>
      cases x with
      | nan => exact absurd rfl number
      | infinite negative => exact beq_self_eq_true negative
      | finite negative units => simp [Literal.same, Double.equals]

theorem literal_number (a b : Literal) (same : (a == b) = true) : b ≠ .double .nan := by
  rintro rfl
  change a.same (.double .nan) = true at same
  cases a with
  | double x => cases x <;> cases same
  | text | integer | flag => cases same

theorem constants_same (constants : List EnumConstant)
    (numbers : ∀ constant ∈ constants, constant.value ≠ .double .nan) : (constants == constants) = true := by
  induction constants with
  | nil => rfl
  | cons constant rest ih =>
      obtain ⟨number, others⟩ := List.forall_mem_cons.mp numbers
      rw [List.cons_beq_cons, ih others, Bool.and_true]
      change (constant.name == constant.name && constant.value == constant.value) = true
      rw [beq_self_eq_true, literal_same constant.value number, Bool.true_and]

theorem constants_numbers (a b : List EnumConstant) (same : (a == b) = true) :
    ∀ constant ∈ b, constant.value ≠ .double .nan := by
  induction b generalizing a with
  | nil => exact List.forall_mem_nil _
  | cons constant rest ih =>
      cases a with
      | nil => cases same
      | cons first others =>
          rw [List.cons_beq_cons, Bool.and_eq_true] at same
          have own : (first.name == constant.name && first.value == constant.value) = true := same.1
          rw [Bool.and_eq_true] at own
          exact List.forall_mem_cons.mpr ⟨literal_number _ _ own.2, ih others same.2⟩

theorem plain_shape_same (shape : DeclarationShape) (plain : ∀ types values, shape ≠ .enumeration types values) :
    (shape == shape) = true := by
  rcases shape with target | ⟨types, values⟩ | fields | item | value | parameters
  · exact beq_self_eq_true target
  · exact absurd rfl (plain types values)
  · exact beq_self_eq_true fields
  · exact beq_self_eq_true item
  · exact beq_self_eq_true value
  · exact beq_self_eq_true parameters

namespace SourceUnit

theorem grows_find (given : List String) (before after : SourceUnit) (grows : before.Grows given after) (name : String)
    (d : Declaration) (found : before.find? name = some d) : after.find? name = some d := by
  obtain ⟨rest, appended⟩ := grows.declarations
  unfold find? at found ⊢
  rw [← appended, List.find?_append, found, Option.some_or]

theorem declare_again (unit after later : SourceUnit) (d : Declaration) (declared : unit.declare d = .ok after)
    (same : (d == d) = true) (found : later.find? d.name = after.find? d.name) : later.declare d = .ok later := by
  unfold declare
  rw [found]
  rcases declare_known_or_new unit after d declared with ⟨existing, known, equal, rfl⟩ | ⟨absent, rfl⟩
  · rw [known]
    exact if_pos equal
  · rw [added_find unit d absent]
    exact if_pos same

theorem declared_same (unit after : SourceUnit) (stored d : Declaration) (found : unit.find? d.name = some stored)
    (declared : unit.declare d = .ok after) : (stored == d) = true := by
  rcases declare_known_or_new unit after d declared with ⟨existing, known, same, _⟩ | ⟨absent, _⟩
  · rwa [Option.some.inj (found.symm.trans known)]
  · cases found.symm.trans absent

end SourceUnit

end ApiBindings
