import ApiBindings.Rendering.Enumeration
import ApiBindings.Shape.Reference
set_option autoImplicit false

namespace ApiBindings

variable {α β : Type}

def NeverClashes (checked : Except Defect α) : Prop := checked ≠ .error (.malformed .conflictingDeclarations)

theorem never_clashes_bind (x : Except Defect α) (f : α → Except Defect β) (first : NeverClashes x)
    (next : ∀ a, NeverClashes (f a)) : NeverClashes (x.bind f) := by
  cases x with
  | error defect => exact fun clash => first (congrArg Except.error (Except.error.inj clash))
  | ok a => exact next a

theorem never_clashes_map (f : α → β) (x : Except Defect α) (never : NeverClashes x) : NeverClashes (x.map f) := by
  cases x with
  | error defect => exact fun clash => never (congrArg Except.error (Except.error.inj clash))
  | ok a => exact fun clash => by cases clash

namespace Schema

theorem effective_never_clashes (s : Schema) : NeverClashes s.effective := by
  unfold NeverClashes
  fun_induction effective s with
  | case1 s inner wrapped ih => exact ih
  | case2 s unwrapped only composed bare ih => exact ih
  | case3 | case4 | case5 | case6 => simp

theorem map_shape_never_clashes (value : Schema) : NeverClashes (mapShape value) := by
  unfold NeverClashes mapShape
  split <;> simp

theorem object_shape_never_clashes (s : Schema) : NeverClashes s.objectShape := by
  unfold objectShape
  split
  · simp [NeverClashes]
  · split
    · exact map_shape_never_clashes _
    all_goals simp [NeverClashes]

theorem inferred_shape_never_clashes (s : Schema) : NeverClashes s.inferredShape := by
  unfold inferredShape
  split
  · exact map_shape_never_clashes _
  · split
    · simp [NeverClashes]
    · split <;> simp [NeverClashes]

theorem declared_shape_never_clashes (type : String) (s : Schema) : NeverClashes (s.declaredShape type) := by
  unfold declaredShape
  split
  · unfold arrayShape
    split <;> simp [NeverClashes]
  · split
    · exact object_shape_never_clashes s
    · split <;> simp [NeverClashes]

theorem classify_never_clashes (s : Schema) : NeverClashes s.classify := by
  unfold classify
  split
  · simp [NeverClashes]
  · exact declared_shape_never_clashes _ s
  · exact inferred_shape_never_clashes s

end Schema

namespace Components

theorem type_name_never_clashes (components : Components) (path : String) :
    NeverClashes (components.typeName path) := by
  unfold typeName
  split <;> simp [NeverClashes]

theorem follow_never_clashes (components : Components) (left : Nat) (s : Schema) :
    NeverClashes (components.follow left s) := by
  induction left generalizing s with
  | zero => simp [NeverClashes, follow]
  | succ left ih =>
      unfold follow
      split
      · simp [NeverClashes]
      · split
        · simp [NeverClashes]
        · next target _ =>
          have stripped := Schema.effective_never_clashes target
          split
          next next _ => exact ih next
          next defect failed => rwa [failed] at stripped

theorem is_collection_ref_never_clashes (components : Components) (s : Schema) :
    NeverClashes (components.isCollectionRef s) := by
  refine never_clashes_map _ _ (never_clashes_bind _ _ ?_ Schema.classify_never_clashes)
  exact never_clashes_bind _ _ (Schema.effective_never_clashes s) (follow_never_clashes components _)

end Components

theorem enum_constants_never_clash (type : ScalarType) (name : String) (names : Names) (values : List EnumValue) :
    enumConstants type name names values ≠ .error .conflictingDeclarations := by
  induction values generalizing names with
  | nil => simp [enumConstants]
  | cons value rest ih =>
      unfold enumConstants
      split
      next literal fits =>
        dsimp only
        generalize others : enumConstants type name _ rest = found
        cases found with
        | ok constants => exact fun clash => by cases clash
        | error cause => exact fun clash => ih _ (others.trans (congrArg _ (Except.error.inj clash)))
      next =>
        split
        · exact ih names
        · simp

theorem enum_shape_never_clashes (name : String) (type : ScalarType) (values : List EnumValue) (cause : Malformation)
    (failed : enumShape name type values = .error cause) : cause ≠ .conflictingDeclarations := by
  unfold enumShape at failed
  have never := enum_constants_never_clash type name {} values
  cases found : enumConstants type name {} values with
  | ok constants => simp [found, Except.map] at failed
  | error other =>
      rw [found] at failed never
      obtain rfl := Except.error.inj failed
      exact fun clash => never (congrArg _ clash)

end ApiBindings
