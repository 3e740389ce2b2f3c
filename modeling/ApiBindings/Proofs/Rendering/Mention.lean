import ApiBindings.Proofs.Rendering.Names
import ApiBindings.Proofs.Shape.Classify
import ApiBindings.Proofs.Shape.Reference
import ApiBindings.Proofs.Unit.Mention
set_option autoImplicit false

namespace ApiBindings

def builtinTypes : List String := ["string", "int", "int32", "int64", "float32", "float64", "bool", "byte"]

def importedTypes : List String := ["time.Time", "uuid.UUID", "net.IP"]

def Known (components : Components) (unit : SourceUnit) : Scope := fun name =>
  name ∈ builtinTypes ∨ name ∈ importedTypes ∨
    (∃ entry ∈ components.schemas, name = Naming.exported entry.1) ∨ unit.Declares name

def Rendering.Within (scope : Scope) : Rendering → Prop
  | .declaration .. => True
  | .shape _ _ _ declared => ∀ type ∈ declared.types, type.Within scope
  | .element _ _ _ type => type.Within scope
  | .fields _ _ _ _ _ compiled => ∀ field ∈ compiled, field.type.Within scope

theorem field_type_within (scope : Scope) (type : TypeExpr) (collection required : Bool) (closesCycle : Unit → Bool)
    (within : type.Within scope) : (fieldType type collection required closesCycle).Within scope := by
  unfold fieldType
  split
  · exact within
  · split
    · exact TypeExpr.within_pointer scope type within
    · exact within

theorem single_within (scope : Scope) (type : TypeExpr) (within : type.Within scope) :
    ∀ other ∈ [type], other.Within scope := by
  intro other member
  rwa [List.mem_singleton.mp member]

theorem declaration_declares (components : Components) (guard : Guard Schema) (name : String) (s : Schema)
    (before after : SourceUnit) (rendered : Rendered components (.declaration guard name s) before after) :
    after.Declares name := by
  cases rendered with
  | declaration _ _ declared =>
      obtain ⟨stored, member, named, _⟩ := SourceUnit.declare_declares _ _ _ declared
      exact ⟨stored, member, named⟩

section

variable (components : Components) (unit : SourceUnit) (scope : Scope)
  (known : ∀ name, Known components unit name → scope name)

include known

theorem scalar_within (type : ScalarType) : (TypeExpr.ofScalar type).Within scope := by
  intro name mentioned
  apply known
  cases type
  case time | uuid | ip =>
    refine Or.inr (Or.inl ?_)
    cases mentioned
    decide
  all_goals
    refine Or.inl ?_
    cases mentioned
    decide

theorem constants_within (type : ScalarType) (constants : type.hasConstants = true) :
    (TypeExpr.named type.name).Within scope := by
  refine TypeExpr.within_named _ _ (known _ (Or.inl ?_))
  cases type
  case time | uuid | ip | bytes => cases constants
  all_goals decide

theorem component_within (entry : String × Schema) (listed : entry ∈ components.schemas) :
    (TypeExpr.named (Naming.exported entry.1)).Within scope :=
  TypeExpr.within_named _ _ (known _ (Or.inr (Or.inr (Or.inl ⟨entry, listed, rfl⟩))))

theorem reference_within (path name : String) (named : components.typeName path = .ok name) :
    (TypeExpr.named name).Within scope := by
  obtain ⟨entry, listed, rfl, _⟩ := reference_component components path name named
  exact component_within components unit scope known entry listed

theorem declared_within (name : String) (declared : unit.Declares name) : (TypeExpr.named name).Within scope :=
  TypeExpr.within_named _ name (known name (Or.inr (Or.inr (Or.inr declared))))

theorem rendered_within (task : Rendering) (before after : SourceUnit) (rendered : Rendered components task before after)
    (within : before.Within scope) (kept : ∀ d ∈ after.declarations, d ∈ unit.declarations) :
    after.Within scope ∧ task.Within scope := by
  induction rendered with
  | declaration _ _ declared ih =>
      have grows := SourceUnit.declare_grows _ _ _ declared
      obtain ⟨middle, types⟩ := ih within (fun d member => kept d (grows.keep d member))
      exact ⟨SourceUnit.declare_within _ _ _ _ declared middle types, trivial⟩
  | aliasReference _ named =>
      exact ⟨within, single_within _ _ (reference_within components unit scope known _ _ named)⟩
  | aliasScalar => exact ⟨within, single_within _ _ (scalar_within components unit scope known _)⟩
  | enumeration _ classified =>
      have constants := Schema.enumeration_constants _ _ _ classified
      exact ⟨within, single_within _ _ (constants_within components unit scope known _ constants)⟩
  | slice _ _ _ ih =>
      obtain ⟨final, item⟩ := ih within kept
      exact ⟨final, single_within _ _ item⟩
  | record _ _ _ ih =>
      obtain ⟨final, fields⟩ := ih within kept
      refine ⟨final, fun type member => ?_⟩
      obtain ⟨field, listed, rfl⟩ := List.mem_map.mp member
      exact fields field listed
  | map _ _ _ ih =>
      obtain ⟨final, value⟩ := ih within kept
      exact ⟨final, single_within _ _ value⟩
  | openMap => exact ⟨within, single_within _ _ (TypeExpr.within_any _)⟩
  | elementReference _ _ named => exact ⟨within, reference_within components unit scope known _ _ named⟩
  | elementScalar => exact ⟨within, scalar_within components unit scope known _⟩
  | elementOpenMap => exact ⟨within, TypeExpr.within_any _⟩
  | elementEnumeration _ _ classified claimed _ declared =>
      have constants := Schema.enumeration_constants _ _ _ classified
      have underlying := constants_within components unit scope known _ constants
      have start := SourceUnit.claim_within _ _ _ _ _ claimed within
      obtain ⟨stored, member, named, _⟩ := SourceUnit.declare_declares _ _ _ declared
      exact ⟨SourceUnit.declare_within _ _ _ _ declared start (single_within _ _ underlying),
        declared_within components unit scope known _ ⟨stored, kept stored member, named⟩⟩
  | elementSlice _ _ _ _ ih => exact ih within kept
  | elementMap _ _ _ _ ih => exact ih within kept
  | elementRecord _ _ _ claimed declared ih =>
      obtain ⟨final, _⟩ := ih (SourceUnit.claim_within _ _ _ _ _ claimed within) kept
      obtain ⟨stored, member, named⟩ := declaration_declares components _ _ _ _ _ declared
      exact ⟨final, declared_within components unit scope known _ ⟨stored, kept stored member, named⟩⟩
  | noFields => exact ⟨within, fun field member => absurd member List.not_mem_nil⟩
  | field _ _ _ _ _ compiled first last =>
      have grows := rendered_grows components _ _ _ compiled
      obtain ⟨middle, type⟩ := first within (fun d member => kept d (grows.keep d member))
      obtain ⟨final, others⟩ := last middle kept
      refine ⟨final, fun field member => ?_⟩
      rcases List.mem_cons.mp member with same | later
      · rw [same, property_field_type]
        exact field_type_within _ _ _ _ _ type
      · exact others field later

end

end ApiBindings
