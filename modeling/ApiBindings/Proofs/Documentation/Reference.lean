import ApiBindings.Proofs.Documentation.Schema
import ApiBindings.Proofs.Except
import ApiBindings.Shape.Reference
set_option autoImplicit false

namespace ApiBindings

theorem find_map_entry {α β : Type} (f : α → β) (name : String) (entries : List (String × α)) :
    (mapValues f entries).find? (·.1 = name) = (entries.find? (·.1 = name)).map (Prod.map id f) := by
  rw [List.find?_map]
  rfl

theorem lookup_map_entry {α β : Type} (f : α → β) (name : String) (entries : List (String × α)) :
    (mapValues f entries).lookup name = (entries.lookup name).map f := by
  induction entries with
  | nil => rfl
  | cons entry rest ih =>
      obtain ⟨key, a⟩ := entry
      change ((key, f a) :: mapValues f rest).lookup name = _
      rw [List.lookup_cons, List.lookup_cons, ih]
      split <;> rfl

namespace Components

variable (components : Components)

theorem undocumented_schema (path : String) :
    components.undocumented.schema? path = (components.schema? path).map undocumentedEntry := by
  rw [schema?, schema?, Option.map_bind]
  exact congrArg _ (funext fun name => find_map_entry Schema.undocumented name components.schemas)

theorem undocumented_type_name (path : String) : components.undocumented.typeName path = components.typeName path := by
  rw [typeName, typeName, undocumented_schema]
  cases components.schema? path <;> rfl

theorem undocumented_follow (left : Nat) (s : Schema) :
    components.undocumented.follow left s.undocumented = (components.follow left s).map Schema.undocumented := by
  induction left generalizing s with
  | zero => rfl
  | succ left ih =>
      rw [follow, follow, Schema.undocumented_ref]
      split
      next => rfl
      next path _ =>
        rw [undocumented_schema]
        rcases components.schema? path with _ | ⟨name, target⟩
        · rfl
        · simp only [Option.map_some, Prod.map_apply, Schema.undocumented_effective]
          cases target.effective with
          | error defect => rfl
          | ok next => exact ih next

theorem undocumented_resolve (s : Schema) :
    components.undocumented.resolve s.undocumented = (components.resolve s).map Schema.undocumented := by
  rw [resolve, resolve, Schema.undocumented_effective]
  cases s.effective with
  | error defect => rfl
  | ok target => exact components.undocumented_follow longestChain target

theorem undocumented_target_shape (s : Schema) :
    components.undocumented.targetShape s.undocumented = (components.targetShape s).map Shape.undocumented := by
  rw [targetShape, targetShape, undocumented_resolve]
  cases components.resolve s with
  | error defect => rfl
  | ok target => exact target.undocumented_classify

theorem undocumented_is_collection_ref (s : Schema) :
    components.undocumented.isCollectionRef s.undocumented = components.isCollectionRef s := by
  rw [isCollectionRef, isCollectionRef, undocumented_target_shape]
  rcases components.targetShape s with _ | _ | _ | _ | _ | _ <;> rfl

theorem undocumented_is_object_ref (s : Schema) :
    components.undocumented.isObjectRef s.undocumented = components.isObjectRef s := by
  rw [isObjectRef, isObjectRef, undocumented_target_shape]
  rcases components.targetShape s with _ | _ | _ | _ | _ | _ <;> rfl

theorem undocumented_parameter (entry : ParameterEntry) :
    components.undocumented.parameter entry.undocumented =
      (components.parameter entry).map Parameter.undocumented := by
  cases entry with
  | inline parameter => rfl
  | reference path =>
      have found : components.undocumented.parameter? path = (components.parameter? path).map Parameter.undocumented := by
        rw [parameter?, parameter?, Option.map_bind]
        exact congrArg _ (funext fun name => lookup_map_entry Parameter.undocumented name components.parameters)
      rw [ParameterEntry.undocumented, parameter, parameter, found]
      cases components.parameter? path <;> rfl

end Components

namespace Schema

theorem undocumented_bare_reference (s : Schema) : s.undocumented.bareReference = s.bareReference := by
  rw [bareReference, bareReference, undocumented_nullable_partner]
  cases s.nullablePartner <;> simp

theorem undocumented_array_of_reference (s : Schema) : s.undocumented.arrayOfReference = s.arrayOfReference := by
  have inner : s.undocumented.nullablePartner.getD s.undocumented = (s.nullablePartner.getD s).undocumented := by
    rw [undocumented_nullable_partner]
    cases s.nullablePartner <;> rfl
  have items (t : Schema) : t.undocumented.items.bind bareReference = t.items.bind bareReference := by
    rw [undocumented_items]
    cases t.items with
    | none => rfl
    | some item => exact undocumented_bare_reference item
  rw [arrayOfReference, arrayOfReference, inner]
  simp only [undocumented_first_type, undocumented_ref, items]

end Schema

end ApiBindings
