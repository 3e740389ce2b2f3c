import ApiBindings.Proofs.Operation.Compiled
import ApiBindings.Proofs.Rendering.Origin
import ApiBindings.Proofs.Shape.Reference
set_option autoImplicit false

namespace ApiBindings

theorem list_property (components : Components) (properties listed : List (String × Schema)) (wire : String)
    (items : Schema) (lists : listProperties components properties = .ok listed) (member : (wire, items) ∈ listed) :
    ∃ property, (wire, property) ∈ properties ∧ components.targetShape property = .ok (.array items) := by
  induction properties generalizing listed with
  | nil =>
      cases lists
      exact absurd member List.not_mem_nil
  | cons entry rest ih =>
      obtain ⟨key, property⟩ := entry
      obtain ⟨shape, shaped, lists⟩ := except_bind_ok _ _ _ lists
      obtain ⟨others, behind, lists⟩ := except_bind_ok _ _ _ lists
      have later (found : (wire, items) ∈ others) :
          ∃ held, (wire, held) ∈ (key, property) :: rest ∧ components.targetShape held = .ok (.array items) := by
        obtain ⟨held, present, array⟩ := ih others behind found
        exact ⟨held, List.mem_cons_of_mem _ present, array⟩
      cases shape
      case array own =>
          obtain rfl := Except.ok.inj lists
          rcases List.mem_cons.mp member with same | found
          · obtain ⟨rfl, rfl⟩ := Prod.mk.inj same
            exact ⟨property, List.mem_cons_self, shaped⟩
          · exact later found
      all_goals
        obtain rfl := Except.ok.inj lists
        exact later member

theorem inline_shape (components : Components) (target : Schema) (shape : Shape) (bare : target.effective = .ok target)
    (inline : target.ref = none) (shaped : components.targetShape target = .ok shape) : target.classify = .ok shape := by
  obtain ⟨found, followed, classified⟩ := target_shape_found components target target shape bare shaped
  exact follow_inline components _ target found inline followed ▸ classified

theorem resolve_effective (components : Components) (s target : Schema) (stripped : s.effective = .ok target) :
    components.targetShape s = components.targetShape target := by
  simp only [Components.targetShape, Components.resolve, stripped, Schema.effective_idempotent s target stripped]

theorem field_type_kept (type : TypeExpr) (collection required : Bool) (closesCycle : Unit → Bool)
    (kept : collection = true ∨ type.isNilable = true) : fieldType type collection required closesCycle = type := by
  rw [fieldType, if_pos]
  rcases kept with known | nilable
  · rw [known, Bool.true_or]
  · rw [nilable, Bool.or_true]

theorem array_element (components : Components) (guard : Guard Schema) (hint : String) (target items : Schema)
    (type : TypeExpr) (before after : SourceUnit) (bare : target.effective = .ok target)
    (array : components.targetShape target = .ok (.array items))
    (rendered : Rendered components (.element guard hint target type) before after) :
    (∃ path name, target.ref = some path ∧ components.typeName path = .ok name ∧ type = .named name) ∨
      ∃ element, type = .slice element ∧
        Rendered components (.element guard (hint ++ "Item") items element) before after := by
  have inner {found : Schema} {shape : Shape} (stripped : target.effective = .ok found) (inline : found.ref = none)
      (classified : found.classify = .ok shape) : found = target ∧ shape = .array items := by
    obtain rfl := Except.ok.inj (bare.symm.trans stripped)
    exact ⟨rfl, Except.ok.inj (classified.symm.trans (inline_shape components target _ bare inline array))⟩
  cases rendered with
  | elementReference stripped reference named =>
      obtain rfl := Except.ok.inj (bare.symm.trans stripped)
      exact Or.inl ⟨_, _, reference, named, rfl⟩
  | elementSlice stripped inline classified item =>
      obtain ⟨rfl, same⟩ := inner stripped inline classified
      obtain rfl := Shape.array.inj same
      exact Or.inr ⟨_, rfl, item⟩
  | elementScalar stripped inline classified | elementEnumeration stripped inline classified
  | elementOpenMap stripped inline classified | elementMap stripped inline classified
  | elementRecord stripped inline classified => cases (inner stripped inline classified).2

theorem list_field_typed (components : Components) (guard : Guard Schema) (parent : String) (object : Schema)
    (properties : List (String × Schema)) (fields : List Field) (before after : SourceUnit)
    (rendered : Rendered components (.fields guard parent object {} properties fields) before after)
    (keyed : (properties.map Prod.fst).Nodup) (wire : String) (property items : Schema)
    (listed : (wire, property) ∈ properties) (array : components.targetShape property = .ok (.array items))
    (field : Field) (member : field ∈ fields) (tagged : field.tag.map (·.wire) = some wire) :
    (∃ target path name, property.effective = .ok target ∧ target.ref = some path ∧ components.typeName path = .ok name ∧
      field.type = .named name) ∨
    ∃ hint element first last, field.type = .slice element ∧ (∀ d ∈ last.declarations, d ∈ after.declarations) ∧
      Rendered components (.element guard hint items element) first last := by
  obtain ⟨⟨key, held⟩, present, name, target, type, collection, first, last, stripped, collects, typed, below, rfl⟩ :=
    field_property components guard parent object {} properties fields before after field rendered member
  obtain rfl : key = wire := Option.some.inj tagged
  have same : (key, held) = (key, property) := List.inj_on_of_nodup_map keyed present listed rfl
  obtain rfl := (Prod.mk.inj same).2
  have bare := Schema.effective_idempotent held target stripped
  have shaped : components.targetShape target = .ok (.array items) :=
    resolve_effective components held target stripped ▸ array
  rw [property_field_type]
  rcases array_element components guard _ target items type first last bare shaped typed with
    ⟨path, name, reference, named, rfl⟩ | ⟨element, rfl, item⟩
  · have known : collection = true := by
      rw [Components.isCollection, reference, Option.isSome_some, if_pos rfl, Components.isCollectionRef, shaped]
        at collects
      exact (Except.ok.inj collects).symm
    rw [field_type_kept _ _ _ _ (Or.inl known)]
    exact Or.inl ⟨target, path, name, stripped, reference, named, rfl⟩
  · rw [field_type_kept _ _ _ _ (Or.inr rfl)]
    exact Or.inr ⟨_, element, first, last, rfl, below, item⟩

theorem named_item_type (components : Components) (name : String) (items : Schema) (type : TypeExpr)
    (chosen : itemType components (.named name) items = .ok (some type)) :
    ∃ path item, items.bareReference = some path ∧ components.typeName path = .ok item ∧ type = .named item := by
  cases referred : items.bareReference with
  | none =>
      simp only [itemType, referred] at chosen
      cases chosen
  | some path =>
      simp only [itemType, referred] at chosen
      cases typed : components.typeName path with
      | error defect =>
          rw [typed] at chosen
          cases chosen
      | ok item =>
          rw [typed] at chosen
          exact ⟨path, item, rfl, typed, (Option.some.inj (Except.ok.inj chosen)).symm⟩

end ApiBindings
