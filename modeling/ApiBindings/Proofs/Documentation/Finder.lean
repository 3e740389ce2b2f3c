import ApiBindings.Proofs.Documentation.Agreement
import ApiBindings.Proofs.Operation.Lists
set_option autoImplicit false

namespace ApiBindings

-- A list is a slice or stands for a named type behind a reference. Neither
-- becomes a pointer.
theorem list_field_plain (components : Components) (guard : Guard Schema) (parent : String) (object : Schema)
    (properties : List (String × Schema)) (fields : List Field) (before after : SourceUnit)
    (rendered : Rendered components (.fields guard parent object {} properties fields) before after)
    (keyed : (properties.map Prod.fst).Nodup) (wire : String) (property items : Schema)
    (listed : (wire, property) ∈ properties) (array : components.targetShape property = .ok (.array items))
    (field : Field) (member : field ∈ fields) (tagged : field.tag.map (·.wire) = some wire) (pointed : TypeExpr) :
    field.type ≠ .pointer pointed := by
  rcases list_field_typed components guard parent object properties fields before after rendered keyed wire property items
    listed array field member tagged with ⟨_, _, _, _, _, _, same⟩ | ⟨_, _, _, _, same, _⟩
  · simp [same]
  · simp [same]

theorem plain_types_same (loose : Prop) (a b : Field) (agree : a.Agrees loose b)
    (first : ∀ pointed, a.type ≠ .pointer pointed) (second : ∀ pointed, b.type ≠ .pointer pointed) : a.type = b.type := by
  have plain (type : TypeExpr) (never : ∀ pointed, type ≠ .pointer pointed) : type.toPointer = .pointer type := by
    cases type with
    | pointer target => exact absurd rfl (never target)
    | named | slice | map | any => rfl
  rcases agree.type with same | ⟨_, _, same⟩
  · exact same
  · rw [plain a.type first, plain b.type second] at same
    exact TypeExpr.pointer.inj same

section

variable {first second : Components} (agree : first.Agrees second)

theorem lookup_related (related : Schema → Schema → Prop) (wire : String) (properties others : List (String × Schema))
    (entries : List.Forall₂ (EntryRelated related) properties others) :
    Option.Rel related (properties.lookup wire) (others.lookup wire) := by
  induction entries with
  | nil => exact .none
  | @cons p q _ _ head _ ih =>
      obtain ⟨key, s, t, rfl, rfl, schema⟩ := entry_cases _ p q head
      rw [List.lookup_cons, List.lookup_cons]
      split
      · exact .some schema
      · exact ih

theorem field_names_same (related : Schema → Schema → Prop) (names : Names) (properties others : List (String × Schema))
    (entries : List.Forall₂ (EntryRelated related) properties others) :
    fieldNames names properties = fieldNames names others := by
  induction entries generalizing names with
  | nil => rfl
  | @cons p q _ _ head _ ih =>
      obtain ⟨key, s, t, rfl, rfl, _⟩ := entry_cases related p q head
      exact congrArg (List.cons _) (ih _)

include agree

theorem list_properties_agree (properties others : List (String × Schema))
    (entries : List.Forall₂ (EntryRelated Schema.Agrees) properties others) :
    Results (List.Forall₂ (EntryRelated Schema.Agrees)) (listProperties first properties)
      (listProperties second others) := by
  induction entries with
  | nil => exact .ok .nil
  | @cons p q _ _ head _ ih =>
      obtain ⟨key, s, t, rfl, rfl, schema⟩ := entry_cases _ p q head
      refine results_bind _ _ _ _ (first.agrees_target_shape second agree s t schema) fun a b shapes => ?_
      refine results_bind _ _ _ _ ih fun listed found lists => ?_
      cases shapes with
      | array items => exact .ok (.cons ⟨rfl, items⟩ lists)
      | _ => exact .ok lists

theorem item_type_same (list : TypeExpr) (s t : Schema) (same : s.Agrees t) :
    itemType first list s = itemType second list t := by
  cases list with
  | named name =>
      rw [itemType, itemType, s.agrees_bare_reference t same]
      split
      next path _ => rw [first.agrees_type_name second agree path]
      next => rfl
  | _ => rfl

theorem finder_field_same (s t : Schema) (same : s.Agrees t) (names : List (String × String)) (wire : String) :
    finderField first s names wire = finderField second t names wire := by
  have property : Option.Rel Schema.Agrees ((s.properties.getD []).lookup wire) ((t.properties.getD []).lookup wire) := by
    rcases s.agrees_named t same with ⟨none, other⟩ | ⟨own, others, held, kept, entries⟩
    · rw [none, other]
      exact .none
    · rw [held, kept]
      exact lookup_related _ wire own others entries
  rw [finderField, finderField, ← s.agrees_requires t same wire]
  rcases option_cases _ _ property with ⟨none, other⟩ | ⟨u, v, found, other, alike⟩
  · rw [none, other]
  · rw [found, other]
    cases names.lookup wire with
    | none => rfl
    | some name =>
        dsimp only
        rcases results_cases _ _ (u.agrees_effective v alike) with ⟨_, failed, refused⟩ | ⟨a, b, bare, plain, direct⟩
        · rw [failed, refused]
          rfl
        rcases results_cases _ _ (first.agrees_target_shape second agree u v alike) with
          ⟨_, failed, refused⟩ | ⟨shape, kind, shaped, known, shapes⟩
        · rw [bare, plain, failed, refused]
          rfl
        · rw [bare, plain, shaped, known]
          simp only [bind, Except.bind, a.agrees_ref b direct]
          cases shapes <;> rfl

-- The lists are found by their tags in the records that were declared.
theorem plan_finder_same (s t : Schema) (same : s.Agrees t) (responseName : String) (fields others : List Field)
    (lists : ∀ target properties wire items, s.effective = .ok target → target.properties = some properties →
      listProperties first properties = .ok [(wire, items)] →
      Option.Rel (fun a b => a.name = b.name ∧ a.type = b.type)
        (fields.find? fun field => field.tag.map (·.wire) == some wire)
        (others.find? fun field => field.tag.map (·.wire) == some wire)) :
    planFinder first fields responseName s = planFinder second others responseName t := by
  rcases results_cases _ _ (s.agrees_effective t same) with ⟨_, stripped, bare⟩ | ⟨u, v, stripped, bare, inner⟩
  · simp only [planFinder, stripped, bare, Except.mapError, bind, Except.bind]
  unfold planFinder
  rw [stripped, bare]
  rcases u.agrees_named v inner with ⟨none, other⟩ | ⟨own, beside, held, kept, entries⟩
  · simp only [Except.mapError, bind, Except.bind, none, other]
  simp only [Except.mapError, bind, Except.bind, held, kept]
  have listed := list_properties_agree agree own beside entries
  rcases results_cases _ _ listed with ⟨_, failed, refused⟩ | ⟨a, b, found, other, alike⟩
  · rw [failed, refused]
  rw [found, other]
  cases alike with
  | nil => rfl
  | cons head tail =>
      obtain ⟨wire, items, parts, rfl, rfl, schema⟩ := entry_cases _ _ _ head
      cases tail with
      | cons => rfl
      | nil =>
          have list := lists u own wire items stripped held found
          rcases results_cases _ _ (first.agrees_resolve second agree items parts schema) with
            ⟨_, failed, refused⟩ | ⟨item, part, resolved, reached, alike⟩
          · simp only [failed, refused]
          simp only [resolved, reached]
          rcases results_cases _ _ (item.agrees_classify part alike) with
            ⟨_, failed, refused⟩ | ⟨shape, kind, classified, known, shapes⟩
          · simp only [failed, refused]
          simp only [classified, known]
          cases shapes with
          | object properties =>
              have names := field_names_same Schema.Agrees {} _ _ properties
              have byName := finder_field_same agree item part alike
              cases properties with
              | nil => rfl
              | cons =>
                  rcases option_cases _ _ list with ⟨none, other⟩ | ⟨field, found, one, two, same⟩
                  · simp only [none, other]
                  · simp only [one, two, same.1, same.2, item_type_same agree found.type items parts schema, names, byName]
          | _ => rfl

end

end ApiBindings
