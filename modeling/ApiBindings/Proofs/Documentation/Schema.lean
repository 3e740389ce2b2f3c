import ApiBindings.Proofs.Shape.Reference
import ApiBindings.Rendering.Rules
set_option autoImplicit false

namespace ApiBindings

mutual

def OtherProperties.undocumented : OtherProperties → OtherProperties
  | .allowed b => .allowed b
  | .schema s => .schema s.undocumented

def Schema.undocumented : Schema → Schema
  | ⟨type, ref, _, _, format, enumValues, properties, required, items, additional, nullable, anyOf, oneOf, allOf, limits⟩ =>
    ⟨type, ref, none, none, format, enumValues, undocumentedProperties? properties, required, undocumentedSchema? items,
      undocumentedOthers? additional, nullable, undocumentedMembers? anyOf, undocumentedMembers? oneOf,
      undocumentedMembers? allOf, limits⟩

def undocumentedSchema? : Option Schema → Option Schema
  | none => none
  | some s => some s.undocumented

def undocumentedOthers? : Option OtherProperties → Option OtherProperties
  | none => none
  | some others => some others.undocumented

def undocumentedMembers? : Option (List Schema) → Option (List Schema)
  | none => none
  | some members => some (undocumentedMembers members)

def undocumentedMembers : List Schema → List Schema
  | [] => []
  | s :: rest => s.undocumented :: undocumentedMembers rest

def undocumentedProperties? : Option (List (String × Schema)) → Option (List (String × Schema))
  | none => none
  | some properties => some (undocumentedProperties properties)

def undocumentedProperties : List (String × Schema) → List (String × Schema)
  | [] => []
  | entry :: rest => undocumentedProperty entry :: undocumentedProperties rest

def undocumentedProperty : String × Schema → String × Schema
  | (name, s) => (name, s.undocumented)

end

abbrev undocumentedEntry : String × Schema → String × Schema := Prod.map id Schema.undocumented

theorem undocumented_members (members : List Schema) : undocumentedMembers members = members.map Schema.undocumented := by
  induction members with
  | nil => rfl
  | cons s rest ih => rw [undocumentedMembers, List.map_cons, ih]

theorem undocumented_properties (properties : List (String × Schema)) :
    undocumentedProperties properties = properties.map undocumentedEntry := by
  induction properties with
  | nil => rfl
  | cons entry rest ih =>
      obtain ⟨name, s⟩ := entry
      rw [undocumentedProperties, undocumentedProperty, List.map_cons, ih]
      rfl

namespace Schema

theorem undocumented_eq (s : Schema) : s.undocumented =
    { s with
      title := none
      description := none
      properties := s.properties.map (·.map undocumentedEntry)
      items := s.items.map undocumented
      additional := s.additional.map OtherProperties.undocumented
      anyOf := s.anyOf.map (·.map undocumented)
      oneOf := s.oneOf.map (·.map undocumented)
      allOf := s.allOf.map (·.map undocumented) } := by
  have members (members : Option (List Schema)) : undocumentedMembers? members = members.map (·.map undocumented) := by
    cases members with
    | none => rfl
    | some members => exact congrArg some (undocumented_members members)
  obtain ⟨_, _, _, _, _, _, properties, _, items, additional, _, anyOf, oneOf, allOf, _⟩ := s
  have named : undocumentedProperties? properties = properties.map (·.map undocumentedEntry) := by
    cases properties with
    | none => rfl
    | some properties => exact congrArg some (undocumented_properties properties)
  have item : undocumentedSchema? items = items.map undocumented := by cases items <;> rfl
  have others : undocumentedOthers? additional = additional.map OtherProperties.undocumented := by
    cases additional <;> rfl
  rw [undocumented, members, members, members, named, item, others]

section

variable (s : Schema)

@[simp] theorem undocumented_type : s.undocumented.type = s.type := by rw [undocumented_eq]
@[simp] theorem undocumented_ref : s.undocumented.ref = s.ref := by rw [undocumented_eq]
@[simp] theorem undocumented_format : s.undocumented.format = s.format := by rw [undocumented_eq]
@[simp] theorem undocumented_enum_values : s.undocumented.enumValues = s.enumValues := by rw [undocumented_eq]
@[simp] theorem undocumented_required : s.undocumented.required = s.required := by rw [undocumented_eq]
@[simp] theorem undocumented_limits : s.undocumented.limits = s.limits := by rw [undocumented_eq]

@[simp] theorem undocumented_items : s.undocumented.items = s.items.map undocumented := by rw [undocumented_eq]

@[simp] theorem undocumented_all_of : s.undocumented.allOf = s.allOf.map (·.map undocumented) := by
  rw [undocumented_eq]

@[simp] theorem undocumented_named : s.undocumented.properties = s.properties.map (·.map undocumentedEntry) := by
  rw [undocumented_eq]

@[simp] theorem undocumented_additional :
    s.undocumented.additional = s.additional.map OtherProperties.undocumented := by
  rw [undocumented_eq]

@[simp] theorem undocumented_union : s.undocumented.union = s.union.map (·.map undocumented) := by
  rw [undocumented_eq]
  unfold union
  cases s.anyOf <;> rfl

@[simp] theorem undocumented_first_type : s.undocumented.firstType = s.firstType := by
  rw [firstType, firstType, undocumented_type]

@[simp] theorem undocumented_is_null : s.undocumented.isNull = s.isNull := by rw [isNull, isNull, undocumented_type]

@[simp] theorem undocumented_requires (property : String) : s.undocumented.requires property = s.requires property := by
  rw [requires, requires, undocumented_required]

theorem undocumented_shapeless : s.undocumented.isShapeless = s.isShapeless := by
  rw [undocumented_eq]
  simp [isShapeless]

theorem undocumented_nullable_partner : s.undocumented.nullablePartner = s.nullablePartner.map undocumented := by
  rw [nullablePartner, nullablePartner, undocumented_union]
  rcases s.union with _ | _ | ⟨a, _ | ⟨b, _ | ⟨c, rest⟩⟩⟩
  case some.cons.cons.nil =>
    simp only [Option.map_some, List.map_cons, List.map_nil, undocumented_is_null]
    split
    · rfl
    · split <;> rfl
  all_goals rfl

end

theorem effective_eq (s : Schema) : s.effective =
    match s.nullablePartner with
    | some inner => inner.effective
    | none =>
      match s.allOf with
      | some [only] => if s.properties.isNone then only.effective else .error (.unsupported (.composition 1))
      | some members => .error (.unsupported (.composition members.length))
      | none =>
        match s.union with
        | some members => .error (.unsupported (.union members.length))
        | none => .ok s := by
  rw [effective]
  grind

theorem undocumented_effective (s : Schema) : s.undocumented.effective = s.effective.map undocumented := by
  fun_induction effective s with
  | case1 s inner wrapped ih => rw [effective_eq, undocumented_nullable_partner, wrapped]; exact ih
  | case2 s unwrapped only composed bare ih =>
      rw [effective_eq, undocumented_nullable_partner, unwrapped, undocumented_all_of, composed]
      simpa [bare] using ih
  | case3 s unwrapped only composed bare =>
      rw [effective_eq, undocumented_nullable_partner, unwrapped, undocumented_all_of, composed]
      simp [bare, Except.map]
  | case4 s unwrapped members several composed =>
      rw [effective_eq, undocumented_nullable_partner, unwrapped, undocumented_all_of, composed]
      rcases members with _ | ⟨first, _ | ⟨second, rest⟩⟩
      · rfl
      · exact absurd rfl (several first)
      · simp [Except.map]
  | case5 s unwrapped alone members union =>
      rw [effective_eq, undocumented_nullable_partner, unwrapped, undocumented_all_of, alone, undocumented_union, union]
      simp [Except.map]
  | case6 s unwrapped alone plain =>
      rw [effective_eq, undocumented_nullable_partner, unwrapped, undocumented_all_of, alone, undocumented_union, plain]
      rfl

end Schema

def Shape.undocumented : Shape → Shape
  | .array items => .array items.undocumented
  | .object properties => .object (properties.map undocumentedEntry)
  | .map value => .map (value.map Schema.undocumented)
  | shape => shape

namespace Schema

theorem undocumented_map_shape (value : Schema) : mapShape value.undocumented = (mapShape value).map Shape.undocumented := by
  rw [mapShape, mapShape, undocumented_shapeless]
  split <;> rfl

theorem undocumented_scalar_shape (type : ScalarType) (s : Schema) :
    s.undocumented.scalarShape type = (s.scalarShape type).undocumented := by
  rw [scalarShape, scalarShape, undocumented_enum_values]
  split
  · split <;> rfl
  · rfl

theorem undocumented_object_shape (s : Schema) : s.undocumented.objectShape = s.objectShape.map Shape.undocumented := by
  rw [objectShape, objectShape, undocumented_named, undocumented_additional]
  rcases s.properties with _ | _ | ⟨first, rest⟩
  case some.cons => rfl
  all_goals
    rcases s.additional with _ | ⟨_ | _⟩ | ⟨value⟩
    · rfl
    · rfl
    · rfl
    · exact undocumented_map_shape value

theorem undocumented_array_shape (s : Schema) : s.undocumented.arrayShape = s.arrayShape.map Shape.undocumented := by
  rw [arrayShape, arrayShape, undocumented_items]
  cases s.items <;> rfl

theorem undocumented_inferred_shape (s : Schema) :
    s.undocumented.inferredShape = s.inferredShape.map Shape.undocumented := by
  have allows : s.undocumented.allowsOthers = s.allowsOthers := by
    rw [allowsOthers, allowsOthers, undocumented_additional]
    rcases s.additional with _ | ⟨b⟩ | ⟨value⟩ <;> rfl
  rw [inferredShape, inferredShape, allows, undocumented_items, undocumented_named, Option.isNone_map,
    undocumented_additional]
  rcases s.additional with _ | ⟨b⟩ | ⟨value⟩
  case some.schema => exact undocumented_map_shape value
  -- Whether others are allowed is settled, so both of these go on alike.
  all_goals
    generalize (s.allowsOthers && s.properties.isNone) = others
    cases others with
    | true => rfl
    | false =>
        rcases s.items with _ | items
        · rcases s.properties with _ | properties <;> rfl
        · rfl

theorem undocumented_classify (s : Schema) : s.undocumented.classify = s.classify.map Shape.undocumented := by
  have formatted : s.undocumented.formatType = s.formatType := by simp [formatType]
  have declared (type : String) : s.undocumented.declaredShape type = (s.declaredShape type).map Shape.undocumented := by
    unfold declaredShape
    split
    · exact undocumented_array_shape s
    split
    · exact undocumented_object_shape s
    split
    · exact congrArg Except.ok (undocumented_scalar_shape _ s)
    · rfl
  rw [classify, classify, formatted, undocumented_first_type]
  split
  · exact congrArg Except.ok (undocumented_scalar_shape _ s)
  · exact declared _
  · exact undocumented_inferred_shape s

end Schema

abbrev mapValues {α β : Type} (f : α → β) (entries : List (String × α)) : List (String × β) :=
  entries.map (Prod.map id f)

def Parameter.undocumented (parameter : Parameter) : Parameter :=
  { parameter with description := none, schema := parameter.schema.map Schema.undocumented }

def ParameterEntry.undocumented : ParameterEntry → ParameterEntry
  | .reference path => .reference path
  | .inline parameter => .inline parameter.undocumented

def Content.undocumented (content : Content) : Content := mapValues (·.map Schema.undocumented) content

def RequestBody.undocumented (body : RequestBody) : RequestBody := { body with content := body.content.undocumented }

def Response.undocumented (response : Response) : Response := { content := response.content.undocumented }

def Operation.undocumented (operation : Operation) : Operation :=
  { operation with
    summary := none
    description := none
    parameters := operation.parameters.map ParameterEntry.undocumented
    requestBody := operation.requestBody.map RequestBody.undocumented
    responses := mapValues Response.undocumented operation.responses }

def PathItem.undocumented (item : PathItem) : PathItem where
  get := item.get.map Operation.undocumented
  put := item.put.map Operation.undocumented
  post := item.post.map Operation.undocumented
  patch := item.patch.map Operation.undocumented
  delete := item.delete.map Operation.undocumented
  parameters := item.parameters.map ParameterEntry.undocumented

def Components.undocumented (components : Components) : Components where
  schemas := mapValues Schema.undocumented components.schemas
  parameters := mapValues Parameter.undocumented components.parameters

def Document.undocumented (doc : Document) : Document where
  paths := mapValues PathItem.undocumented doc.paths
  components := doc.components.map Components.undocumented

end ApiBindings
