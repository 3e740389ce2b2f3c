import ApiBindings.Failure
set_option autoImplicit false

namespace ApiBindings

inductive Defect where
  | malformed (cause : Malformation)
  | unsupported (shape : UnsupportedShape)
deriving DecidableEq, Repr

def Defect.at (name : String) : Defect → Failure
  | .malformed cause => .malformed name cause
  | .unsupported shape => .unsupported name shape

inductive Shape where
  | scalar (type : ScalarType)
  | enumeration (type : ScalarType) (values : List EnumValue)
  | array (items : Schema)
  | object (properties : List (String × Schema))
  | map (value : Option Schema)

namespace Shape

def isSimple : Shape → Bool
  | .scalar _ | .enumeration _ _ => true
  | _ => false

def isObject : Shape → Bool
  | .object _ => true
  | _ => false

def isCollection : Shape → Bool
  | .array _ | .map _ => true
  | _ => false

end Shape

namespace Schema

theorem size_eq (s : Schema) :
    sizeOf s = 1 + sizeOf s.type + sizeOf s.ref + sizeOf s.title + sizeOf s.description + sizeOf s.format +
      sizeOf s.enumValues + sizeOf s.properties + sizeOf s.required + sizeOf s.items + sizeOf s.additional +
      sizeOf s.nullable + sizeOf s.anyOf + sizeOf s.oneOf + sizeOf s.allOf + sizeOf s.limits := by
  cases s
  simp only [Schema.mk.sizeOf_spec]

theorem size_pos (s : Schema) : 0 < sizeOf s := by
  rw [size_eq]
  omega

theorem items_smaller {s t : Schema} (held : s.items = some t) : sizeOf t < sizeOf s := by
  rw [size_eq s, held, Option.some.sizeOf_spec]
  omega

theorem properties_smaller {s : Schema} {properties : List (String × Schema)} (held : s.properties = some properties) :
    sizeOf properties < sizeOf s := by
  rw [size_eq s, held, Option.some.sizeOf_spec]
  omega

theorem additional_smaller {s t : Schema} (held : s.additional = some (.schema t)) : sizeOf t < sizeOf s := by
  rw [size_eq s, held, Option.some.sizeOf_spec, OtherProperties.schema.sizeOf_spec]
  omega

theorem all_of_smaller {s t : Schema} {members : List Schema} (held : s.allOf = some members) (member : t ∈ members) :
    sizeOf t < sizeOf s := by
  have inside := List.sizeOf_lt_of_mem member
  rw [size_eq s, held, Option.some.sizeOf_spec]
  omega

theorem union_smaller {s t : Schema} {members : List Schema} (held : s.union = some members) (member : t ∈ members) :
    sizeOf t < sizeOf s := by
  have inside := List.sizeOf_lt_of_mem member
  rcases Option.or_eq_some_iff.mp held with any | ⟨_, one⟩
  · rw [size_eq s, any, Option.some.sizeOf_spec]
    omega
  · rw [size_eq s, one, Option.some.sizeOf_spec]
    omega

theorem nullable_partner_smaller {s t : Schema} (wrapped : s.nullablePartner = some t) : sizeOf t < sizeOf s := by
  unfold nullablePartner at wrapped
  split at wrapped
  next a b members =>
    split at wrapped
    · obtain rfl := Option.some.inj wrapped
      exact union_smaller members List.mem_cons_self
    · split at wrapped
      · obtain rfl := Option.some.inj wrapped
        exact union_smaller members (List.mem_cons_of_mem _ List.mem_cons_self)
      · cases wrapped
  next => cases wrapped

def effective (s : Schema) : Except Defect Schema :=
  match _wrapped : s.nullablePartner with
  | some inner => effective inner
  | none =>
    match _composed : s.allOf with
    | some [only] =>
      if s.properties.isNone then effective only else .error (.unsupported (.composition 1))
    | some members => .error (.unsupported (.composition members.length))
    | none =>
      match s.union with
      | some members => .error (.unsupported (.union members.length))
      | none => .ok s
termination_by sizeOf s
decreasing_by
  · exact nullable_partner_smaller _wrapped
  · exact all_of_smaller _composed List.mem_cons_self

theorem effective_size_le {s t : Schema} (stripped : s.effective = .ok t) : sizeOf t ≤ sizeOf s := by
  fun_induction effective s with
  | case1 s inner wrapped ih => exact Nat.le_trans (ih stripped) (Nat.le_of_lt (nullable_partner_smaller wrapped))
  | case2 s wrapped only composed bare ih =>
      exact Nat.le_trans (ih stripped) (Nat.le_of_lt (all_of_smaller composed List.mem_cons_self))
  | case3 | case4 | case5 => cases stripped
  | case6 => exact Except.ok.inj stripped ▸ Nat.le_refl _

def scalarShape (type : ScalarType) (s : Schema) : Shape :=
  match s.enumValues with
  | some values =>
    if type.hasConstants && values.any (· ≠ .null) then .enumeration type values else .scalar type
  | none => .scalar type

def mapShape (value : Schema) : Except Defect Shape :=
  if value.isShapeless then .error (.unsupported .untypedValues) else .ok (.map (some value))

def objectShape (s : Schema) : Except Defect Shape :=
  match s.properties with
  | some (p :: rest) => .ok (.object (p :: rest))
  | _ =>
    match s.additional with
    | some (.schema value) => mapShape value
    | some (.allowed false) => .ok (.object [])
    | some (.allowed true) | none => .ok (.map none)

def arrayShape (s : Schema) : Except Defect Shape :=
  match s.items with
  | some items => .ok (.array items)
  | none => .error (.malformed .arrayWithoutItems)

def allowsOthers (s : Schema) : Bool :=
  match s.additional with
  | some (.allowed b) => b
  | _ => false

def inferredShape (s : Schema) : Except Defect Shape :=
  match s.additional with
  | some (.schema value) => mapShape value
  | _ =>
    if s.allowsOthers && s.properties.isNone then .ok (.map none)
    else match s.items, s.properties with
      | some items, _ => .ok (.array items)
      | none, some properties => .ok (.object properties)
      | none, none => .error (.malformed .noShape)

def declaredShape (type : String) (s : Schema) : Except Defect Shape :=
  if type = "array" then s.arrayShape
  else if type = "object" then s.objectShape
  else match ScalarType.ofTypeName? type with
    | some scalar => .ok (s.scalarShape scalar)
    | none => .error (.malformed (.unknownType type))

def formatType (s : Schema) : Option ScalarType :=
  match s.format with
  | some format =>
    if s.firstType = some "array" ∨ s.firstType = some "object" then none
    else ScalarType.ofFormat? format (s.firstType == some "integer" || s.firstType == some "number")
  | none => none

def classify (s : Schema) : Except Defect Shape :=
  match s.formatType, s.firstType with
  | some scalar, _ => .ok (s.scalarShape scalar)
  | none, some type => s.declaredShape type
  | none, none => s.inferredShape

theorem scalar_shape_simple (type : ScalarType) (s : Schema) : (s.scalarShape type).isSimple = true := by
  unfold scalarShape
  split
  · split <;> rfl
  · rfl

inductive ShapedAs (s : Schema) : Shape → Prop where
  | scalar (type : ScalarType) : ShapedAs s (s.scalarShape type)
  | array {items : Schema} (held : s.items = some items) : ShapedAs s (.array items)
  | object {properties : List (String × Schema)} (held : s.properties = some properties)
      (typed : s.firstType = some "object" ∨ s.firstType = none ∧ s.items = none) : ShapedAs s (.object properties)
  | closed (typed : s.firstType = some "object") (unlisted : ∀ p rest, s.properties ≠ some (p :: rest)) :
      ShapedAs s (.object [])
  | openMap : ShapedAs s (.map none)
  | map {value : Schema} (held : s.additional = some (.schema value)) : ShapedAs s (.map (some value))

theorem shaped_map_shape {s value : Schema} {shape : Shape} (held : s.additional = some (.schema value))
    (made : mapShape value = .ok shape) : s.ShapedAs shape := by
  unfold mapShape at made
  split at made
  · cases made
  · exact Except.ok.inj made ▸ .map held

theorem shaped_array_shape {s : Schema} {shape : Shape} (made : s.arrayShape = .ok shape) : s.ShapedAs shape := by
  unfold arrayShape at made
  split at made
  next found => exact Except.ok.inj made ▸ .array found
  next => cases made

theorem shaped_object_shape {s : Schema} {shape : Shape} (typed : s.firstType = some "object")
    (made : s.objectShape = .ok shape) : s.ShapedAs shape := by
  unfold objectShape at made
  split at made
  next found => exact Except.ok.inj made ▸ .object found (.inl typed)
  next unlisted =>
    split at made
    next held => exact shaped_map_shape held made
    next => exact Except.ok.inj made ▸ .closed typed unlisted
    all_goals exact Except.ok.inj made ▸ .openMap

theorem shaped_inferred_shape {s : Schema} {shape : Shape} (untyped : s.firstType = none)
    (made : s.inferredShape = .ok shape) : s.ShapedAs shape := by
  unfold inferredShape at made
  split at made
  next held => exact shaped_map_shape held made
  next =>
    split at made
    · exact Except.ok.inj made ▸ .openMap
    · split at made
      next found => exact Except.ok.inj made ▸ .array found
      next bare found => exact Except.ok.inj made ▸ .object found (.inr ⟨untyped, bare⟩)
      next => cases made

theorem shaped_declared_shape {type : String} {s : Schema} {shape : Shape} (typed : s.firstType = some type)
    (made : s.declaredShape type = .ok shape) : s.ShapedAs shape := by
  unfold declaredShape at made
  split at made
  · exact shaped_array_shape made
  · split at made
    next object => exact shaped_object_shape (object ▸ typed) made
    next =>
      split at made
      · exact Except.ok.inj made ▸ .scalar _
      · cases made

theorem shaped_classify {s : Schema} {shape : Shape} (classified : s.classify = .ok shape) : s.ShapedAs shape := by
  unfold classify at classified
  split at classified
  · exact Except.ok.inj classified ▸ .scalar _
  next typed => exact shaped_declared_shape typed classified
  next untyped => exact shaped_inferred_shape untyped classified

def Holds (bound : Nat) : Shape → Prop
  | .array items => sizeOf items < bound
  | .object properties => sizeOf properties < bound
  | .map (some value) => sizeOf value < bound
  | _ => True

theorem holds_simple {bound : Nat} {shape : Shape} (simple : shape.isSimple = true) : Holds bound shape := by
  cases shape with
  | scalar | enumeration => trivial
  | array | object | map => cases simple

theorem holds_nil (s : Schema) : Holds (sizeOf s) (.object []) := by
  have typed : 0 < sizeOf s.type := by
    cases s.type <;> simp only [Option.none.sizeOf_spec, Option.some.sizeOf_spec] <;> omega
  rw [Holds, size_eq, List.nil.sizeOf_spec]
  omega

theorem holds_classify {s : Schema} {shape : Shape} (classified : s.classify = .ok shape) : Holds (sizeOf s) shape := by
  cases shaped_classify classified with
  | scalar type => exact holds_simple (scalar_shape_simple type s)
  | array held => exact items_smaller held
  | object held => exact properties_smaller held
  | closed => exact holds_nil s
  | openMap => trivial
  | map held => exact additional_smaller held

end Schema

end ApiBindings
