import ApiBindings.Proofs.Rendering.Equations
import ApiBindings.Proofs.Rendering.Result
import ApiBindings.Proofs.Shape.Reference
set_option autoImplicit false

namespace ApiBindings

inductive Rendering where
  | declaration (guard : Guard Schema) (name : String) (s : Schema)
  | shape (guard : Guard Schema) (name : String) (target : Schema) (shape : DeclarationShape)
  | element (guard : Guard Schema) (hint : String) (s : Schema) (type : TypeExpr)
  | fields (guard : Guard Schema) (parent : String) (object : Schema) (names : Names)
      (properties : List (String × Schema)) (fields : List Field)

-- One rule for each way in which a task succeeds, with the unit before and after
-- it. Failures are left out: proofs about a finished unit go by induction on these
-- rules and never unfold the functions.
inductive Rendered (components : Components) : Rendering → SourceUnit → SourceUnit → Prop where
  | declaration {guard : Guard Schema} {name : String} {s target : Schema} {shape : DeclarationShape}
      {before middle after : SourceUnit} (stripped : s.effective = .ok target)
      (shaped : Rendered components (.shape guard name target shape) before middle)
      (declared : middle.declare { name, doc := s.doc.or target.doc, shape } = .ok after) :
      Rendered components (.declaration guard name s) before after
  | aliasReference {guard : Guard Schema} {name : String} {target : Schema} {path referred : String}
      {unit : SourceUnit} (reference : target.ref = some path) (named : components.typeName path = .ok referred) :
      Rendered components (.shape guard name target (.alias (.named referred))) unit unit
  | aliasScalar {guard : Guard Schema} {name : String} {target : Schema} {type : ScalarType} {unit : SourceUnit}
      (inline : target.ref = none) (classified : target.classify = .ok (.scalar type)) :
      Rendered components (.shape guard name target (.alias (.ofScalar type))) unit unit
  | enumeration {guard : Guard Schema} {name : String} {target : Schema} {type : ScalarType}
      {values : List EnumValue} {constants : List EnumConstant} {unit : SourceUnit} (inline : target.ref = none)
      (classified : target.classify = .ok (.enumeration type values))
      (fits : enumConstants type name {} values = .ok constants) :
      Rendered components (.shape guard name target (.enumeration (.named type.name) constants)) unit unit
  | slice {guard : Guard Schema} {name : String} {target items : Schema} {type : TypeExpr}
      {before after : SourceUnit} (inline : target.ref = none) (classified : target.classify = .ok (.array items))
      (item : Rendered components (.element guard (name ++ "Item") items type) before after) :
      Rendered components (.shape guard name target (.slice type)) before after
  | record {guard : Guard Schema} {name : String} {target : Schema} {properties : List (String × Schema)}
      {fields : List Field} {before after : SourceUnit} (inline : target.ref = none)
      (classified : target.classify = .ok (.object properties))
      (compiled : Rendered components (.fields guard name target {} properties fields) before after) :
      Rendered components (.shape guard name target (.record fields)) before after
  | openMap {guard : Guard Schema} {name : String} {target : Schema} {unit : SourceUnit}
      (inline : target.ref = none) (classified : target.classify = .ok (.map none)) :
      Rendered components (.shape guard name target (.map .any)) unit unit
  | map {guard : Guard Schema} {name : String} {target value : Schema} {type : TypeExpr}
      {before after : SourceUnit} (inline : target.ref = none)
      (classified : target.classify = .ok (.map (some value)))
      (item : Rendered components (.element guard (name ++ "Value") value type) before after) :
      Rendered components (.shape guard name target (.map type)) before after
  | elementReference {guard : Guard Schema} {hint : String} {s target : Schema} {path referred : String}
      {unit : SourceUnit} (stripped : s.effective = .ok target) (reference : target.ref = some path)
      (named : components.typeName path = .ok referred) :
      Rendered components (.element guard hint s (.named referred)) unit unit
  | elementScalar {guard : Guard Schema} {hint : String} {s target : Schema} {type : ScalarType}
      {unit : SourceUnit} (stripped : s.effective = .ok target) (inline : target.ref = none)
      (classified : target.classify = .ok (.scalar type)) :
      Rendered components (.element guard hint s (.ofScalar type)) unit unit
  | elementEnumeration {guard : Guard Schema} {hint name : String} {s target : Schema} {type : ScalarType}
      {values : List EnumValue} {constants : List EnumConstant} {before middle after : SourceUnit}
      (stripped : s.effective = .ok target) (inline : target.ref = none)
      (classified : target.classify = .ok (.enumeration type values))
      (claimed : before.claim hint = (name, middle)) (fits : enumConstants type name {} values = .ok constants)
      (declared : middle.declare
        { name, doc := target.doc.or target.doc, shape := .enumeration (.named type.name) constants } = .ok after) :
      Rendered components (.element guard hint s (.named name)) before after
  | elementSlice {guard : Guard Schema} {hint : String} {s target items : Schema} {type : TypeExpr}
      {before after : SourceUnit} (stripped : s.effective = .ok target) (inline : target.ref = none)
      (classified : target.classify = .ok (.array items))
      (item : Rendered components (.element guard (hint ++ "Item") items type) before after) :
      Rendered components (.element guard hint s (.slice type)) before after
  | elementOpenMap {guard : Guard Schema} {hint : String} {s target : Schema} {unit : SourceUnit}
      (stripped : s.effective = .ok target) (inline : target.ref = none)
      (classified : target.classify = .ok (.map none)) :
      Rendered components (.element guard hint s (.map .any)) unit unit
  | elementMap {guard : Guard Schema} {hint : String} {s target value : Schema} {type : TypeExpr}
      {before after : SourceUnit} (stripped : s.effective = .ok target) (inline : target.ref = none)
      (classified : target.classify = .ok (.map (some value)))
      (item : Rendered components (.element guard (hint ++ "Value") value type) before after) :
      Rendered components (.element guard hint s (.map type)) before after
  | elementRecord {guard : Guard Schema} {hint name : String} {s target : Schema}
      {properties : List (String × Schema)} {before middle after : SourceUnit}
      (stripped : s.effective = .ok target) (inline : target.ref = none)
      (classified : target.classify = .ok (.object properties)) (claimed : before.claim hint = (name, middle))
      (declared : Rendered components (.declaration (guard.enter target name) name target) middle after) :
      Rendered components (.element guard hint s (.named name)) before after
  | noFields {guard : Guard Schema} {parent : String} {object : Schema} {names : Names} {unit : SourceUnit} :
      Rendered components (.fields guard parent object names [] []) unit unit
  | field {guard : Guard Schema} {parent : String} {object : Schema} {names others : Names}
      {wire name : String} {property target : Schema} {rest : List (String × Schema)} {type : TypeExpr}
      {collection : Bool} {fields : List Field} {before middle after : SourceUnit}
      (safe : wire.toList.find? (!isTagSafe ·) = none)
      (claimed : names.claim (Naming.exported wire) = (name, others)) (stripped : property.effective = .ok target)
      (collects : components.isCollection target = .ok collection)
      (typed : Rendered components (.element guard (parent ++ name) target type) before middle)
      (compiled : Rendered components (.fields guard parent object others rest fields) middle after) :
      Rendered components (.fields guard parent object names ((wire, property) :: rest)
        (propertyField components guard object name wire property type collection :: fields)) before after

-- Everything in progress is at least as large as a bound. What is nested is
-- smaller than what it is nested in, so it is never taken for one in progress.
def Guard.Above (guard : Guard Schema) (bound : Nat) : Prop := ∀ entry ∈ guard.active, bound ≤ sizeOf entry.1

theorem above_smaller (guard : Guard Schema) (low high : Nat) (above : guard.Above high) (smaller : low ≤ high) :
    guard.Above low := fun entry member => Nat.le_trans smaller (above entry member)

theorem above_not_active (guard : Guard Schema) (s : Schema) (above : guard.Above (sizeOf s + 1)) :
    guard.inProgress s = none := by
  refine List.lookup_eq_none_iff.mpr fun entry member => ?_
  have bound := above entry member
  have different : s ≠ entry.1 := by
    intro same
    rw [same] at bound
    omega
  simpa using different

theorem enter_above (guard : Guard Schema) (s : Schema) (name : String) (above : guard.Above (sizeOf s)) :
    (guard.enter s name).Above (sizeOf s) := by
  unfold Guard.enter
  split
  · exact above
  · intro entry member
    rcases List.mem_cons.mp member with same | older
    · subst same
      exact Nat.le_refl _
    · exact above entry older

theorem enumeration_declared (components : Components) (guard : Guard Schema) (name : String) (s : Schema)
    (type : ScalarType) (values : List EnumValue) (before after : SourceUnit) (stripped : s.effective = .ok s)
    (inline : s.ref = none) (classified : s.classify = .ok (.enumeration type values))
    (rendered : Rendered components (.declaration guard name s) before after) :
    ∃ constants, enumConstants type name {} values = .ok constants ∧
      before.declare { name, doc := s.doc.or s.doc, shape := .enumeration (.named type.name) constants } = .ok after := by
  cases rendered with
  | declaration again shaped declared =>
      obtain rfl := Except.ok.inj (stripped.symm.trans again)
      cases shaped with
      | enumeration _ known fits =>
          obtain ⟨rfl, rfl⟩ := Shape.enumeration.inj (Except.ok.inj (classified.symm.trans known))
          exact ⟨_, fits, declared⟩
      | aliasReference reference => simp [inline] at reference
      | aliasScalar _ known => simp [classified] at known
      | slice _ known => simp [classified] at known
      | record _ known => simp [classified] at known
      | openMap _ known => simp [classified] at known
      | map _ known => simp [classified] at known

mutual

theorem schema_shape_rendered (components : Components) (guard : Guard Schema) (name : String) (target : Schema)
    (shape : DeclarationShape) (before after : SourceUnit) (above : guard.Above (sizeOf target))
    (done : (schemaShape components guard name target).result before = (.ok shape, after)) :
    Rendered components (.shape guard name target shape) before after := by
  unfold schemaShape shapeOf at done
  split at done
  next path reference =>
    obtain ⟨type, named, rfl⟩ := Build.map_ok _ _ _ _ _ done
    obtain ⟨referred, checked, rfl⟩ := Build.map_ok _ _ _ _ _ named
    obtain ⟨found, rfl⟩ := Build.check_ok _ _ _ _ _ checked
    exact .aliasReference reference found
  next inline =>
    split at done
    next => exact (Build.throw_ok _ _ _ _ done).elim
    next type classified =>
      obtain ⟨rfl, rfl⟩ := Build.pure_ok _ _ _ _ done
      exact .aliasScalar inline classified
    next type values classified =>
      unfold enumShape at done
      cases fits : enumConstants type name {} values with
      | error cause =>
          rw [fits] at done
          exact (Build.throw_ok _ _ _ _ done).elim
      | ok constants =>
          rw [fits] at done
          obtain ⟨rfl, rfl⟩ := Build.pure_ok _ _ _ _ done
          exact .enumeration inline classified fits
    next items classified =>
      have smaller : sizeOf items < sizeOf target := Schema.holds_classify classified
      obtain ⟨type, ran, rfl⟩ := Build.map_ok _ _ _ _ _ done
      exact .slice inline classified (element_type_rendered components guard (name ++ "Item") items before after type
        (above_smaller guard _ _ above smaller) ran)
    next properties classified =>
      have smaller : sizeOf properties < sizeOf target := Schema.holds_classify classified
      obtain ⟨fields, ran, rfl⟩ := Build.map_ok _ _ _ _ _ done
      exact .record inline classified (declare_fields_rendered components guard name target {} properties before after
        fields (above_smaller guard _ _ above (Nat.le_of_lt smaller)) ran)
    next classified =>
      obtain ⟨rfl, rfl⟩ := Build.pure_ok _ _ _ _ done
      exact .openMap inline classified
    next value classified =>
      have smaller : sizeOf value < sizeOf target := Schema.holds_classify classified
      obtain ⟨type, ran, rfl⟩ := Build.map_ok _ _ _ _ _ done
      exact .map inline classified (element_type_rendered components guard (name ++ "Value") value before after type
        (above_smaller guard _ _ above smaller) ran)
termination_by 3 * sizeOf target
decreasing_by all_goals omega

theorem declare_schema_rendered (components : Components) (guard : Guard Schema) (name : String) (s : Schema)
    (before after : SourceUnit) (above : guard.Above (sizeOf s))
    (done : (declareSchema components guard name s).result before = (.ok (), after)) :
    Rendered components (.declaration guard name s) before after := by
  rw [declare_schema_eq] at done
  split at done
  next => exact (Build.throw_ok _ _ _ _ done).elim
  next target stripped =>
    have bound := Schema.effective_size_le stripped
    obtain ⟨shape, middle, shaped, declared⟩ := Build.bind_ok _ _ _ _ _ done
    exact .declaration stripped
      (schema_shape_rendered components guard name target shape before middle (above_smaller guard _ _ above bound) shaped)
      (Build.declare_ok _ _ _ declared)
termination_by 3 * sizeOf s + 1
decreasing_by all_goals omega

theorem element_type_rendered (components : Components) (guard : Guard Schema) (hint : String) (s : Schema)
    (before after : SourceUnit) (type : TypeExpr) (above : guard.Above (sizeOf s + 1))
    (done : (elementType components guard hint s).result before = (.ok type, after)) :
    Rendered components (.element guard hint s type) before after := by
  rw [element_type_eq] at done
  split at done
  next => exact (Build.throw_ok _ _ _ _ done).elim
  next target stripped =>
  have bound := Schema.effective_size_le stripped
  unfold elementOf at done
  split at done
  next path reference =>
    obtain ⟨referred, checked, rfl⟩ := Build.map_ok _ _ _ _ _ done
    obtain ⟨found, rfl⟩ := Build.check_ok _ _ _ _ _ checked
    exact .elementReference stripped reference found
  next inline =>
    split at done
    next => exact (Build.throw_ok _ _ _ _ done).elim
    next scalar classified =>
      obtain ⟨rfl, rfl⟩ := Build.pure_ok _ _ _ _ done
      exact .elementScalar stripped inline classified
    next scalar values classified =>
      obtain ⟨name, middle, claimed, rest⟩ := Build.bind_ok _ _ _ _ _ done
      obtain ⟨_, last, ran, returned⟩ := Build.bind_ok _ _ _ _ _ rest
      obtain ⟨rfl, rfl⟩ := Build.pure_ok _ _ _ _ returned
      have nested := declare_schema_rendered components guard name target middle last
        (above_smaller guard _ _ above (by omega)) ran
      obtain ⟨constants, fits, declared⟩ := enumeration_declared components guard name target scalar values middle last
        (Schema.effective_idempotent s target stripped) inline classified nested
      exact .elementEnumeration stripped inline classified (Build.claim_ok _ _ _ _ claimed) fits declared
    next items classified =>
      have smaller : sizeOf items < sizeOf target := Schema.holds_classify classified
      obtain ⟨item, ran, rfl⟩ := Build.map_ok _ _ _ _ _ done
      exact .elementSlice stripped inline classified
        (element_type_rendered components guard (hint ++ "Item") items before after item
          (above_smaller guard _ _ above (by omega)) ran)
    next classified =>
      obtain ⟨rfl, rfl⟩ := Build.pure_ok _ _ _ _ done
      exact .elementOpenMap stripped inline classified
    next value classified =>
      have smaller : sizeOf value < sizeOf target := Schema.holds_classify classified
      obtain ⟨item, ran, rfl⟩ := Build.map_ok _ _ _ _ _ done
      exact .elementMap stripped inline classified
        (element_type_rendered components guard (hint ++ "Value") value before after item
          (above_smaller guard _ _ above (by omega)) ran)
    next properties classified =>
      rw [above_not_active guard target (above_smaller guard _ _ above (by omega))] at done
      obtain ⟨name, middle, claimed, rest⟩ := Build.bind_ok _ _ _ _ _ done
      obtain ⟨_, last, ran, returned⟩ := Build.bind_ok _ _ _ _ _ rest
      obtain ⟨rfl, rfl⟩ := Build.pure_ok _ _ _ _ returned
      exact .elementRecord stripped inline classified
        (Build.claim_ok _ _ _ _ claimed)
        (declare_schema_rendered components (guard.enter target name) name target middle last
          (enter_above guard target name (above_smaller guard _ _ above (by omega))) ran)
termination_by 3 * sizeOf s + 2
decreasing_by all_goals omega

theorem declare_fields_rendered (components : Components) (guard : Guard Schema) (parent : String)
    (object : Schema) (names : Names) (properties : List (String × Schema)) (before after : SourceUnit)
    (fields : List Field) (above : guard.Above (sizeOf properties))
    (done : (declareFields components guard parent object names properties).result before = (.ok fields, after)) :
    Rendered components (.fields guard parent object names properties fields) before after := by
  cases listed : properties with
  | nil =>
      rw [listed, declare_fields_nil] at done
      obtain ⟨rfl, rfl⟩ := Build.pure_ok _ _ _ _ done
      exact .noFields
  | cons entry rest =>
      obtain ⟨wire, property⟩ := entry
      have cell : sizeOf properties = 1 + (1 + sizeOf wire + sizeOf property) + sizeOf rest := by
        rw [listed]
        rfl
      rw [listed, declare_fields_eq] at done
      split at done
      next => exact (Build.throw_ok _ _ _ _ done).elim
      next safe =>
        dsimp only at done
        split at done
        next => exact (Build.throw_ok _ _ _ _ done).elim
        next target stripped =>
          have bound := Schema.effective_size_le stripped
          obtain ⟨collection, start, checked, ran⟩ := Build.bind_ok _ _ _ _ _ done
          obtain ⟨collects, rfl⟩ := Build.check_ok _ _ _ _ _ checked
          obtain ⟨type, middle, typed, others⟩ := Build.bind_ok _ _ _ _ _ ran
          obtain ⟨later, last, compiled, returned⟩ := Build.bind_ok _ _ _ _ _ others
          obtain ⟨rfl, rfl⟩ := Build.pure_ok _ _ _ _ returned
          exact .field safe rfl stripped collects
            (element_type_rendered components guard _ target before middle type
              (above_smaller guard _ _ above (by omega)) typed)
            (declare_fields_rendered components guard parent object _ rest middle last later
              (above_smaller guard _ _ above (by omega)) compiled)
termination_by 3 * sizeOf properties
decreasing_by all_goals omega

end

theorem render_rendered (components : Components) (name : String) (s : Schema) (before after : SourceUnit)
    (done : (render components name s).result before = (.ok (), after)) :
    Rendered components (.declaration (Guard.enter {} s name) name s) before after := by
  refine declare_schema_rendered components _ name s before after (enter_above {} s name ?_) done
  intro entry member
  exact absurd member List.not_mem_nil

theorem value_type_rendered (components : Components) (hint : String) (s : Schema) (before after : SourceUnit)
    (type : TypeExpr) (done : (valueType components hint s).result before = (.ok type, after)) :
    Rendered components (.element {} hint s type) before after := by
  refine element_type_rendered components {} hint s before after type ?_ done
  intro entry member
  exact absurd member List.not_mem_nil

end ApiBindings
