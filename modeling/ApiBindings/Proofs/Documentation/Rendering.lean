import ApiBindings.Proofs.Documentation.Cycle
import ApiBindings.Proofs.Rendering.Constants
set_option autoImplicit false

namespace ApiBindings

theorem pointer_idempotent (type : TypeExpr) : type.toPointer.toPointer = type.toPointer := by
  cases type <;> rfl

-- Only a pointer to a required value that is not an array or map depends on cycles.
theorem field_type_agrees (loose : Prop) (type : TypeExpr) (collection required : Bool) (first second : Unit → Bool)
    (cycles : loose ∨ first () = second ()) :
    fieldType type collection required first = fieldType type collection required second ∨
      (loose ∧ required = true ∧
        (fieldType type collection required first).toPointer = (fieldType type collection required second).toPointer) := by
  unfold fieldType
  split
  · exact Or.inl rfl
  rcases cycles with admitted | same
  · cases required
    · exact Or.inl rfl
    · refine Or.inr ⟨admitted, rfl, ?_⟩
      split <;> split <;> simp only [pointer_idempotent]
  · rw [same]
    exact Or.inl rfl

def ShapesDeclared (loose : Prop) (a b : DeclarationShape) : Prop := a.Agrees loose b ∧ a.Tagged

structure FieldsDeclared (loose : Prop) (first second : List Field) : Prop where
  agree : List.Forall₂ (Field.Agrees loose) first second
  tagged : ∀ field ∈ first, field.tag.isSome = true

theorem record_declared (loose : Prop) (first second : List Field) (fields : FieldsDeclared loose first second) :
    ShapesDeclared loose (.record first) (.record second) :=
  ⟨.record fields.agree, fun _ same => DeclarationShape.record.inj same ▸ fields.tagged⟩

theorem same_declared (loose : Prop) (shape : DeclarationShape) (kind : shape.isRecord = false) :
    ShapesDeclared loose shape shape :=
  ⟨.same shape, fun fields same => by rw [same] at kind; cases kind⟩

section

variable {loose : Prop} {first second : Components} {roots others : List Schema}
  (paired : Paired loose first second roots others)
include paired

theorem property_field_agrees (guard other : Guard Schema) (object twin : Schema) (name wire : String)
    (property partner : Schema) (type : TypeExpr) (collection : Bool)
    (guards : GuardsAgree loose roots others guard other) (outer : object.Agrees twin)
    (partners : Partners roots others property partner) :
    (propertyField first guard object name wire property type collection).Agrees loose
      (propertyField second other twin name wire partner type collection) where
  name := rfl
  required := object.agrees_requires twin outer wire
  tag := by
    have rules := (Schema.agrees_partner property partner partners.agree)
    simp only [propertyField, object.agrees_requires twin outer wire,
      Schema.agrees_validation_rules _ _ rules (twin.requires wire)]
  type := by
    simp only [propertyField, object.agrees_requires twin outer wire]
    exact field_type_agrees loose type collection (twin.requires wire) _ _
      (closes_cycle_agrees paired guard other property partner guards partners)

theorem collection_agrees (s t : Schema) (agree : s.Agrees t) : first.isCollection s = second.isCollection t := by
  rw [Components.isCollection, Components.isCollection, s.agrees_ref t agree,
    first.agrees_is_collection_ref second paired.agree s t agree]

omit paired in
theorem declare_schema_lockstep (guard other : Guard Schema) (name : String) (s t : Schema)
    (partners : Partners roots others s t)
    (shaped : ∀ u v, s.effective = .ok u → t.effective = .ok v → Partners roots others u v →
      Build.Lockstep loose [] (ShapesDeclared loose) (schemaShape first guard name u) (schemaShape second other name v)) :
    Build.Lockstep loose [name] (fun _ _ => True) (declareSchema first guard name s) (declareSchema second other name t) := by
  rw [declare_schema_eq, declare_schema_eq]
  rcases results_cases _ _ (partners_effective partners) with ⟨defect, stripped, bare⟩ | ⟨u, v, stripped, bare, inner⟩
  · rw [stripped, bare]
    exact Build.lockstep_throw _
  · rw [stripped, bare]
    refine Build.lockstep_bind _ _ _ _ (shaped u v stripped bare inner) fun shape found shapes => ?_
    exact Build.lockstep_declare { name, doc := s.doc.or u.doc, shape } { name, doc := t.doc.or v.doc, shape := found }
      ⟨rfl, shapes.1⟩ shapes.2

theorem shape_of_lockstep (name : String) (s t : Schema) (partners : Partners roots others s t)
    (element twin : String → Schema → Build TypeExpr) (fields parts : List (String × Schema) → Build (List Field))
    (elements : s.Composed → ∀ hint part other, Partners roots others part other → sizeOf part < sizeOf s →
      sizeOf other < sizeOf t → Build.Lockstep loose [] Eq (element hint part) (twin hint other))
    (records : s.Composed → ∀ own behind, List.Forall₂ (EntryRelated (Partners roots others)) own behind →
      sizeOf own < sizeOf s → sizeOf behind < sizeOf t →
      Build.Lockstep loose [] (FieldsDeclared loose) (fields own) (parts behind)) :
    Build.Lockstep loose [] (ShapesDeclared loose) (shapeOf first element fields name s)
      (shapeOf second twin parts name t) := by
  unfold shapeOf
  rw [← s.agrees_ref t partners.agree]
  split
  next path reference =>
    rw [first.agrees_type_name second paired.agree path]
    refine Build.lockstep_map _ _ _ _ (Build.lockstep_map _ _ _ _ (Build.lockstep_check name _ _ (results_same _))
      fun _ _ same => congrArg TypeExpr.named same) fun type _ same => ?_
    exact same ▸ same_declared loose (.alias type) rfl
  next inline =>
    rcases results_cases _ _ (partners_classify partners) with ⟨defect, failed, other⟩ | ⟨a, b, classified, known, shapes⟩
    · rw [failed, other]
      exact Build.lockstep_throw _
    rw [classified, known]
    have composed (kind : a.isSimple = false) : s.Composed := ⟨inline, a, classified, kind⟩
    have smaller := Schema.holds_classify classified
    have less := Schema.holds_classify known
    cases shapes with
    | scalar type => exact Build.lockstep_pure _ _ (same_declared loose _ rfl)
    | enumeration type values =>
        dsimp only
        cases fits : enumShape name type values with
        | error cause => exact Build.lockstep_throw _
        | ok shape =>
            obtain ⟨constants, _, rfl⟩ := enum_shape_constants name type values shape fits
            exact Build.lockstep_pure _ _ (same_declared loose _ rfl)
    | array inner =>
        refine Build.lockstep_map _ _ _ _ (elements (composed rfl) _ _ _ inner smaller less) fun type _ same => ?_
        exact same ▸ same_declared loose (.slice type) rfl
    | object inner =>
        exact Build.lockstep_map _ _ _ _ (records (composed rfl) _ _ inner smaller less) fun _ _ fields =>
          record_declared loose _ _ fields
    | openMap => exact Build.lockstep_pure _ _ (same_declared loose _ rfl)
    | map inner =>
        refine Build.lockstep_map _ _ _ _ (elements (composed rfl) _ _ _ inner smaller less) fun type _ same => ?_
        exact same ▸ same_declared loose (.map type) rfl

omit paired in
theorem claimed_lockstep (hint : String) (declare again : String → Build Unit)
    (inner : ∀ name, Build.Lockstep loose [name] (fun _ _ => True) (declare name) (again name)) :
    Build.Lockstep loose [] Eq (Build.claim hint >>= fun name => declare name >>= fun _ => pure (TypeExpr.named name))
      (Build.claim hint >>= fun name => again name >>= fun _ => pure (TypeExpr.named name)) :=
  Build.lockstep_claim hint _ _ fun name =>
    Build.lockstep_map (fun _ => TypeExpr.named name) (fun _ => TypeExpr.named name) _ _ (inner name) fun _ _ _ => rfl

theorem element_of_lockstep (guard other : Guard Schema) (hint : String) (s t : Schema)
    (partners : Partners roots others s t) (declare again : Guard Schema → String → Schema → Build Unit)
    (element twin : String → Schema → Build TypeExpr) (collide meet : String → Build TypeExpr)
    (idle : guard.inProgress s = none) (still : other.inProgress t = none)
    (enumerated : ∀ name, Build.Lockstep loose [name] (fun _ _ => True) (declare guard name s) (again other name t))
    (entered : s.Composed → ∀ name, Build.Lockstep loose [name] (fun _ _ => True) (declare (guard.enter s name) name s)
      (again (other.enter t name) name t))
    (elements : ∀ hint part other, Partners roots others part other → sizeOf part < sizeOf s → sizeOf other < sizeOf t →
      Build.Lockstep loose [] Eq (element hint part) (twin hint other)) :
    Build.Lockstep loose [] Eq (elementOf first declare element collide guard hint s)
      (elementOf second again twin meet other hint t) := by
  unfold elementOf
  rw [← s.agrees_ref t partners.agree]
  split
  next path reference =>
    rw [first.agrees_type_name second paired.agree path]
    exact Build.lockstep_map _ _ _ _ (Build.lockstep_check hint _ _ (results_same _))
      fun _ _ same => congrArg TypeExpr.named same
  next inline =>
    rcases results_cases _ _ (partners_classify partners) with ⟨defect, failed, other⟩ | ⟨a, b, classified, known, shapes⟩
    · rw [failed, other]
      exact Build.lockstep_throw _
    rw [classified, known]
    have smaller := Schema.holds_classify classified
    have less := Schema.holds_classify known
    cases shapes with
    | scalar type => exact Build.lockstep_pure _ _ rfl
    | enumeration type values => exact claimed_lockstep hint _ _ enumerated
    | array inner =>
        exact Build.lockstep_map _ _ _ _ (elements _ _ _ inner smaller less) fun _ _ same => congrArg TypeExpr.slice same
    | object properties =>
        dsimp only
        rw [idle, still]
        exact claimed_lockstep hint _ _ (entered ⟨inline, _, classified, rfl⟩)
    | openMap => exact Build.lockstep_pure _ _ rfl
    | map inner =>
        exact Build.lockstep_map _ _ _ _ (elements _ _ _ inner smaller less) fun _ _ same => congrArg TypeExpr.map same

mutual

theorem schema_shape_lockstep (guard other : Guard Schema) (name : String) (s t : Schema)
    (partners : Partners roots others s t) (guards : s.Composed → GuardsAgree loose roots others guard other)
    (above : guard.Above (sizeOf s)) (beyond : other.Above (sizeOf t)) :
    Build.Lockstep loose [] (ShapesDeclared loose) (schemaShape first guard name s) (schemaShape second other name t) :=
  shape_of_lockstep paired name s t partners _ _ _ _
    (fun composed hint part twin inner smaller less => element_type_lockstep guard other hint part twin inner
      (guards composed) (above_smaller guard _ _ above smaller) (above_smaller other _ _ beyond less))
    fun composed own behind inner smaller less => declare_fields_lockstep guard other name s t {} own behind inner
      partners.agree (guards composed) (above_smaller guard _ _ above smaller) (above_smaller other _ _ beyond less)
termination_by 2 * sizeOf s
decreasing_by all_goals omega

theorem element_type_lockstep (guard other : Guard Schema) (hint : String) (s t : Schema)
    (partners : Partners roots others s t) (guards : GuardsAgree loose roots others guard other)
    (above : guard.Above (sizeOf s + 1)) (beyond : other.Above (sizeOf t + 1)) :
    Build.Lockstep loose [] Eq (elementType first guard hint s) (elementType second other hint t) := by
  rw [element_type_eq, element_type_eq]
  rcases results_cases _ _ (partners_effective partners) with ⟨defect, stripped, bare⟩ | ⟨u, v, stripped, bare, inner⟩
  · rw [stripped, bare]
    exact Build.lockstep_throw _
  rw [stripped, bare]
  have bound := Schema.effective_size_le stripped
  have limit := Schema.effective_size_le bare
  have still := Schema.effective_idempotent s u stripped
  have rest := Schema.effective_idempotent t v bare
  have declared (active kept : Guard Schema) (name : String)
      (agree : u.Composed → GuardsAgree loose roots others active kept)
      (above : active.Above (sizeOf u)) (beyond : kept.Above (sizeOf v)) :
      Build.Lockstep loose [name] (fun _ _ => True) (declareSchema first active name u) (declareSchema second kept name v) := by
    refine declare_schema_lockstep active kept name u v inner fun target found same alike own => ?_
    obtain rfl := Except.ok.inj (still.symm.trans same)
    obtain rfl := Except.ok.inj (rest.symm.trans alike)
    exact schema_shape_lockstep active kept name u v own agree above beyond
  refine element_of_lockstep paired guard other hint u v inner _ _ _ _ _ _
    (above_not_active guard u (above_smaller guard _ _ above (by omega)))
    (above_not_active other v (above_smaller other _ _ beyond (by omega))) (fun name => ?_) (fun composed name => ?_)
    fun hint part twin both smaller less => ?_
  · exact declared guard other name (fun _ => guards) (above_smaller guard _ _ above (by omega))
      (above_smaller other _ _ beyond (by omega))
  · exact declared (guard.enter u name) (other.enter v name) name
      (fun _ => guards_enter paired guard other u v name guards inner ⟨u, still, composed⟩)
      (enter_above guard u name (above_smaller guard _ _ above (by omega)))
      (enter_above other v name (above_smaller other _ _ beyond (by omega)))
  · exact element_type_lockstep guard other hint part twin both guards (above_smaller guard _ _ above (by omega))
      (above_smaller other _ _ beyond (by omega))
termination_by 2 * sizeOf s + 1
decreasing_by all_goals omega

theorem declare_fields_lockstep (guard other : Guard Schema) (parent : String) (object twin : Schema) (names : Names)
    (properties parts : List (String × Schema))
    (entries : List.Forall₂ (EntryRelated (Partners roots others)) properties parts) (outer : object.Agrees twin)
    (guards : GuardsAgree loose roots others guard other)
    (above : guard.Above (sizeOf properties + 1)) (beyond : other.Above (sizeOf parts + 1)) :
    Build.Lockstep loose [] (FieldsDeclared loose) (declareFields first guard parent object names properties)
      (declareFields second other parent twin names parts) := by
  cases listed : properties with
  | nil =>
      rw [listed] at entries
      obtain rfl := List.forall₂_nil_left_iff.mp entries
      rw [declare_fields_nil, declare_fields_nil]
      exact Build.lockstep_pure _ _ ⟨.nil, List.forall_mem_nil _⟩
  | cons entry rest =>
      rw [listed] at entries
      obtain ⟨other, behind, head, later, rfl⟩ := List.forall₂_cons_left_iff.mp entries
      obtain ⟨wire, property, partner, rfl, rfl, partners⟩ := entry_cases _ entry other head
      have cell : sizeOf properties = 1 + (1 + sizeOf wire + sizeOf property) + sizeOf rest := by
        simp only [listed, List.cons.sizeOf_spec, Prod.mk.sizeOf_spec]
      have beside : sizeOf ((wire, partner) :: behind) = 1 + (1 + sizeOf wire + sizeOf partner) + sizeOf behind := rfl
      rw [declare_fields_eq, declare_fields_eq]
      cases wire.toList.find? (!isTagSafe ·) with
      | some bad => exact Build.lockstep_throw _
      | none =>
        dsimp only
        rcases results_cases _ _ (partners_effective partners) with ⟨defect, stripped, bare⟩ | ⟨u, v, stripped, bare, inner⟩
        · rw [stripped, bare]
          exact Build.lockstep_throw _
        rw [stripped, bare]
        dsimp only
        rw [collection_agrees paired u v inner.agree]
        have bound := Schema.effective_size_le stripped
        have limit := Schema.effective_size_le bare
        refine Build.lockstep_bind _ _ _ _ (Build.lockstep_check _ _ _ (results_same _)) fun collection _ same => ?_
        subst same
        refine Build.lockstep_bind _ _ _ _ (element_type_lockstep guard other _ u v inner guards
          (above_smaller guard _ _ above (by omega)) (above_smaller other _ _ beyond (by omega))) fun type _ same => ?_
        subst same
        refine Build.lockstep_bind _ _ _ _ (declare_fields_lockstep guard other parent object twin _ rest behind later
          outer guards (above_smaller guard _ _ above (by omega)) (above_smaller other _ _ beyond (by omega)))
          fun fields found declared => ?_
        refine Build.lockstep_pure _ _ ⟨.cons ?_ declared.agree, List.forall_mem_cons.mpr ⟨rfl, declared.tagged⟩⟩
        exact property_field_agrees paired guard other object twin _ wire property partner type collection guards outer
          partners
termination_by 2 * sizeOf properties
decreasing_by all_goals omega

end

theorem root_shape_lockstep (name : String) (s t u v : Schema) (partners : Partners roots others s t)
    (stripped : s.effective = .ok u) (bare : t.effective = .ok v) (inner : Partners roots others u v) :
    Build.Lockstep loose [] (ShapesDeclared loose) (schemaShape first (Guard.enter {} s name) name u)
      (schemaShape second (Guard.enter {} t name) name v) := by
  have bound := Schema.effective_size_le stripped
  have limit := Schema.effective_size_le bare
  have empty (n : Nat) : (({} : Guard Schema).Above n) := List.forall_mem_nil _
  refine schema_shape_lockstep paired _ _ name u v inner (fun composed => ?_)
    (above_smaller _ _ _ (enter_above {} s name (empty _)) bound)
    (above_smaller _ _ _ (enter_above {} t name (empty _)) limit)
  exact guards_enter paired {} {} s t name (Or.inr fun _ _ _ => rfl) partners ⟨u, stripped, composed⟩

theorem render_lockstep (name : String) (s t : Schema) (partners : Partners roots others s t) :
    Build.Lockstep loose [name] (fun _ _ => True) (render first name s) (render second name t) :=
  declare_schema_lockstep _ _ name s t partners fun u v stripped bare inner =>
    root_shape_lockstep paired name s t u v partners stripped bare inner

theorem value_type_lockstep (hint : String) (s t : Schema) (partners : Partners roots others s t) :
    Build.Lockstep loose [] Eq (valueType first hint s) (valueType second hint t) :=
  element_type_lockstep paired {} {} hint s t partners (Or.inr fun _ _ _ => rfl)
    (List.forall_mem_nil _) (List.forall_mem_nil _)

theorem component_agrees (name : String) (s t : Schema) (partners : Partners roots others s t) (a b : SourceUnit)
    (agree : a.Agrees loose b) (registered : a.TagsRegistered) (taken : name ∈ a.names.taken) :
    ((render first name s).result a).2.Agrees loose ((render second name t).result b).2 ∧
      a.Leaves [name] ((render first name s).result a).2 ∧
      (Results (fun _ _ => True) ((render first name s).result a).1 ((render second name t).result b).1 ∨
        Clashes name ((render first name s).result a).1 ∨ Clashes name ((render second name t).result b).1) := by
  unfold render
  rw [declare_schema_eq, declare_schema_eq]
  rcases results_cases _ _ (partners_effective partners) with ⟨defect, stripped, bare⟩ | ⟨u, v, stripped, bare, inner⟩
  · rw [stripped, bare]
    exact ⟨agree, .refl [name] a registered, Or.inl (.error _)⟩
  rw [stripped, bare]
  dsimp only
  rw [Build.result_bind, Build.result_bind]
  obtain ⟨later, results, leaves⟩ := root_shape_lockstep paired name s t u v partners stripped bare inner a b agree
    registered (List.forall_mem_nil _)
  cases ran : (schemaShape first (Guard.enter {} s name) name u).result a with
  | mk result c =>
      cases other : (schemaShape second (Guard.enter {} t name) name v).result b with
      | mk found d =>
          rw [ran, other] at later results
          rw [ran] at leaves
          cases results with
          | error failure =>
              exact ⟨later, leaves.trans (.refl [name] c leaves.registered), Or.inl (.error failure)⟩
          | @ok shape found declared =>
              obtain ⟨last, left, outcome⟩ := Build.declare_agrees { name, doc := s.doc.or u.doc, shape }
                { name, doc := t.doc.or v.doc, shape := found } ⟨rfl, declared.1⟩ c d later leaves.registered
                (leaves.taken name taken)
              exact ⟨last, leaves.trans left, outcome⟩

end

end ApiBindings
