import ApiBindings.Proofs.Rendering.Constants
import ApiBindings.Proofs.Rendering.Expands
import ApiBindings.Proofs.Rendering.Idle
import ApiBindings.Proofs.Rendering.Names
import ApiBindings.Proofs.Rendering.Renumbered
import ApiBindings.Proofs.Unit.Same
set_option autoImplicit false

namespace ApiBindings

-- An enumeration one of whose constants is no number differs from itself.
structure Schema.Repeatable (s : Schema) : Prop where
  alone : ¬ s.Nests
  numbers : ∀ target type values, s.effective = .ok target → target.ref = none →
    target.classify = .ok (.enumeration type values) → ∀ value ∈ values, value.literal? type ≠ some (.double .nan)

theorem field_type_plain (a b : TypeExpr) (collection required : Bool) (closesCycle : Unit → Bool)
    (first : ∀ inner, a ≠ .pointer inner) (second : ∀ inner, b ≠ .pointer inner)
    (same : fieldType a collection required closesCycle = fieldType b collection required closesCycle) : a = b := by
  have made (type : TypeExpr) : fieldType type collection required closesCycle = type ∨
      fieldType type collection required closesCycle = .pointer type := by
    rcases field_type_cases type collection required closesCycle with
      ⟨kept, _⟩ | ⟨_, name, rfl, ⟨pointed, _⟩ | ⟨kept, _⟩⟩
    · exact Or.inl kept
    · exact Or.inr pointed
    · exact Or.inl kept
  rcases made a with kept | pointed <;> rcases made b with left | aimed
  · rw [← kept, same, left]
  · exact absurd (kept.symm.trans (same.trans aimed)) (first b)
  · exact absurd (left.symm.trans (same.symm.trans pointed)) (second a)
  · exact TypeExpr.pointer.inj (pointed.symm.trans (same.trans aimed))

section

variable (components : Components)

theorem rendered_owned (guard : Guard Schema) (hint : String) (s target : Schema) (shape : Shape) (type : TypeExpr)
    (before after : SourceUnit) (stripped : s.effective = .ok target) (inline : target.ref = none)
    (classified : target.classify = .ok shape) (owns : shape.ownsName = true)
    (rendered : Rendered components (.element guard hint s type) before after) :
    ∃ name, type = .named name ∧ name ∉ before.names.taken ∧ name ∈ after.names.taken := by
  cases rendered with
  | elementEnumeration _ _ _ claimed _ declared =>
      obtain ⟨_, free, taken⟩ := SourceUnit.claim_grows _ _ _ _ claimed
      exact ⟨_, rfl, free, (SourceUnit.declare_grows _ _ _ declared).taken _ taken⟩
  | elementRecord _ _ _ claimed declared =>
      obtain ⟨_, free, taken⟩ := SourceUnit.claim_grows _ _ _ _ claimed
      exact ⟨_, rfl, free, (rendered_grows _ _ _ _ declared).taken _ taken⟩
  | elementReference again reference =>
      obtain rfl := Except.ok.inj (stripped.symm.trans again)
      simp [inline] at reference
  | elementScalar again _ known | elementSlice again _ known | elementOpenMap again _ known | elementMap again _ known =>
      obtain rfl := Except.ok.inj (stripped.symm.trans again)
      obtain rfl := Except.ok.inj (classified.symm.trans known)
      cases owns

theorem rendered_held (guard : Guard Schema) (hint : String) (s target part : Schema) (shape : Shape) (type : TypeExpr)
    (before after : SourceUnit) (stripped : s.effective = .ok target) (inline : target.ref = none)
    (classified : target.classify = .ok shape) (collects : shape.isCollection = true) (member : part ∈ shape.parts)
    (rendered : Rendered components (.element guard hint s type) before after) :
    ∃ ending inner, Rendered components (.element guard (hint ++ ending) part inner) before after ∧
      (type = .slice inner ∨ type = .map inner) := by
  cases rendered with
  | elementSlice again _ known item | elementMap again _ known item =>
      obtain rfl := Except.ok.inj (stripped.symm.trans again)
      obtain rfl := Except.ok.inj (classified.symm.trans known)
      obtain rfl := List.mem_singleton.mp member
      exact ⟨_, _, item, by simp⟩
  | elementReference again reference =>
      obtain rfl := Except.ok.inj (stripped.symm.trans again)
      simp [inline] at reference
  | elementScalar again _ known | elementEnumeration again _ known | elementRecord again _ known =>
      obtain rfl := Except.ok.inj (stripped.symm.trans again)
      obtain rfl := Except.ok.inj (classified.symm.trans known)
      cases collects
  | elementOpenMap again _ known =>
      obtain rfl := Except.ok.inj (stripped.symm.trans again)
      obtain rfl := Except.ok.inj (classified.symm.trans known)
      exact absurd member List.not_mem_nil

theorem element_renamed (guard : Guard Schema) (a b : String) (s : Schema) (first second : TypeExpr)
    (before after later last : SourceUnit) (declares : s.Declares)
    (rendered : Rendered components (.element guard a s first) before after)
    (again : Rendered components (.element guard b s second) later last)
    (taken : ∀ name ∈ after.names.taken, name ∈ later.names.taken) : first ≠ second := by
  induction declares generalizing a b first second with
  | own stripped inline classified owns =>
      obtain ⟨name, rfl, _, used⟩ := rendered_owned components _ _ _ _ _ _ _ _ stripped inline classified owns rendered
      obtain ⟨other, rfl, free, _⟩ := rendered_owned components _ _ _ _ _ _ _ _ stripped inline classified owns again
      rintro same
      exact free (TypeExpr.named.inj same ▸ taken name used)
  | held stripped inline classified collects member _ ih =>
      obtain ⟨_, inner, item, outside⟩ :=
        rendered_held components _ _ _ _ _ _ _ _ _ stripped inline classified collects member rendered
      obtain ⟨_, other, more, around⟩ :=
        rendered_held components _ _ _ _ _ _ _ _ _ stripped inline classified collects member again
      have different := ih _ _ inner other item more
      rcases outside with rfl | rfl <;> rcases around with rfl | rfl <;> simp [different]

theorem fields_renamed (guard : Guard Schema) (parent : String) (object : Schema) (names : Names)
    (properties : List (String × Schema)) (first second : List Field) (before after later last : SourceUnit)
    (declares : ∃ entry ∈ properties, entry.2.Declares)
    (rendered : Rendered components (.fields guard parent object names properties first) before after)
    (again : Rendered components (.fields guard parent object names properties second) later last)
    (taken : ∀ name ∈ after.names.taken, name ∈ later.names.taken) : first ≠ second := by
  induction properties generalizing names first second before later with
  | nil => exact absurd declares.choose_spec.1 List.not_mem_nil
  | cons entry rest ih =>
      obtain ⟨wire, property⟩ := entry
      cases rendered with
      | @field _ _ _ _ others _ _ _ target _ type collection fields _ middle _ _ claimed stripped collects typed compiled =>
      cases again with
      | @field _ _ _ _ more _ _ _ bare _ twin collected rows _ between _ _ reclaimed unwrapped gathers retyped recompiled =>
      obtain ⟨rfl, rfl⟩ := Prod.mk.inj (claimed.symm.trans reclaimed)
      obtain rfl := Except.ok.inj (stripped.symm.trans unwrapped)
      obtain rfl := Except.ok.inj (collects.symm.trans gathers)
      obtain ⟨entry, listed, declares⟩ := declares
      intro same
      obtain ⟨alike, follow⟩ := List.cons.inj same
      rcases List.mem_cons.mp listed with rfl | later
      · have still := Schema.effective_idempotent property target stripped
        have plain := (rendered_element_typed components guard _ target target type _ _ still typed).plain
        have single := (rendered_element_typed components guard _ target target twin _ _ still retyped).plain
        refine element_renamed components guard _ _ target type twin _ _ _ _
          ((declares_stripped property target stripped).mp declares) typed retyped
          (fun name used => taken name ((rendered_grows _ _ _ _ compiled).taken name used)) ?_
        have types := congrArg Field.type alike
        rw [property_field_type, property_field_type] at types
        exact field_type_plain type twin collection _ _ plain single types
      · refine ih _ _ _ _ _ ⟨entry, later, declares⟩ compiled recompiled (fun name used => ?_) follow
        exact (rendered_grows _ _ _ _ retyped).taken name (taken name used)

theorem rendered_parts (guard : Guard Schema) (name : String) (target : Schema) (shape : Shape)
    (made : DeclarationShape) (before after : SourceUnit) (inline : target.ref = none)
    (classified : target.classify = .ok shape)
    (rendered : Rendered components (.shape guard name target made) before after) :
    match shape with
    | .array items => ∃ type, made = .slice type ∧
        Rendered components (.element guard (name ++ "Item") items type) before after
    | .map (some value) => ∃ type, made = .map type ∧
        Rendered components (.element guard (name ++ "Value") value type) before after
    | .object properties => ∃ fields, made = .record fields ∧
        Rendered components (.fields guard name target {} properties fields) before after
    | _ => True := by
  cases rendered with
  | aliasReference reference => simp [inline] at reference
  | aliasScalar _ known | enumeration _ known | openMap _ known =>
      obtain rfl := Except.ok.inj (classified.symm.trans known)
      trivial
  | slice _ known item | map _ known item =>
      obtain rfl := Except.ok.inj (classified.symm.trans known)
      exact ⟨_, rfl, item⟩
  | record _ known compiled =>
      obtain rfl := Except.ok.inj (classified.symm.trans known)
      exact ⟨_, rfl, compiled⟩

theorem shape_renamed (guard : Guard Schema) (name : String) (s target : Schema) (first second : DeclarationShape)
    (before after later last : SourceUnit) (stripped : s.effective = .ok target) (nests : s.Nests)
    (rendered : Rendered components (.shape guard name target first) before after)
    (again : Rendered components (.shape guard name target second) later last)
    (taken : ∀ name ∈ after.names.taken, name ∈ later.names.taken) :
    first ≠ second ∧ ∀ types values, first ≠ .enumeration types values := by
  obtain ⟨bare, shape, part, unwrapped, inline, classified, member, declares⟩ := nests
  obtain rfl := Except.ok.inj (stripped.symm.trans unwrapped)
  have parts := rendered_parts components guard name target shape first _ _ inline classified rendered
  have others := rendered_parts components guard name target shape second _ _ inline classified again
  cases shape with
  | scalar | enumeration => exact absurd member List.not_mem_nil
  | array items =>
      obtain rfl := List.mem_singleton.mp member
      obtain ⟨type, rfl, item⟩ := parts
      obtain ⟨twin, rfl, more⟩ := others
      have different := element_renamed components guard _ _ part type twin _ _ _ _ declares item more taken
      exact ⟨fun same => different (DeclarationShape.slice.inj same), fun _ _ same => by cases same⟩
  | map value =>
      cases value with
      | none => exact absurd member List.not_mem_nil
      | some value =>
          obtain rfl := List.mem_singleton.mp member
          obtain ⟨type, rfl, item⟩ := parts
          obtain ⟨twin, rfl, more⟩ := others
          have different := element_renamed components guard _ _ part type twin _ _ _ _ declares item more taken
          exact ⟨fun same => different (DeclarationShape.map.inj same), fun _ _ same => by cases same⟩
  | object properties =>
      obtain ⟨entry, listed, rfl⟩ := List.mem_map.mp member
      obtain ⟨fields, rfl, compiled⟩ := parts
      obtain ⟨rows, rfl, recompiled⟩ := others
      have different := fields_renamed components guard name target {} properties fields rows _ _ _ _
        ⟨entry, listed, declares⟩ compiled recompiled taken
      exact ⟨fun same => different (DeclarationShape.record.inj same), fun _ _ same => by cases same⟩

theorem rendered_same (guard : Guard Schema) (name : String) (s target : Schema) (shape : DeclarationShape)
    (before after : SourceUnit) (stripped : s.effective = .ok target) (repeatable : s.Repeatable)
    (rendered : Rendered components (.shape guard name target shape) before after) : (shape == shape) = true := by
  cases rendered with
  | @enumeration _ _ _ type values constants _ inline classified fits =>
      have listed := enum_constants_values _ _ _ _ _ fits
      change (TypeExpr.named type.name == .named type.name && constants == constants) = true
      rw [beq_self_eq_true, Bool.true_and]
      refine constants_same constants fun constant member nan => ?_
      have present := List.mem_map_of_mem (f := EnumConstant.value) member
      rw [listed] at present
      obtain ⟨value, inside, valued⟩ := List.mem_filterMap.mp present
      exact repeatable.numbers target type values stripped inline classified value inside (valued.trans (congrArg some nan))
  | aliasReference | aliasScalar | slice | record | openMap | map =>
      exact plain_shape_same _ fun _ _ same => by cases same

theorem rendered_numbers (guard : Guard Schema) (name : String) (target : Schema) (type : ScalarType)
    (values : List EnumValue) (stored shape : DeclarationShape) (before after : SourceUnit) (inline : target.ref = none)
    (classified : target.classify = .ok (.enumeration type values))
    (rendered : Rendered components (.shape guard name target shape) before after) (same : (stored == shape) = true) :
    ∀ value ∈ values, value.literal? type ≠ some (.double .nan) := by
  cases rendered with
  | aliasReference reference => simp [inline] at reference
  | aliasScalar _ known | openMap _ known | slice _ known | map _ known | record _ known => simp [classified] at known
  | @enumeration _ _ _ _ _ constants _ _ known fits =>
      obtain ⟨rfl, rfl⟩ := Shape.enumeration.inj (Except.ok.inj (classified.symm.trans known))
      have listed := enum_constants_values _ _ _ _ _ fits
      intro value member nan
      have present : .double .nan ∈ constants.map EnumConstant.value := by
        rw [listed]
        exact List.mem_filterMap.mpr ⟨value, member, nan⟩
      obtain ⟨constant, inside, valued⟩ := List.mem_map.mp present
      rcases stored with _ | ⟨types, others⟩ | _ | _ | _ | _
      case enumeration =>
        have both : (types == .named type.name && others == constants) = true := same
        rw [Bool.and_eq_true] at both
        exact constants_numbers others constants both.2 constant inside valued
      all_goals cases same

theorem entered_above (name : String) (s target : Schema) (stripped : s.effective = .ok target) :
    (Guard.enter {} s name).Above (sizeOf target) :=
  above_smaller _ _ _ (enter_above {} s name (List.forall_mem_nil _))
    (Schema.effective_size_le stripped)

-- One outcome for every unit: the same failure, or one declaration, which is made before the unit is looked at.
theorem render_settled (name : String) (s : Schema) (repeatable : s.Repeatable) :
    (∃ failure, ∀ unit, (render components name s).result unit = (.error failure, unit)) ∨
      ∃ d : Declaration, d.name = name ∧ (d == d) = true ∧
        ∀ unit, (render components name s).result unit = (Build.declare d).result unit := by
  unfold render
  rw [declare_schema_eq]
  cases stripped : s.effective with
  | error defect => exact Or.inl ⟨_, fun _ => rfl⟩
  | ok target =>
      dsimp only
      obtain ⟨result, idles⟩ := shape_idle components (Guard.enter {} s name) name s target stripped repeatable.alone
      cases result with
      | error failure => exact Or.inl ⟨failure, fun unit => by rw [Build.result_bind, idles]⟩
      | ok shape =>
          refine Or.inr ⟨{ name, doc := s.doc.or target.doc, shape }, rfl, ?_, fun unit => by rw [Build.result_bind, idles]⟩
          have rendered := schema_shape_rendered components _ name target shape _ _ (entered_above name s target stripped)
            (idles { package := "" })
          rw [declaration_same, beq_self_eq_true, beq_self_eq_true, Bool.true_and, Bool.true_and]
          exact rendered_same components _ name s target shape _ _ stripped repeatable rendered

theorem render_idles (name : String) (s : Schema) (before after later : SourceUnit) (repeatable : s.Repeatable)
    (done : (render components name s).result before = (.ok (), after)) (found : later.find? name = after.find? name) :
    (render components name s).result later = (.ok (), later) := by
  rcases render_settled components name s repeatable with ⟨failure, fails⟩ | ⟨d, rfl, same, declares⟩
  · cases (fails before).symm.trans done
  · have declared := Build.declare_ok _ _ _ ((declares before).symm.trans done)
    rw [declares, Build.declare_result, SourceUnit.declare_again before after later d declared same found]

theorem render_shape (name : String) (s : Schema) (before after : SourceUnit)
    (done : (render components name s).result before = (.ok (), after)) :
    ∃ target shape middle, s.effective = .ok target ∧
      Rendered components (.shape (Guard.enter {} s name) name target shape) before middle ∧
      middle.declare { name, doc := s.doc.or target.doc, shape } = .ok after := by
  cases render_rendered components name s before after done with
  | declaration stripped shaped declared => exact ⟨_, _, _, stripped, shaped, declared⟩

theorem render_again_repeatable (name : String) (s : Schema) (before after later last : SourceUnit)
    (done : (render components name s).result before = (.ok (), after))
    (again : (render components name s).result later = (.ok (), last))
    (taken : ∀ name ∈ after.names.taken, name ∈ later.names.taken) (found : later.find? name = after.find? name) :
    s.Repeatable := by
  obtain ⟨target, shape, middle, stripped, rendered, declared⟩ := render_shape components name s before after done
  obtain ⟨bare, twin, between, unwrapped, rerendered, redeclared⟩ := render_shape components name s later last again
  obtain rfl := Except.ok.inj (stripped.symm.trans unwrapped)
  obtain ⟨stored, known, alike⟩ := SourceUnit.declare_find _ _ _ declared
  have kept := SourceUnit.grows_find [] later between (rendered_grows _ _ _ _ rerendered) name stored (found.trans known)
  have same := SourceUnit.declared_same between last stored _ kept redeclared
  rw [declaration_same, Bool.and_eq_true, Bool.and_eq_true] at same
  refine ⟨fun nests => ?_, fun bare type values unwrapped inline classified => ?_⟩
  · obtain ⟨different, plain⟩ := shape_renamed components _ name s target shape twin _ _ _ _ stripped nests rendered
      rerendered fun name used => taken name ((SourceUnit.declare_grows _ _ _ declared).taken name used)
    have equal := (DeclarationShape.alike_iff stored.shape shape shape alike plain).mpr rfl
    have other := DeclarationShape.same_alike stored.shape twin same.2.2
    exact different ((DeclarationShape.alike_iff stored.shape twin shape other plain).mp equal).symm
  · obtain rfl := Except.ok.inj (stripped.symm.trans unwrapped)
    exact rendered_numbers components _ name target type values stored.shape twin _ _ inline classified rerendered same.2.2

theorem render_again (name : String) (s : Schema) (before after later : SourceUnit)
    (done : (render components name s).result before = (.ok (), after))
    (taken : ∀ name ∈ after.names.taken, name ∈ later.names.taken) (found : later.find? name = after.find? name) :
    (s.Repeatable ∧ (render components name s).result later = (.ok (), later)) ∨
      (¬ s.Repeatable ∧ ∃ other, Clashes other ((render components name s).result later).1) := by
  by_cases repeatable : s.Repeatable
  · exact Or.inl ⟨repeatable, render_idles components name s before after later repeatable done found⟩
  refine Or.inr ⟨repeatable, ?_⟩
  by_contra free
  have safe : (render components name s).FreeOfClashes before := fun other clash => by
    rw [done] at clash
    cases clash
  have fate := render_parallel components name s before later safe (not_exists.mp free)
  cases again : (render components name s).result later with
  | mk result last =>
      rw [done, again] at fate
      cases fate with
      | ok => exact repeatable (render_again_repeatable components name s before after later last done again taken found)

end

end ApiBindings
