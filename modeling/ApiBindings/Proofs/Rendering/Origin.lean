import ApiBindings.Proofs.Rendering.Names
import ApiBindings.Proofs.Rendering.Scopes
set_option autoImplicit false

namespace ApiBindings

-- The schema that a name of the finished unit was declared for, with the units
-- around that rendering. The schema is in progress under the name meanwhile.
def Origin (components : Components) (unit : SourceUnit) (name : String) (s : Schema) : Prop :=
  ∃ guard before after, guard.isActive s = true ∧ Rendered components (.declaration guard name s) before after ∧
    ∀ d ∈ after.declarations, d ∈ unit.declarations

def Rendering.Opened : Rendering → Prop
  | .declaration guard _ s => guard.isActive s = true
  | _ => True

theorem enter_active (guard : Guard Schema) (s : Schema) (name : String) : (guard.enter s name).isActive s = true := by
  rw [Guard.isActive, enter_in_progress, if_pos rfl, Option.isSome_or]
  exact Bool.or_true _

theorem rendered_origin (components : Components) (unit : SourceUnit) (task : Rendering) (before after : SourceUnit)
    (rendered : Rendered components task before after) (opened : task.Opened)
    (kept : ∀ d ∈ after.declarations, d ∈ unit.declarations) :
    ∀ d ∈ after.declarations, d.shape.isRecord = true →
      d ∈ before.declarations ∨ ∃ s, Origin components unit d.name s := by
  induction rendered with
  | @declaration guard name s target shape before middle after stripped shaped declared ih =>
      intro d member record
      have grows := SourceUnit.declare_grows middle after _ declared
      rcases SourceUnit.declare_cases middle after _ declared with ⟨_, _, _, _, same⟩ | ⟨_, appended⟩
      · subst after
        exact ih trivial kept d member record
      · rw [appended] at member
        rcases List.mem_append.mp member with old | new
        · exact ih trivial (fun d member => kept d (grows.keep d member)) d old record
        · rw [List.mem_singleton.mp new]
          exact Or.inr ⟨s, guard, before, after, opened, .declaration stripped shaped declared, kept⟩
  | aliasReference | aliasScalar | enumeration | openMap => exact fun d member _ => Or.inl member
  | slice _ _ _ ih => exact ih trivial kept
  | record _ _ _ ih => exact ih trivial kept
  | map _ _ _ ih => exact ih trivial kept
  | elementReference | elementScalar | elementOpenMap => exact fun d member _ => Or.inl member
  | elementEnumeration _ _ _ claimed _ declared =>
      intro d member record
      rw [← (SourceUnit.claim_declarations _ _ _ _ claimed).1]
      rcases SourceUnit.declare_cases _ _ _ declared with ⟨_, _, _, _, same⟩ | ⟨_, appended⟩
      · exact Or.inl (same ▸ member)
      · rw [appended] at member
        rcases List.mem_append.mp member with old | new
        · exact Or.inl old
        · rw [List.mem_singleton.mp new] at record
          exact absurd record Bool.false_ne_true
  | elementSlice _ _ _ _ ih => exact ih trivial kept
  | elementMap _ _ _ _ ih => exact ih trivial kept
  | elementRecord _ _ _ claimed _ ih =>
      rw [← (SourceUnit.claim_declarations _ _ _ _ claimed).1]
      exact ih (enter_active _ _ _) kept
  | noFields => exact fun d member _ => Or.inl member
  | field _ _ _ _ _ compiled first last =>
      intro d member record
      rcases last trivial kept d member record with old | origin
      · have grows := rendered_grows components _ _ _ compiled
        exact first trivial (fun d member => kept d (grows.keep d member)) d old record
      · exact Or.inr origin

theorem declaration_shape (components : Components) (unit : SourceUnit) (guard : Guard Schema) (name : String) (s : Schema)
    (before after : SourceUnit) (rendered : Rendered components (.declaration guard name s) before after)
    (kept : ∀ d ∈ after.declarations, d ∈ unit.declarations) :
    ∃ d ∈ unit.declarations, d.name = name ∧ ∃ target shape middle, s.effective = .ok target ∧
      Rendered components (.shape guard name target shape) before middle ∧
      (∀ d ∈ middle.declarations, d ∈ unit.declarations) ∧ d.shape.Alike shape := by
  cases rendered with
  | @declaration _ _ _ target shape _ middle _ stripped shaped declared =>
      have grows := SourceUnit.declare_grows middle after _ declared
      obtain ⟨stored, present, same, alike⟩ := SourceUnit.declare_declares middle after _ declared
      exact ⟨stored, kept stored present, same, target, shape, middle, stripped, shaped,
        fun d member => kept d (grows.keep d member), alike⟩

theorem origin_shape (components : Components) (unit : SourceUnit) (name : String) (s : Schema) (d : Declaration)
    (distinct : unit.Distinct) (origin : Origin components unit name s) (member : d ∈ unit.declarations)
    (named : d.name = name) :
    ∃ guard target shape before middle, guard.isActive s = true ∧ s.effective = .ok target ∧
      Rendered components (.shape guard name target shape) before middle ∧
      (∀ d ∈ middle.declarations, d ∈ unit.declarations) ∧ d.shape.Alike shape := by
  obtain ⟨guard, before, after, active, rendered, kept⟩ := origin
  obtain ⟨stored, present, same, target, shape, middle, stripped, shaped, below, alike⟩ :=
    declaration_shape components unit guard name s before after rendered kept
  obtain rfl := SourceUnit.distinct_same unit distinct stored d present member (same.trans named.symm)
  exact ⟨guard, target, shape, before, middle, active, stripped, shaped, below, alike⟩

theorem record_object (components : Components) (guard : Guard Schema) (name : String) (target : Schema)
    (fields : List Field) (before after : SourceUnit)
    (rendered : Rendered components (.shape guard name target (.record fields)) before after) :
    target.ref = none ∧ ∃ properties, target.classify = .ok (.object properties) ∧
      Rendered components (.fields guard name target {} properties fields) before after := by
  cases rendered with
  | record inline classified compiled => exact ⟨inline, _, classified, compiled⟩

theorem object_record (components : Components) (guard : Guard Schema) (name : String) (target : Schema)
    (shape : DeclarationShape) (properties : List (String × Schema)) (before after : SourceUnit)
    (inline : target.ref = none) (classified : target.classify = .ok (.object properties))
    (rendered : Rendered components (.shape guard name target shape) before after) : shape.isRecord = true := by
  cases rendered with
  | record => rfl
  | aliasReference reference => simp [inline] at reference
  | aliasScalar _ known => simp [classified] at known
  | enumeration _ known => simp [classified] at known
  | slice _ known => simp [classified] at known
  | openMap _ known => simp [classified] at known
  | map _ known => simp [classified] at known

theorem alias_reference (components : Components) (guard : Guard Schema) (name next : String) (target : Schema)
    (before after : SourceUnit)
    (rendered : Rendered components (.shape guard name target (.alias (.named next))) before after) :
    (∃ path, target.ref = some path ∧ components.typeName path = .ok next) ∨
      ∃ type, TypeExpr.named next = .ofScalar type := by
  generalize given : DeclarationShape.alias (.named next) = shape at rendered
  cases rendered with
  | aliasReference reference named =>
      cases given
      exact Or.inl ⟨_, reference, named⟩
  | aliasScalar => exact Or.inr ⟨_, DeclarationShape.alias.inj given⟩
  | enumeration | slice | record | openMap | map => cases given

theorem field_property (components : Components) (guard : Guard Schema) (parent : String) (object : Schema)
    (names : Names) (properties : List (String × Schema)) (fields : List Field) (before after : SourceUnit)
    (field : Field) (rendered : Rendered components (.fields guard parent object names properties fields) before after)
    (member : field ∈ fields) :
    ∃ entry ∈ properties, ∃ name target type collection first last, entry.2.effective = .ok target ∧
      components.isCollection target = .ok collection ∧
      Rendered components (.element guard (parent ++ name) target type) first last ∧
      (∀ d ∈ last.declarations, d ∈ after.declarations) ∧
      field = propertyField components guard object name entry.1 entry.2 type collection := by
  induction properties generalizing names fields before with
  | nil =>
      cases rendered with
      | noFields => exact absurd member List.not_mem_nil
  | cons entry rest ih =>
      obtain ⟨wire, property⟩ := entry
      cases rendered with
      | @field _ _ _ _ _ _ name _ target _ type collection others _ middle _ _ _ stripped collects typed compiled =>
          have grows := rendered_grows components _ _ _ compiled
          rcases List.mem_cons.mp member with same | later
          · exact ⟨(wire, property), List.mem_cons_self, name, target, type, collection, before, middle, stripped, collects,
              typed, grows.keep, same⟩
          · obtain ⟨other, listed, found⟩ := ih _ others middle compiled later
            exact ⟨other, List.mem_cons_of_mem _ listed, found⟩

theorem field_type_named (type : TypeExpr) (collection required : Bool) (closesCycle : Unit → Bool) (name : String)
    (plain : fieldType type collection required closesCycle = .named name) :
    type = .named name ∧ (collection = true ∨ closesCycle () = false) := by
  unfold fieldType at plain
  split at plain
  next known =>
    rw [plain] at known
    exact ⟨plain, Or.inl (by simpa [TypeExpr.isNilable] using known)⟩
  next =>
    split at plain
    next => cases type <;> simp [TypeExpr.toPointer] at plain
    next unmet =>
      rw [Bool.or_eq_true, not_or, Bool.not_eq_true, Bool.not_eq_true] at unmet
      exact ⟨plain, Or.inr unmet.2⟩

end ApiBindings
