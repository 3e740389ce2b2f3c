import ApiBindings.Proofs.Operation.Functions
import ApiBindings.Proofs.Operation.Lookup
import ApiBindings.Proofs.Operation.Shortcuts
import ApiBindings.Proofs.Rendering.Origin
import ApiBindings.Proofs.Shape.Classify
import ApiBindings.Proofs.Shape.Reference
set_option autoImplicit false

namespace ApiBindings

def Components.TargetsObject (components : Components) (s : Schema) : Prop :=
  ∃ properties, components.Targets s (.object properties)

-- The target is seen when a payload is typed: a reference that is followed, or a
-- schema of its own that is not taken for a list of references.
def Schema.ShowsTarget (s : Schema) : Prop :=
  s.bareReference.isSome = true ∨ s.arrayOfReference = none ∧ s.Inline

structure PassedAs (components : Components) (s : Schema) (byPointer : Bool) : Prop where
  exact : byPointer = true ↔ components.TargetsObject s ∧ s.ShowsTarget
  plain : s.unwrapped.Bare → (byPointer = true ↔ components.TargetsObject s)

theorem array_reference_typed (s : Schema) (path : String) (listed : s.arrayOfReference = some path) :
    s.unwrapped.firstType = some "array" ∨ s.unwrapped.firstType = none := by
  unfold Schema.arrayOfReference at listed
  have array := (Option.ite_none_right_eq_some.mp listed).1
  split at array
  next type declared => exact Or.inl (eq_of_beq array ▸ declared)
  next undeclared => exact Or.inr undeclared

section

variable (components : Components)

theorem object_reference_targets (s : Schema) (isObject : Bool) (kind : components.isObjectRef s = .ok isObject) :
    isObject = true ↔ components.TargetsObject s := by
  unfold Components.isObjectRef at kind
  cases shaped : components.targetShape s with
  | error =>
      rw [shaped] at kind
      cases kind
  | ok shape =>
      rw [shaped] at kind
      obtain rfl := Except.ok.inj kind
      have targets := target_shape_targets components s shape shaped
      constructor
      · intro object
        cases shape with
        | object properties => exact ⟨properties, targets⟩
        | scalar | enumeration | array | map => cases object
      · rintro ⟨properties, known⟩
        rw [targets_unique components s shape _ targets known]
        rfl

theorem inline_object (s target : Schema) (stripped : s.effective = .ok target) (here : target.ref = none) :
    components.TargetsObject s ↔ ∃ properties, target.classify = .ok (.object properties) :=
  exists_congr fun properties => inline_targets components s target (.object properties) stripped here

theorem reference_list_no_object (s : Schema) (path : String) (bare : s.unwrapped.Bare) (single : s.bareReference = none)
    (listed : s.arrayOfReference = some path) : ¬ components.TargetsObject s := by
  rw [inline_object components s s.unwrapped (s.unwrapped_effective bare) single]
  rintro ⟨properties, classified⟩
  obtain ⟨items, held, _⟩ := array_reference_items path listed
  exact s.unwrapped.items_not_object items properties (array_reference_typed s path listed) held classified

-- A reference is declared as an alias, even if a record is behind it.
theorem declared_record (guard : Guard Schema) (name : String) (s : Schema) (before after : SourceUnit)
    (rendered : Rendered components (.declaration guard name s) before after) :
    after.isRecord name = true ↔ components.TargetsObject s ∧ s.Inline := by
  cases rendered with
  | @declaration _ _ _ target shape _ middle _ stripped shaped declared =>
      obtain ⟨stored, found, alike⟩ := SourceUnit.declare_find middle after _ declared
      have kind : after.isRecord name = shape.isRecord := by
        rw [SourceUnit.isRecord, found, Option.any_some]
        exact DeclarationShape.alike_is_record _ _ alike
      rw [kind]
      constructor
      · intro record
        cases shape with
        | record fields =>
            obtain ⟨here, properties, classified, _⟩ := record_object components guard name target fields _ _ shaped
            exact ⟨(inline_object components s target stripped here).mpr ⟨properties, classified⟩, target, stripped, here⟩
        | _ => cases record
      · rintro ⟨object, other, again, here⟩
        obtain rfl := Except.ok.inj (stripped.symm.trans again)
        obtain ⟨properties, classified⟩ := (inline_object components s target stripped here).mp object
        exact object_record components guard name target shape properties _ _ here classified shaped

theorem payload_passed (operation role : String) (s : Schema) (before after : SourceUnit) (payload : Payload)
    (typed : PayloadTyped components operation role s before payload after) :
    payload.type.isPointer = false ∧ PassedAs components s payload.isObject := by
  cases typed with
  | component bare _ kind =>
      have targets := object_reference_targets components s _ kind
      have shows : s.ShowsTarget := Or.inl (by rw [bare]; rfl)
      exact ⟨rfl, targets.trans (and_iff_left shows).symm, fun _ => targets⟩
  | list inline items =>
      refine ⟨rfl, ⟨fun impossible => (by cases impossible), ?_⟩, fun stripped => ?_⟩
      · rintro ⟨_, shown | ⟨single, _⟩⟩
        · rw [inline] at shown
          cases shown
        · cases items.symm.trans single
      · refine ⟨fun impossible => (by cases impossible), fun object => ?_⟩
        exact absurd object (reference_list_no_object components s _ stripped inline items)
  | declared inline single _ rendered =>
      have record := declared_record components _ _ s _ after rendered
      have shows : s.ShowsTarget ↔ s.Inline := by
        unfold Schema.ShowsTarget
        rw [inline]
        simp [single]
      refine ⟨rfl, record.trans (and_congr_right fun _ => shows.symm), fun stripped => ?_⟩
      have here : s.Inline := ⟨s.unwrapped, s.unwrapped_effective stripped, inline⟩
      exact record.trans (and_iff_left here)

end

theorem passed_pointer (type : TypeExpr) (byPointer : Bool) (plain : type.isPointer = false) :
    (if byPointer then type.toPointer else type).isPointer = byPointer := by
  cases byPointer with
  | false => exact plain
  | true => cases type <;> rfl

theorem body_parameter (entry : Document.Entry) (path : PathExpr) (inPath : List Variable) (body : Option Payload)
    (option : Option String) (response : Payload) (free : ∀ slot ∈ inPath, ¬ Naming.Reserved slot.name) :
    (clientMethod entry path inPath body option response).parameters.filter (·.name = "body") =
      body.toList.map fun body =>
        { name := "body", type := if body.isObject then body.type.toPointer else body.type } := by
  have none : inPath.filter (·.name = "body") = [] := by
    refine List.filter_eq_nil_iff.mpr fun slot member same => free slot member ?_
    rw [of_decide_eq_true same]
    decide
  cases body <;> cases option <;> simp [clientMethod, none]

structure PayloadsPassed (components : Components) (operation : Operation) (signature : Function) : Prop where
  response : ∃ response result, operation.responseSchema = some response ∧
    signature.results = [result, .named "error"] ∧ PassedAs components response result.isPointer
  bodiless : operation.bodySchema = none → signature.parameters.filter (·.name = "body") = []
  body : ∀ request, operation.bodySchema = some request →
    ∃ slot, signature.parameters.filter (·.name = "body") = [slot] ∧ PassedAs components request slot.type.isPointer

theorem compiled_payloads_passed (components : Components) (earlier : List String) (entry : Document.Entry)
    (before after : SourceUnit) (operation : CompiledOperation)
    (compiled : Compiled components earlier entry before (.emitted operation) after) :
    PayloadsPassed components entry.operation operation.signature := by
  cases compiled with
  | @emitted responseSchema parameters inPath body option response path _ first second _ _ _ _ _ responded merged pathTyped
      bodyTyped _ responseTyped =>
      have free := path_variables_free components _ parameters inPath _ _ pathTyped
      have slots := body_parameter entry path inPath body option response free
      refine ⟨⟨responseSchema, _, responded, rfl, ?_⟩, ?_, ?_⟩
      · obtain ⟨plain, passed⟩ := payload_passed components _ _ _ _ _ response responseTyped
        rw [ResponseBinding.result, passed_pointer response.type response.isObject plain]
        exact passed
      · intro missing
        rw [missing] at bodyTyped
        cases bodyTyped
        exact slots
      · intro request given
        rw [given] at bodyTyped
        cases bodyTyped with
        | some typed =>
            obtain ⟨plain, passed⟩ := payload_passed components _ _ _ _ _ _ typed
            exact ⟨_, slots, by rwa [passed_pointer _ _ plain]⟩

end ApiBindings
