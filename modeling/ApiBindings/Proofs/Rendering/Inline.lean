import ApiBindings.Proofs.Rendering.Collision
import ApiBindings.Proofs.Rendering.Fields
import ApiBindings.Proofs.Rendering.Idle
import ApiBindings.Proofs.Rendering.Origin
set_option autoImplicit false

namespace ApiBindings

namespace Schema

def shaped? (s : Schema) : Option Shape :=
  match s.ref, s.classify with
  | none, .ok shape => some shape
  | _, _ => none

theorem shaped_iff (s : Schema) (shape : Shape) : s.shaped? = some shape ↔ s.ref = none ∧ s.classify = .ok shape := by
  unfold shaped?
  cases s.ref <;> cases s.classify <;> simp

def parts (target : Schema) : List Schema := target.shaped?.elim [] Shape.parts

theorem part_smaller (target part : Schema) (member : part ∈ target.parts) : sizeOf part < sizeOf target := by
  unfold parts at member
  cases shaped : target.shaped? with
  | none => simp [shaped] at member
  | some shape =>
      rw [shaped, Option.elim_some] at member
      have held := Schema.holds_classify ((shaped_iff target shape).mp shaped).2
      cases shape with
      | array items =>
          obtain rfl := List.mem_singleton.mp member
          exact held
      | object properties =>
          obtain ⟨⟨wire, property⟩, listed, rfl⟩ := List.mem_map.mp member
          have inside := List.sizeOf_lt_of_mem listed
          simp only [Prod.mk.sizeOf_spec] at inside
          change sizeOf properties < sizeOf target at held
          change sizeOf property < sizeOf target
          omega
      | map value =>
          obtain rfl := Option.mem_toList.mp member
          exact held
      | scalar _ | enumeration _ _ => cases member

def own (target : Schema) : List Schema := if target.shaped?.elim false Shape.ownsName then [target] else []

-- The objects and enumerations that are found where the schema stands inside another
-- one, outer ones first and each as often as it is found.
def inlines (s : Schema) : List Schema :=
  match _stripped : s.effective with
  | .ok target => target.own ++ target.parts.attach.flatMap fun part => inlines part.1
  | .error _ => []
termination_by sizeOf s
decreasing_by
  have := Schema.effective_size_le _stripped
  have := part_smaller target part.1 part.2
  omega

def inside (target : Schema) : List Schema := target.parts.flatMap inlines

def within (s : Schema) : List Schema :=
  match s.effective with
  | .ok target => target.inside
  | .error _ => []

theorem inlines_eq (s target : Schema) (stripped : s.effective = .ok target) : s.inlines = target.own ++ target.inside := by
  rw [inlines]
  split
  next other same =>
    obtain rfl := Except.ok.inj (stripped.symm.trans same)
    simp [inside]
  next failed => simp [stripped] at failed

theorem inlines_stripped (s target : Schema) (stripped : s.effective = .ok target) : target.inlines = s.inlines := by
  rw [inlines_eq s target stripped, inlines_eq target target (effective_idempotent s target stripped)]

section

variable {s target : Schema} {shape : Shape}

theorem inside_shaped (inline : target.ref = none) (classified : target.classify = .ok shape) :
    target.inside = shape.parts.flatMap inlines := by
  rw [inside, parts, (shaped_iff target shape).mpr ⟨inline, classified⟩, Option.elim_some]

theorem own_shaped (inline : target.ref = none) (classified : target.classify = .ok shape) :
    target.own = if shape.ownsName then [target] else [] := by
  rw [own, (shaped_iff target shape).mpr ⟨inline, classified⟩, Option.elim_some]

theorem inside_empty (inline : target.ref = none) (classified : target.classify = .ok shape) (none : shape.parts = []) :
    target.inside = [] := by
  rw [inside_shaped inline classified, none, List.flatMap_nil]

theorem inside_single {part : Schema} (inline : target.ref = none) (classified : target.classify = .ok shape)
    (single : shape.parts = [part]) : target.inside = part.inlines := by
  rw [inside_shaped inline classified, single, List.flatMap_singleton]

theorem within_stripped (stripped : s.effective = .ok target) : s.within = target.inside := by
  rw [within, stripped]

theorem inlines_passed (stripped : s.effective = .ok target) (inline : target.ref = none)
    (classified : target.classify = .ok shape) (plain : shape.ownsName = false) : s.inlines = target.inside := by
  rw [inlines_eq s target stripped, own_shaped inline classified, plain]
  rfl

theorem inlines_owned (stripped : s.effective = .ok target) (inline : target.ref = none)
    (classified : target.classify = .ok shape) (owns : shape.ownsName = true) : s.inlines = target :: target.within := by
  rw [inlines_eq s target stripped, own_shaped inline classified, owns,
    within_stripped (effective_idempotent s target stripped)]
  rfl

end

theorem inside_reference (target : Schema) (path : String) (reference : target.ref = some path) : target.inside = [] := by
  simp [inside, parts, shaped?, reference]

theorem inlines_reference (s target : Schema) (path : String) (stripped : s.effective = .ok target)
    (reference : target.ref = some path) : s.inlines = [] := by
  rw [inlines_eq s target stripped, inside_reference target path reference]
  simp [own, shaped?, reference]

inductive Makes (target : Schema) (name : String) : DeclarationShape → Prop where
  | enumeration {type : ScalarType} {values : List EnumValue} {shape : DeclarationShape}
      (classified : target.classify = .ok (.enumeration type values)) (made : enumShape name type values = .ok shape) :
      target.Makes name shape
  | record {properties : List (String × Schema)} {fields : List Field}
      (classified : target.classify = .ok (.object properties))
      (wires : fields.map Field.wire = properties.map fun entry => some entry.1) : target.Makes name (.record fields)

end Schema

namespace SourceUnit

def Stores (unit : SourceUnit) (made : Declaration) : Prop := ∃ d ∈ unit.declarations, d = made ∨ (d == made) = true

def StoresFor (unit : SourceUnit) (target : Schema) (name : String) : Prop :=
  ∃ shape, target.Makes name shape ∧ unit.Stores { name, doc := target.doc, shape }

structure DeclaresApart (before after : SourceUnit) (schemas : List Schema) (names : List String) : Prop where
  declared : List.Forall₂ after.StoresFor schemas names
  distinct : names.Nodup
  fresh : ∀ name ∈ names, name ∉ before.names.taken
  taken : ∀ name, name ∈ after.names.taken ↔ name ∈ names ∨ name ∈ before.names.taken

theorem declare_stores (unit after : SourceUnit) (d : Declaration) (declared : unit.declare d = .ok after) :
    after.Stores d := by
  rcases declare_cases unit after d declared with ⟨existing, member, _, same, rfl⟩ | ⟨_, rfl⟩
  · exact ⟨existing, member, Or.inr same⟩
  · exact ⟨d, List.mem_append_right _ (List.mem_singleton_self d), Or.inl rfl⟩

theorem declare_taken (unit after : SourceUnit) (d : Declaration) (declared : unit.declare d = .ok after) :
    after.names = unit.names := by
  rcases declare_cases unit after d declared with ⟨_, _, _, _, rfl⟩ | ⟨_, rfl⟩ <;> rfl

theorem stores_for_keep (unit after : SourceUnit) (target : Schema) (name : String)
    (keep : ∀ d ∈ unit.declarations, d ∈ after.declarations) (stored : unit.StoresFor target name) :
    after.StoresFor target name := by
  obtain ⟨shape, makes, d, member, same⟩ := stored
  exact ⟨shape, makes, d, keep d member, same⟩

theorem apart_none (unit : SourceUnit) : unit.DeclaresApart unit [] [] :=
  ⟨.nil, List.nodup_nil, List.forall_mem_nil _, fun _ => by simp⟩

theorem apart_empty (unit : SourceUnit) (schemas : List Schema) (empty : schemas = []) :
    ∃ names, unit.DeclaresApart unit schemas names := ⟨[], empty ▸ apart_none unit⟩

theorem apart_append (before middle after : SourceUnit) (some more : List Schema) (names others : List String)
    (keep : ∀ d ∈ middle.declarations, d ∈ after.declarations) (first : before.DeclaresApart middle some names)
    (last : middle.DeclaresApart after more others) : before.DeclaresApart after (some ++ more) (names ++ others) := by
  have earlier := first.declared.imp fun target name => stores_for_keep middle after target name keep
  refine ⟨List.rel_append earlier last.declared, ?_, fun name member => ?_, fun name => ?_⟩
  · refine List.nodup_append.mpr ⟨first.distinct, last.distinct, fun name member other later same => ?_⟩
    exact last.fresh other later ((first.taken other).mpr (Or.inl (same ▸ member)))
  · rcases List.mem_append.mp member with early | late
    · exact first.fresh name early
    · exact fun older => last.fresh name late ((first.taken name).mpr (Or.inr older))
  · rw [last.taken, first.taken, List.mem_append]
    tauto

theorem apart_claim (before middle after : SourceUnit) (base name : String) (target : Schema) (others : List Schema)
    (names : List String) (claimed : before.claim base = (name, middle)) (own : after.StoresFor target name)
    (inner : middle.DeclaresApart after others names) : before.DeclaresApart after (target :: others) (name :: names) := by
  have free := (claim_grows before middle base name claimed).2
  have taken (other : String) : other ∈ middle.names.taken ↔ other = name ∨ other ∈ before.names.taken := by
    obtain ⟨rfl, rfl⟩ := Prod.mk.inj claimed
    exact Names.claim_mem before.names base other
  refine ⟨.cons own inner.declared, List.nodup_cons.mpr ⟨fun member => inner.fresh name member free.2, inner.distinct⟩,
    fun other member => ?_, fun other => ?_⟩
  · rcases List.mem_cons.mp member with rfl | inside
    · exact free.1
    · exact fun older => inner.fresh other inside ((taken other).mpr (Or.inr older))
  · rw [inner.taken, taken, List.mem_cons]
    tauto

theorem apart_declare (before middle after : SourceUnit) (d : Declaration) (schemas : List Schema) (names : List String)
    (apart : before.DeclaresApart middle schemas names) (declared : middle.declare d = .ok after) :
    before.DeclaresApart after schemas names := by
  have keep := (declare_grows middle after d declared).keep
  refine ⟨apart.declared.imp fun target name => stores_for_keep middle after target name keep, apart.distinct, apart.fresh, ?_⟩
  rw [declare_taken middle after d declared]
  exact apart.taken

end SourceUnit

def Rendering.inlines : Rendering → List Schema
  | .declaration _ _ s => s.within
  | .shape _ _ target _ => target.inside
  | .element _ _ s _ => s.inlines
  | .fields _ _ _ _ properties _ => (properties.map Prod.snd).flatMap Schema.inlines

theorem fields_wires (components : Components) (guard : Guard Schema) (parent : String) (object : Schema) (names : Names)
    (properties : List (String × Schema)) (fields : List Field) (before after : SourceUnit)
    (rendered : Rendered components (.fields guard parent object names properties fields) before after) :
    fields.map Field.wire = properties.map fun entry => some entry.1 := by
  induction properties generalizing names fields before with
  | nil =>
      cases rendered
      rfl
  | cons entry rest ih =>
      cases rendered with
      | field _ _ _ _ _ compiled =>
          rw [List.map_cons, List.map_cons, ih _ _ _ compiled]
          rfl

theorem record_held (components : Components) (guard : Guard Schema) (name : String) (target : Schema)
    (properties : List (String × Schema)) (before after : SourceUnit) (bare : target.effective = .ok target)
    (inline : target.ref = none) (classified : target.classify = .ok (.object properties))
    (rendered : Rendered components (.declaration guard name target) before after) : after.StoresFor target name := by
  cases rendered with
  | @declaration _ _ _ _ shape _ middle _ stripped shaped declared =>
      obtain rfl := Except.ok.inj (bare.symm.trans stripped)
      have record := object_record components guard name target shape properties before middle inline classified shaped
      cases shape with
      | record fields =>
          obtain ⟨_, listed, known, compiled⟩ := record_object components guard name target fields before middle shaped
          have held := SourceUnit.declare_stores middle after _ declared
          rw [Option.or_self] at held
          exact ⟨_, .record known (fields_wires components guard name target {} listed fields before middle compiled), held⟩
      | _ => cases record

theorem enumeration_held (type : ScalarType) (values : List EnumValue) (constants : List EnumConstant) (name : String)
    (target : Schema) (before after : SourceUnit) (classified : target.classify = .ok (.enumeration type values))
    (fits : enumConstants type name {} values = .ok constants)
    (declared : before.declare
      { name, doc := target.doc.or target.doc, shape := .enumeration (.named type.name) constants } = .ok after) :
    after.StoresFor target name := by
  have made : enumShape name type values = .ok (.enumeration (.named type.name) constants) := by
    rw [enumShape, fits]
    rfl
  have held := SourceUnit.declare_stores before after _ declared
  rw [Option.or_self] at held
  exact ⟨_, .enumeration classified made, held⟩

theorem enumeration_apart (type : ScalarType) (values : List EnumValue) (constants : List EnumConstant) (hint name : String)
    (s target : Schema) (before middle after : SourceUnit) (stripped : s.effective = .ok target)
    (inline : target.ref = none) (classified : target.classify = .ok (.enumeration type values))
    (claimed : before.claim hint = (name, middle)) (fits : enumConstants type name {} values = .ok constants)
    (declared : middle.declare
      { name, doc := target.doc.or target.doc, shape := .enumeration (.named type.name) constants } = .ok after) :
    ∃ names, before.DeclaresApart after s.inlines names := by
  have held := enumeration_held type values constants name target middle after classified fits declared
  have inner := SourceUnit.apart_declare _ _ _ _ [] [] (SourceUnit.apart_none middle) declared
  have none : target.within = [] := by
    rw [Schema.within_stripped (Schema.effective_idempotent s target stripped),
      Schema.inside_empty inline classified rfl]
  rw [Schema.inlines_owned stripped inline classified rfl, none]
  exact ⟨[name], SourceUnit.apart_claim _ _ _ hint name target [] [] claimed held inner⟩

theorem record_apart (components : Components) (guard : Guard Schema) (hint name : String) (s target : Schema)
    (properties : List (String × Schema)) (before middle after : SourceUnit) (names : List String)
    (stripped : s.effective = .ok target) (inline : target.ref = none)
    (classified : target.classify = .ok (.object properties)) (claimed : before.claim hint = (name, middle))
    (declared : Rendered components (.declaration guard name target) middle after)
    (inner : middle.DeclaresApart after target.within names) : ∃ names, before.DeclaresApart after s.inlines names := by
  have held := record_held components guard name target properties middle after
    (Schema.effective_idempotent s target stripped) inline classified declared
  rw [Schema.inlines_owned stripped inline classified rfl]
  exact ⟨name :: names, SourceUnit.apart_claim _ _ _ hint name target _ names claimed held inner⟩

theorem rendered_apart (components : Components) (task : Rendering) (before after : SourceUnit)
    (rendered : Rendered components task before after) : ∃ names, before.DeclaresApart after task.inlines names := by
  induction rendered with
  | declaration stripped _ declared ih =>
      obtain ⟨names, apart⟩ := ih
      rw [Rendering.inlines, Schema.within_stripped stripped]
      exact ⟨names, SourceUnit.apart_declare _ _ _ _ _ names apart declared⟩
  | aliasReference reference => exact SourceUnit.apart_empty _ _ (Schema.inside_reference _ _ reference)
  | aliasScalar inline classified | enumeration inline classified | openMap inline classified =>
      exact SourceUnit.apart_empty _ _ (Schema.inside_empty inline classified rfl)
  | slice inline classified _ ih | map inline classified _ ih =>
      rw [Rendering.inlines, Schema.inside_single inline classified rfl]
      exact ih
  | record inline classified _ ih =>
      rw [Rendering.inlines, Schema.inside_shaped inline classified]
      exact ih
  | elementReference stripped reference =>
      exact SourceUnit.apart_empty _ _ (Schema.inlines_reference _ _ _ stripped reference)
  | elementScalar stripped inline classified | elementOpenMap stripped inline classified =>
      rw [Rendering.inlines, Schema.inlines_passed stripped inline classified rfl]
      exact SourceUnit.apart_empty _ _ (Schema.inside_empty inline classified rfl)
  | elementEnumeration stripped inline classified claimed fits declared =>
      exact enumeration_apart _ _ _ _ _ _ _ _ _ _ stripped inline classified claimed fits declared
  | elementSlice stripped inline classified _ ih | elementMap stripped inline classified _ ih =>
      rw [Rendering.inlines, Schema.inlines_passed stripped inline classified rfl,
        Schema.inside_single inline classified rfl]
      exact ih
  | elementRecord stripped inline classified claimed declared ih =>
      obtain ⟨names, apart⟩ := ih
      exact record_apart components _ _ _ _ _ _ _ _ _ names stripped inline classified claimed declared apart
  | noFields => exact SourceUnit.apart_empty _ _ rfl
  | field _ _ stripped _ _ compiled first last =>
      obtain ⟨names, earlier⟩ := first
      obtain ⟨others, later⟩ := last
      have keep := (rendered_grows components _ _ _ compiled).keep
      rw [Rendering.inlines, Schema.inlines_stripped _ _ stripped] at earlier
      rw [Rendering.inlines, List.map_cons, List.flatMap_cons]
      exact ⟨names ++ others, SourceUnit.apart_append _ _ _ _ _ names others keep earlier later⟩

-- Nothing is found in progress while it is rendered inside another schema, on no run
-- and whatever would be done with it. So nothing inside a schema stands for what is
-- around it.
theorem inline_schemas_declared_apart (components : Components) :
    (∀ collide name s, renderOr components collide name s = render components name s) ∧
      (∀ collide hint s, valueTypeOr components collide hint s = valueType components hint s) ∧
      (∀ name s before after, (render components name s).result before = (.ok (), after) →
        ∃ names, before.DeclaresApart after s.within names) ∧
      ∀ hint s before after type, (valueType components hint s).result before = (.ok type, after) →
        ∃ names, before.DeclaresApart after s.inlines names := by
  refine ⟨render_or components, value_type_or components, fun name s before after done => ?_,
    fun hint s before after type done => ?_⟩
  · exact rendered_apart components _ before after (render_rendered components name s before after done)
  · exact rendered_apart components _ before after (value_type_rendered components hint s before after type done)

def box : Schema := { properties := some [("id", { type := some (.single "string") })] }

def nestedBoxes : Schema := { properties := some [("left", box), ("right", { items := some box })] }

theorem nested_boxes_declared_apart :
    nestedBoxes.within = [box, box] ∧
      ∃ after, (render {} "Boxes" nestedBoxes).result { package := "models" } = (.ok (), after) ∧
        ∃ names, SourceUnit.DeclaresApart { package := "models" } after [box, box] names := by
  have inside : nestedBoxes.within = [box, box] := by decide +kernel
  have done : ((render {} "Boxes" nestedBoxes).result { package := "models" }).1 = .ok () := by decide +kernel
  have apart := (inline_schemas_declared_apart {}).2.2.1 "Boxes" nestedBoxes _ _ (Prod.ext done rfl)
  exact ⟨inside, _, Prod.ext done rfl, inside ▸ apart⟩

end ApiBindings
