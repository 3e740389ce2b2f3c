import ApiBindings.Proofs.Generation.Format
import ApiBindings.Proofs.Generation.Types
import ApiBindings.Proofs.Rendering.Reach
import ApiBindings.Proofs.Shape.Reference
set_option autoImplicit false

namespace ApiBindings

open ApiBindings.Cycle

namespace SourceUnit

inductive Leads (unit : SourceUnit) : String → String → Prop where
  | here (name : String) : Leads unit name name
  | step {d : Declaration} {next last : String} (member : d ∈ unit.declarations) (same : d.shape = .alias (.named next))
      (rest : Leads unit next last) : Leads unit d.name last

def DeclaresRecord (unit : SourceUnit) (name : String) : Prop :=
  ∃ d ∈ unit.declarations, d.name = name ∧ d.shape.isRecord = true

def Holds (unit : SourceUnit) (outer inner : String) : Prop :=
  ∃ d ∈ unit.declarations, d.name = outer ∧ ∃ fields, d.shape = .record fields ∧ ∃ field ∈ fields, ∃ name,
    field.type = .named name ∧ unit.Leads name inner ∧ unit.DeclaresRecord inner

theorem leads_declares (unit : SourceUnit) (name last : String) (leads : unit.Leads name last)
    (declared : unit.Declares last) : unit.Declares name := by
  cases leads with
  | here => exact declared
  | step member _ _ => exact ⟨_, member, rfl⟩

theorem leads_declared (unit : SourceUnit) (name last : String) (leads : unit.Leads name last)
    (record : unit.DeclaresRecord last) : unit.Declares name := by
  obtain ⟨d, member, named, _⟩ := record
  exact leads_declares unit name last leads ⟨d, member, named⟩

end SourceUnit

theorem leads_itself (unit : SourceUnit) (distinct : unit.Distinct) (d : Declaration) (name last : String)
    (member : d ∈ unit.declarations) (named : d.name = name) (plain : ∀ next, d.shape ≠ .alias (.named next))
    (leads : unit.Leads name last) : last = name := by
  cases leads with
  | here => rfl
  | step other aliased _ =>
      obtain rfl := SourceUnit.distinct_same unit distinct d _ member other named
      exact absurd aliased (plain _)

theorem record_itself (unit : SourceUnit) (distinct : unit.Distinct) (d : Declaration) (name : String)
    (member : d ∈ unit.declarations) (named : d.name = name) (record : unit.DeclaresRecord name) :
    d.shape.isRecord = true := by
  obtain ⟨other, present, same, kind⟩ := record
  rwa [SourceUnit.distinct_same unit distinct d other member present (named.trans same.symm)]

section

variable (components : Components) (unit : SourceUnit) (complete : Complete components unit)

include complete

theorem scalar_undeclared (type : ScalarType) (name : String) (scalar : TypeExpr.named name = .ofScalar type) :
    ¬ unit.Declares name := by
  rintro ⟨d, member, named⟩
  exact scalar_not_capital type name scalar (named ▸ complete.capital d member)

theorem scalar_leads_nowhere (type : ScalarType) (name last : String) (scalar : TypeExpr.named name = .ofScalar type)
    (leads : unit.Leads name last) (record : unit.DeclaresRecord last) : False :=
  scalar_undeclared components unit complete type name scalar (SourceUnit.leads_declared unit name last leads record)

theorem record_shape (name : String) (s : Schema) (origin : Origin components unit name s)
    (record : unit.DeclaresRecord name) :
    ∃ target properties, s.effective = .ok target ∧ target.ref = none ∧ target.classify = .ok (.object properties) := by
  obtain ⟨d, member, named, kind⟩ := record
  obtain ⟨guard, target, shape, before, middle, _, stripped, shaped, _, alike⟩ :=
    origin_shape components unit name s d complete.distinct origin member named
  rw [DeclarationShape.alike_is_record _ _ alike] at kind
  cases shape with
  | record fields =>
      obtain ⟨inline, properties, classified, _⟩ := record_object components guard name target fields before middle shaped
      exact ⟨target, properties, stripped, inline, classified⟩
  | _ => exact absurd kind Bool.false_ne_true

theorem leads_component (entry : String × Schema) (name last : String) (leads : unit.Leads name last)
    (record : unit.DeclaresRecord last) (listed : entry ∈ components.schemas) (named : name = Naming.exported entry.1) :
    ∃ final ∈ components.schemas, Origin components unit last final.2 ∧ Reaches components entry.2 final.2 ∧
      ∀ target left found, entry.2.effective = .ok target → components.follow left target = .ok found →
        final.2.effective = .ok found := by
  induction leads generalizing entry with
  | here name =>
      subst named
      have origin := complete.component entry listed
      refine ⟨entry, listed, origin, .refl, fun target left found stripped followed => ?_⟩
      obtain ⟨again, _, same, inline, _⟩ := record_shape components unit complete _ entry.2 origin record
      obtain rfl := Except.ok.inj (stripped.symm.trans same)
      rw [stripped, follow_inline components left target found inline followed]
  | @step d next last member aliased rest ih =>
      have origin := complete.component entry listed
      obtain ⟨guard, target, shape, before, middle, _, stripped, shaped, _, alike⟩ :=
        origin_shape components unit _ entry.2 d complete.distinct origin member named
      rw [(DeclarationShape.alike_iff _ _ _ alike (by simp)).mp aliased] at shaped
      rcases alias_reference components guard _ next target before middle shaped with
        ⟨path, reference, typed⟩ | ⟨type, scalar⟩
      · obtain ⟨⟨key, t⟩, member, named, found⟩ := reference_component components path next typed
        obtain ⟨final, last, ending, reached, follows⟩ := ih (key, t) record member named
        refine ⟨final, last, ending, .head (.reference stripped reference found) reached, ?_⟩
        intro again left result same followed
        obtain rfl := Except.ok.inj (stripped.symm.trans same)
        obtain ⟨less, inner, bare, further⟩ :=
          follow_reference components left target result path (key, t) reference found followed
        exact follows inner less result bare further
      · exact (scalar_leads_nowhere components unit complete type next last scalar rest record).elim

theorem collection_holds_none (guard : Guard Schema) (hint name last : String) (target : Schema)
    (before after : SourceUnit) (stripped : target.effective = .ok target)
    (collects : components.isCollection target = .ok true)
    (rendered : Rendered components (.element guard hint target (.named name)) before after)
    (leads : unit.Leads name last) (record : unit.DeclaresRecord last) : False := by
  unfold Components.isCollection at collects
  split at collects
  next isReference =>
    obtain ⟨path, reference⟩ := Option.isSome_iff_exists.mp isReference
    obtain ⟨found, shape, followed, classified, collection⟩ := collection_found components target stripped collects
    generalize plain : TypeExpr.named name = type at rendered
    cases rendered with
    | elementReference again referred typed =>
        cases plain
        obtain rfl := Except.ok.inj (stripped.symm.trans again)
        obtain ⟨⟨key, t⟩, listed, named, behind⟩ := reference_component components _ name typed
        obtain ⟨final, ending, origin, _, follows⟩ :=
          leads_component components unit complete (key, t) name last leads record listed named
        obtain ⟨less, inner, bare, further⟩ :=
          follow_reference components _ target found _ (key, t) referred behind followed
        obtain ⟨again, _, same, _, object⟩ := record_shape components unit complete last final.2 origin record
        obtain rfl := Except.ok.inj ((follows inner less found bare further).symm.trans same)
        obtain rfl := Except.ok.inj (classified.symm.trans object)
        exact absurd collection Bool.false_ne_true
    | elementScalar again inline | elementEnumeration again inline | elementRecord again inline =>
        obtain rfl := Except.ok.inj (stripped.symm.trans again)
        simp [inline] at reference
    | elementSlice | elementOpenMap | elementMap => cases plain
  next => cases collects

theorem element_origin (guard : Guard Schema) (hint name last : String) (s : Schema) (before after : SourceUnit)
    (rendered : Rendered components (.element guard hint s (.named name)) before after)
    (kept : ∀ d ∈ after.declarations, d ∈ unit.declarations) (leads : unit.Leads name last)
    (record : unit.DeclaresRecord last) :
    ∃ t, Origin components unit last t ∧ Reaches components s t ∧
      (t ∈ components.schemas.map Prod.snd ∨ sizeOf t ≤ sizeOf s) := by
  generalize plain : TypeExpr.named name = type at rendered
  cases rendered with
  | elementReference stripped reference typed =>
      cases plain
      obtain ⟨entry, listed, named, found⟩ := reference_component components _ name typed
      obtain ⟨final, ending, origin, reached, _⟩ :=
        leads_component components unit complete entry name last leads record listed named
      exact ⟨final.2, origin, .head (.reference stripped reference found) reached,
        Or.inl (List.mem_map_of_mem ending)⟩
  | elementScalar => exact (scalar_leads_nowhere components unit complete _ name last plain leads record).elim
  | @elementEnumeration _ _ _ _ target type values constants _ middle _ _ _ _ _ _ declared =>
      cases plain
      obtain ⟨stored, present, same, alike⟩ := SourceUnit.declare_declares _ _ _ declared
      have member := kept stored present
      have enumeration : ∃ types values, stored.shape = .enumeration types values := by
        rcases alike with same | ⟨types, values, _, _, enumeration, _⟩
        · exact ⟨_, _, same⟩
        · exact ⟨types, values, enumeration⟩
      obtain ⟨types, values, enumeration⟩ := enumeration
      obtain rfl := leads_itself unit complete.distinct stored name last member same (by simp [enumeration]) leads
      have kind := record_itself unit complete.distinct stored last member same record
      rw [enumeration] at kind
      exact absurd kind Bool.false_ne_true
  | @elementRecord _ _ _ _ target properties _ middle _ stripped inline classified _ declared =>
      cases plain
      have origin : Origin components unit name target := ⟨_, middle, after, enter_active _ _ _, declared, kept⟩
      obtain ⟨d, member, named⟩ := SourceUnit.leads_declared unit name last leads record
      obtain ⟨_, again, shape, first, final, _, same, shaped, _, alike⟩ :=
        origin_shape components unit name target d complete.distinct origin member named
      obtain rfl := Except.ok.inj ((Schema.effective_idempotent s target stripped).symm.trans same)
      have kind := object_record components _ name target shape properties first final inline classified shaped
      have plain : ∀ next, d.shape ≠ .alias (.named next) := by
        rintro next aliased
        rw [(DeclarationShape.alike_iff _ _ _ alike (by simp)).mp aliased] at kind
        exact absurd kind Bool.false_ne_true
      obtain rfl := leads_itself unit complete.distinct d name last member named plain leads
      exact ⟨target, origin, .single (.strip stripped), Or.inr (Schema.effective_size_le stripped)⟩
  | elementSlice | elementOpenMap | elementMap => cases plain

-- A record that another one holds stands for a schema beyond the one that the
-- other stands for.
theorem holds_beyond (outer inner : String) (s : Schema) (holds : unit.Holds outer inner)
    (origin : Origin components unit outer s) :
    ∃ t, Origin components unit inner t ∧ Beyond components s t ∧
      (t ∈ components.schemas.map Prod.snd ∨ sizeOf t < sizeOf s) := by
  obtain ⟨d, member, named, fields, record, field, listed, name, plain, leads, declared⟩ := holds
  obtain ⟨guard, target, shape, before, middle, active, stripped, shaped, kept, alike⟩ :=
    origin_shape components unit outer s d complete.distinct origin member named
  rw [(DeclarationShape.alike_iff _ _ _ alike (by simp)).mp record] at shaped
  obtain ⟨inline, properties, classified, compiled⟩ :=
    record_object components guard outer target fields before middle shaped
  obtain ⟨entry, belongs, ending, bare, type, collection, first, last, unwrapped, collects, typed, within, rfl⟩ :=
    field_property components guard outer target {} properties fields before middle field compiled listed
  rw [property_field_type] at plain
  obtain ⟨rfl, opening⟩ := field_type_named type collection _ _ name plain
  have inUnit : ∀ d ∈ last.declarations, d ∈ unit.declarations := fun d member => kept d (within d member)
  have bareAgain := Schema.effective_idempotent entry.2 bare unwrapped
  obtain ⟨t, born, reached, arrives⟩ := element_origin components unit complete guard _ name inner bare first last typed
    inUnit leads declared
  have throughProperty : Reaches components entry.2 t := .head (.strip unwrapped) reached
  refine ⟨t, born, ⟨.head (.property stripped inline classified belongs) throughProperty, fun back => ?_⟩, ?_⟩
  · have opened : components.closesCycle guard entry.2 = false := by
      rcases opening with collected | opened
      · subst collected
        exact (collection_holds_none components unit complete guard _ name inner bare first last bareAgain collects typed
          leads declared).elim
      · exact opened
    have closes := (closes_cycle_found_iff components guard entry.2).mpr
      ⟨s, throughProperty.trans back, active, target, stripped⟩
    exact Bool.false_ne_true (opened.symm.trans closes)
  · rcases arrives with component | smaller
    · exact Or.inl component
    · have held : sizeOf properties < sizeOf target := Schema.holds_classify classified
      have part := List.sizeOf_lt_of_mem belongs
      have value : sizeOf entry.2 < sizeOf entry := by
        obtain ⟨wire, property⟩ := entry
        simp only [Prod.mk.sizeOf_spec]
        omega
      have outerSize := Schema.effective_size_le stripped
      have innerSize := Schema.effective_size_le unwrapped
      exact Or.inr (by omega)

theorem holds_no_cycle (name : String) : ¬ Relation.TransGen unit.Holds name name := by
  have cycleFree : ∀ s name, Origin components unit name s → ¬ Relation.TransGen unit.Holds name name := by
    intro s
    refine beyond_ends components (fun s => ∀ name, Origin components unit name s → ¬ Relation.TransGen unit.Holds name name)
      ?_ (components.schemas.map Prod.snd) s (fun t listed _ => listed)
    intro s ih name origin cycle
    obtain ⟨next, holds, back⟩ := Relation.TransGen.head'_iff.mp cycle
    obtain ⟨t, born, beyond, arrives⟩ := holds_beyond components unit complete name next s holds origin
    exact ih t beyond arrives next born (Relation.TransGen.tail' back holds)
  intro cycle
  obtain ⟨next, ⟨d, member, named, fields, record, _⟩, _⟩ := Relation.TransGen.head'_iff.mp cycle
  obtain ⟨s, origin⟩ := complete.record d member (by rw [record]; rfl)
  rw [named] at origin
  exact cycleFree s name origin cycle

end

-- Records that contain one another in a circle would lead beyond themselves for
-- ever, and every step beyond enters a component for the first time or goes into
-- a smaller schema.
theorem types_unit_contains_no_record_in_itself (doc : Document) (options : UnitOptions) (generated : Generated)
    (done : generateTypes doc options = .ok generated) :
    ∃ unit, buildTypes doc options.package = .ok unit ∧
      formatUnit options .types unit.render = .ok generated.source ∧
      ∀ name, ¬ Relation.TransGen unit.Holds name name := by
  obtain ⟨unit, built, formatted⟩ := generate_types_unit doc options generated done
  have complete := build_types_complete doc options.package unit built
  exact ⟨unit, built, formatted, holds_no_cycle doc.componentsOrNone unit complete⟩

-- A folder leads back to itself by an alias, through a nested object and as a
-- value that may be `null`; its owner does not.
def folders : Document :=
  let folder : Schema := { ref := some "#/components/schemas/folder" }
  let text : Schema := { type := some (.single "string") }
  let place : Schema := {
    type := some (.single "object")
    properties := some [("root", { allOf := some [folder] })]
    required := some ["root"] }
  let owner : Schema := { ref := some "#/components/schemas/owner" }
  { components := some { schemas := [
      ("folder", { ref := some "#/components/schemas/tree" }),
      ("owner", { type := some (.single "object"), properties := some [("name", text)], required := some ["name"] }),
      ("tree", {
        type := some (.single "object")
        properties := some [
          ("owner", owner), ("parent", { anyOf := some [folder, { type := some (.single "null") }] }), ("place", place)]
        required := some ["owner", "parent", "place"] })] } }

theorem folders_contain_no_record_in_itself :
    ∃ generated, generateTypes folders { installed := some unchanging } = .ok generated ∧
      ∃ unit, buildTypes folders "models" = .ok unit ∧
        formatUnit { installed := some unchanging } .types unit.render = .ok generated.source ∧
        ∀ name, ¬ Relation.TransGen unit.Holds name name := by
  obtain ⟨unit, built⟩ := ok_exists (buildTypes folders "models") (by decide +kernel)
  have done := generate_types_unchanging folders "models" unit built
  exact ⟨_, done, types_unit_contains_no_record_in_itself folders { installed := some unchanging } _ done⟩

end ApiBindings
