import ApiBindings.Proofs.Data.Dictionary
import ApiBindings.Proofs.Naming.Unique
import ApiBindings.Proofs.Rendering.Equations
import ApiBindings.Proofs.Rendering.Names
import ApiBindings.Proofs.Shape.Reference
set_option autoImplicit false

namespace ApiBindings

def Components.RefersToCollection (components : Components) (s : Schema) : Prop :=
  ∃ target path shape, s.effective = .ok target ∧ target.ref = some path ∧ components.Targets s shape ∧
    shape.isCollection = true

def Components.NamedAfter (components : Components) (s : Schema) (type : TypeExpr) : Prop :=
  ∃ target path name, s.effective = .ok target ∧ target.ref = some path ∧ components.typeName path = .ok name ∧
    type = .named name

structure ElementTyped (components : Components) (target : Schema) (type : TypeExpr) : Prop where
  plain : ∀ inner, type ≠ .pointer inner
  reference : ∀ path, target.ref = some path → ∃ name, components.typeName path = .ok name ∧ type = .named name

structure FieldFits (components : Components) (guard : Guard Schema) (object : Schema) (entry : String × Schema)
    (field : Field) : Prop where
  exported : Naming.Word field.name ∧ Naming.Capital field.name
  required : field.required = object.requires entry.1
  tag : ∃ rules, field.tag = some { wire := entry.1, omitEmpty := !object.requires entry.1, rules }
  optional : object.requires entry.1 = false → field.type.isNilable = true ∨
    components.RefersToCollection entry.2 ∧ components.NamedAfter entry.2 field.type
  pointer : ∀ inner, field.type = .pointer inner → (∃ name, inner = .named name) ∧
    ¬ components.RefersToCollection entry.2 ∧
    (object.requires entry.1 = true → components.closesCycle guard entry.2 = true)
  value : ∀ name, field.type = .named name → components.RefersToCollection entry.2 ∨
    object.requires entry.1 = true ∧ components.closesCycle guard entry.2 = false

def Field.wire (field : Field) : Option String := field.tag.map FieldTag.wire

def Field.Before (a b : Field) : Prop := ∃ first last, a.wire = some first ∧ b.wire = some last ∧ first < last

section

variable (components : Components)

theorem scalar_plain (type : ScalarType) (inner : TypeExpr) : .ofScalar type ≠ TypeExpr.pointer inner := by
  intro same
  cases type <;> cases same

-- Of a type that is made for whatever guard, only the outermost part counts.
theorem element_type_typed (guard : Guard Schema) (hint : String) (s target : Schema) (type : TypeExpr)
    (before after : SourceUnit) (stripped : s.effective = .ok target)
    (done : (elementType components guard hint s).result before = (.ok type, after)) :
    ElementTyped components target type := by
  rw [element_type_eq, stripped] at done
  dsimp only [elementOf] at done
  split at done
  next path reference =>
    obtain ⟨name, checked, rfl⟩ := Build.map_ok _ _ _ _ _ done
    obtain ⟨named, _⟩ := Build.check_ok _ _ _ _ _ checked
    refine ⟨fun inner same => (by cases same), fun other referred => ⟨name, ?_, rfl⟩⟩
    rwa [Option.some.inj (referred.symm.trans reference)]
  next inline =>
    suffices plain : ∀ inner, type ≠ .pointer inner from ⟨plain, fun path reference => by simp [inline] at reference⟩
    intro inner
    split at done
    next => exact (Build.throw_ok _ _ _ _ done).elim
    next scalar _ =>
      obtain ⟨rfl, _⟩ := Build.pure_ok _ _ _ _ done
      exact scalar_plain scalar inner
    next =>
      obtain ⟨_, _, _, done⟩ := Build.bind_ok _ _ _ _ _ done
      obtain ⟨_, _, _, done⟩ := Build.bind_ok _ _ _ _ _ done
      obtain ⟨rfl, _⟩ := Build.pure_ok _ _ _ _ done
      simp
    next =>
      obtain ⟨_, _, rfl⟩ := Build.map_ok _ _ _ _ _ done
      simp
    next =>
      obtain ⟨rfl, _⟩ := Build.pure_ok _ _ _ _ done
      simp
    next =>
      obtain ⟨_, _, rfl⟩ := Build.map_ok _ _ _ _ _ done
      simp
    next =>
      split at done
      next =>
        obtain ⟨rfl, _⟩ := Build.pure_ok _ _ _ _ done
        simp
      next =>
        obtain ⟨_, _, _, done⟩ := Build.bind_ok _ _ _ _ _ done
        obtain ⟨_, _, _, done⟩ := Build.bind_ok _ _ _ _ _ done
        obtain ⟨rfl, _⟩ := Build.pure_ok _ _ _ _ done
        simp

theorem is_collection_iff (s target : Schema) (collection : Bool) (stripped : s.effective = .ok target)
    (collects : components.isCollection target = .ok collection) :
    collection = true ↔ components.RefersToCollection s := by
  unfold Components.isCollection at collects
  cases reference : target.ref with
  | none =>
      simp only [reference, Option.isSome_none, Bool.false_eq_true, if_false, Except.ok.injEq] at collects
      subst collection
      refine ⟨fun impossible => (by cases impossible), ?_⟩
      rintro ⟨other, path, _, again, referred, _⟩
      obtain rfl := Except.ok.inj (stripped.symm.trans again)
      cases reference.symm.trans referred
  | some path =>
      simp only [reference, Option.isSome_some, if_true, Components.isCollectionRef] at collects
      cases shaped : components.targetShape target with
      | error defect => simp [shaped, Except.map] at collects
      | ok shape =>
          simp only [shaped, Except.map, Except.ok.injEq] at collects
          obtain ⟨found, followed, classified⟩ := target_shape_found components target target shape
            (Schema.effective_idempotent s target stripped) shaped
          have targets : components.Targets s shape :=
            ⟨found, follow_reaches components _ s target found stripped followed, classified⟩
          refine ⟨fun holds => ⟨target, path, shape, stripped, reference, targets, collects.trans holds⟩, ?_⟩
          rintro ⟨_, _, other, _, _, again, kind⟩
          rw [← collects, targets_unique components s shape other targets again, kind]

-- What has no empty value of its own is a name. It is the only type that becomes a pointer.
theorem field_type_cases (type : TypeExpr) (collection required : Bool) (closesCycle : Unit → Bool) :
    fieldType type collection required closesCycle = type ∧ (collection = true ∨ type.isNilable = true) ∨
      collection = false ∧ ∃ name, type = .named name ∧
        (fieldType type collection required closesCycle = .pointer (.named name) ∧
            (required = true → closesCycle () = true) ∨
          fieldType type collection required closesCycle = .named name ∧ required = true ∧ closesCycle () = false) := by
  unfold fieldType
  split
  next held => exact Or.inl ⟨rfl, Bool.or_eq_true_iff.mp held⟩
  next bare =>
    rw [Bool.not_eq_true, Bool.or_eq_false_iff] at bare
    obtain ⟨single, filled⟩ := bare
    refine Or.inr ⟨single, ?_⟩
    cases type with
    | pointer | slice | map | any => cases filled
    | named name =>
        refine ⟨name, rfl, ?_⟩
        split
        next met => exact Or.inl ⟨rfl, fun needed => by simpa [needed] using met⟩
        next unmet => exact Or.inr ⟨rfl, by simpa using unmet⟩

theorem element_named_after (s target : Schema) (type : TypeExpr) (stripped : s.effective = .ok target)
    (typed : ElementTyped components target type) (refers : components.RefersToCollection s) :
    components.NamedAfter s type := by
  obtain ⟨other, path, _, again, reference, _⟩ := refers
  obtain rfl := Except.ok.inj (stripped.symm.trans again)
  obtain ⟨name, known, same⟩ := typed.reference path reference
  exact ⟨target, path, name, stripped, reference, known, same⟩

theorem property_field_fits (guard : Guard Schema) (object target : Schema) (entry : String × Schema) (name : String)
    (type : TypeExpr) (collection : Bool) (word : Naming.Word name) (capital : Naming.Capital name)
    (stripped : entry.2.effective = .ok target) (collects : components.isCollection target = .ok collection)
    (typed : ElementTyped components target type) :
    FieldFits components guard object entry
      (propertyField components guard object name entry.1 entry.2 type collection) := by
  have collected := is_collection_iff components entry.2 target collection stripped collects
  have made := property_field_type components guard object name entry.1 entry.2 type collection
  rcases field_type_cases type collection (object.requires entry.1) fun _ => components.closesCycle guard entry.2 with
    ⟨kept, held⟩ | ⟨single, referred, rfl, ⟨pointed, needed⟩ | ⟨kept, required, open_⟩⟩
  · rw [kept] at made
    refine ⟨⟨word, capital⟩, rfl, ⟨_, rfl⟩, fun _ => ?_, fun inner pointed => ?_, fun referred same => ?_⟩
    · rw [made]
      rcases held with refers | nilable
      · exact Or.inr ⟨collected.mp refers, element_named_after components entry.2 target type stripped typed
          (collected.mp refers)⟩
      · exact Or.inl nilable
    · exact absurd (made.symm.trans pointed) (typed.plain inner)
    · rw [made] at same
      rw [same] at held
      exact Or.inl (collected.mp (held.resolve_right Bool.false_ne_true))
  · rw [pointed] at made
    refine ⟨⟨word, capital⟩, rfl, ⟨_, rfl⟩, fun _ => Or.inl (made ▸ rfl), fun inner same => ?_, fun other same => ?_⟩
    · obtain rfl := TypeExpr.pointer.inj (made.symm.trans same)
      refine ⟨⟨referred, rfl⟩, fun refers => ?_, needed⟩
      exact Bool.false_ne_true (single.symm.trans (collected.mpr refers))
    · cases made.symm.trans same
  · rw [kept] at made
    refine ⟨⟨word, capital⟩, rfl, ⟨_, rfl⟩, fun missing => ?_, fun inner same => ?_, fun other same => ?_⟩
    · cases missing.symm.trans required
    · cases made.symm.trans same
    · exact Or.inr ⟨required, open_⟩

theorem field_name_exported (names others : Names) (wire name : String)
    (claimed : names.claim (Naming.exported wire) = (name, others)) : Naming.Word name ∧ Naming.Capital name := by
  refine ⟨field_name_word names others wire name claimed, ?_⟩
  obtain ⟨number, chars, extended⟩ := Names.claim_extends names (Naming.exported wire)
  obtain rfl : name = Naming.exported wire ++ number := by rw [← extended, claimed]
  exact Naming.capital_append _ _ chars (Naming.exported_capital wire)

theorem fields_fit (guard : Guard Schema) (parent : String) (object : Schema) (names : Names)
    (properties : List (String × Schema)) (fields : List Field) (before after : SourceUnit)
    (done : (declareFields components guard parent object names properties).result before = (.ok fields, after)) :
    List.Forall₂ (FieldFits components guard object) properties fields ∧ (fields.map Field.name).Nodup ∧
      ∀ field ∈ fields, field.name ∉ names.taken := by
  induction properties generalizing names fields before with
  | nil =>
      rw [declare_fields_nil] at done
      obtain ⟨rfl, _⟩ := Build.pure_ok _ _ _ _ done
      exact ⟨.nil, List.nodup_nil, List.forall_mem_nil _⟩
  | cons entry rest ih =>
      obtain ⟨wire, property⟩ := entry
      rw [declare_fields_eq] at done
      split at done
      next => exact (Build.throw_ok _ _ _ _ done).elim
      next =>
        dsimp only at done
        split at done
        next => exact (Build.throw_ok _ _ _ _ done).elim
        next target stripped =>
          obtain ⟨collection, _, checked, done⟩ := Build.bind_ok _ _ _ _ _ done
          obtain ⟨collects, _⟩ := Build.check_ok _ _ _ _ _ checked
          obtain ⟨type, _, typed, done⟩ := Build.bind_ok _ _ _ _ _ done
          obtain ⟨others, _, later, done⟩ := Build.bind_ok _ _ _ _ _ done
          obtain ⟨rfl, rfl⟩ := Build.pure_ok _ _ _ _ done
          obtain ⟨fits, distinct, free⟩ := ih _ others _ later
          obtain ⟨word, capital⟩ := field_name_exported names _ wire _ rfl
          have own := element_type_typed components guard _ target target type _ _
            (Schema.effective_idempotent property target stripped) typed
          refine ⟨.cons (property_field_fits components guard object target (wire, property) _ type collection word
            capital stripped collects own) fits, List.nodup_cons.mpr ⟨fun repeated => ?_, distinct⟩, fun field member => ?_⟩
          · obtain ⟨field, member, same⟩ := List.mem_map.mp repeated
            exact free field member ((Names.claim_mem names _ _).mpr (Or.inl same))
          · rcases List.mem_cons.mp member with rfl | other
            · exact Names.claim_absent names _
            · exact fun taken => free field other ((Names.claim_mem names _ _).mpr (Or.inr taken))

theorem fields_fit_wires (guard : Guard Schema) (object : Schema) (properties : List (String × Schema))
    (fields : List Field) (fits : List.Forall₂ (FieldFits components guard object) properties fields) :
    fields.map Field.wire = properties.map fun entry => some entry.1 := by
  induction fits with
  | nil => rfl
  | cons own _ ih =>
      obtain ⟨rules, tagged⟩ := own.tag
      rw [List.map_cons, List.map_cons, ih, Field.wire, tagged]
      rfl

theorem fields_fit_properties (guard : Guard Schema) (parent : String) (object : Schema)
    (properties : List (String × Schema)) (fields : List Field) (before after : SourceUnit)
    (done : (declareFields components guard parent object {} properties).result before = (.ok fields, after)) :
    List.Forall₂ (FieldFits components guard object) properties fields ∧
      fields.map Field.wire = properties.map (fun entry => some entry.1) ∧
      (Data.Ordered properties → fields.Pairwise Field.Before) ∧ (fields.map Field.name).Nodup := by
  obtain ⟨fits, distinct, _⟩ := fields_fit components guard parent object {} properties fields before after done
  have wires := fields_fit_wires components guard object properties fields fits
  refine ⟨fits, wires, fun ordered => ?_, distinct⟩
  have related : (fields.map Field.wire).Pairwise fun a b => ∃ first last, a = some first ∧ b = some last ∧ first < last := by
    rw [wires, List.pairwise_map]
    exact ordered.imp fun less => ⟨_, _, rfl, rfl, less⟩
  have before := List.pairwise_map.mp related
  exact before

end

def branch : Schema := {
  type := some (.single "object")
  required := some ["tree"]
  properties := some [
    ("leaf-s", { ref := some "#/components/schemas/Leaves" }), ("leaf_s", { type := some (.single "string") }),
    ("tree", { allOf := some [{ ref := some "#/components/schemas/Tree" }] })] }

def forest : Components := {
  schemas := [
    ("Leaves", { type := some (.single "array"), items := some { type := some (.single "string") } }), ("Tree", branch)] }

theorem branch_fields_fit :
    let properties := branch.properties.getD []
    let guard : Guard Schema := Guard.enter {} branch "Tree"
    let unit : SourceUnit := { package := "models" }
    ∃ fields after, (declareFields forest guard "Tree" branch {} properties).result unit = (.ok fields, after) ∧
      fields.map (fun field => (field.name, field.type)) =
        [("LeafS", .named "Leaves"), ("LeafS2", .pointer (.named "string")), ("Tree", .pointer (.named "Tree"))] ∧
      List.Forall₂ (FieldFits forest guard branch) properties fields ∧
      fields.map Field.wire = properties.map (fun entry => some entry.1) ∧
      (Data.Ordered properties → fields.Pairwise Field.Before) ∧ (fields.map Field.name).Nodup := by
  intro properties guard unit
  obtain ⟨fields, done, types⟩ := ok_holds
    ((declareFields forest guard "Tree" branch {} properties).result unit).1
    (fun fields => fields.map (fun field => (field.name, field.type)) =
      [("LeafS", .named "Leaves"), ("LeafS2", .pointer (.named "string")), ("Tree", .pointer (.named "Tree"))])
    (by decide +kernel)
  exact ⟨fields, _, Prod.ext done rfl, of_decide_eq_true types,
    fields_fit_properties forest guard "Tree" branch properties fields unit _ (Prod.ext done rfl)⟩

end ApiBindings
