import ApiBindings.Proofs.Generation.Components
import ApiBindings.Proofs.Generation.Containment
set_option autoImplicit false

namespace ApiBindings

def DeclarationShape.isCollection : DeclarationShape → Bool
  | .slice _ | .map _ => true
  | _ => false

namespace SourceUnit

structure EndsAt (unit : SourceUnit) (name : String) (d : Declaration) : Prop where
  member : d ∈ unit.declarations
  leads : unit.Leads name d.name
  last : ∀ next, d.shape = .alias (.named next) → ¬ unit.Declares next

theorem leads_onward (unit : SourceUnit) (distinct : unit.Distinct) (d : Declaration) (final : String)
    (member : d ∈ unit.declarations) (leads : unit.Leads d.name final) :
    final = d.name ∨ ∃ next, d.shape = .alias (.named next) ∧ unit.Leads next final := by
  generalize named : d.name = name at leads
  cases leads with
  | here => exact Or.inl rfl
  | @step other next _ present aliased rest =>
      have same := distinct_same unit distinct d other member present named
      exact Or.inr ⟨next, same ▸ aliased, rest⟩

theorem ends_once (unit : SourceUnit) (distinct : unit.Distinct) (name : String) (a b : Declaration)
    (first : unit.EndsAt name a) (second : unit.EndsAt name b) : b = a := by
  obtain ⟨member, leads, last⟩ := first
  have declared : unit.Declares a.name := ⟨a, member, rfl⟩
  have other : unit.Declares b.name := ⟨b, second.member, rfl⟩
  generalize arrived : a.name = final at leads
  induction leads with
  | here name =>
      subst name
      rcases leads_onward unit distinct a b.name member second.leads with same | ⟨next, aliased, rest⟩
      · exact distinct_same unit distinct b a second.member member same
      · exact absurd (leads_declares unit next b.name rest other) (last next aliased)
  | @step d next _ present aliased rest ih =>
      subst arrived
      rcases leads_onward unit distinct d b.name present second.leads with same | ⟨again, also, onward⟩
      · obtain rfl := distinct_same unit distinct b d second.member present same
        exact absurd (leads_declares unit next a.name rest declared) (second.last next aliased)
      · rw [aliased] at also
        cases also
        exact ih ⟨second.member, onward, second.last⟩ rfl

end SourceUnit

section

variable (components : Components) (unit : SourceUnit) (complete : Complete components unit)

include complete

theorem inline_ends (d : Declaration) (target : Schema) (shape : Shape) (member : d ∈ unit.declarations)
    (follows : d.shape.Follows components target) (inline : target.ref = none) (classified : target.classify = .ok shape) :
    unit.EndsAt d.name d ∧ d.shape.isRecord = shape.isObject ∧ d.shape.isCollection = shape.isCollection := by
  unfold DeclarationShape.Follows at follows
  rw [inline] at follows
  obtain ⟨found, again, kind⟩ := follows
  obtain rfl := Except.ok.inj (classified.symm.trans again)
  cases shape with
  | scalar type =>
      refine ⟨⟨member, .here d.name, fun next aliased => ?_⟩, by rw [kind]; rfl, by rw [kind]; rfl⟩
      rw [kind] at aliased
      have scalar := DeclarationShape.alias.inj aliased
      exact scalar_undeclared components unit complete type next scalar.symm
  | enumeration type values =>
      obtain ⟨underlying, constants, same⟩ := kind
      exact ⟨⟨member, .here d.name, by simp [same]⟩, by rw [same]; rfl, by rw [same]; rfl⟩
  | array items =>
      obtain ⟨item, same⟩ := kind
      exact ⟨⟨member, .here d.name, by simp [same]⟩, by rw [same]; rfl, by rw [same]; rfl⟩
  | object properties =>
      obtain ⟨fields, same⟩ := kind
      exact ⟨⟨member, .here d.name, by simp [same]⟩, by rw [same]; rfl, by rw [same]; rfl⟩
  | map value =>
      obtain ⟨item, same⟩ := kind
      exact ⟨⟨member, .here d.name, by simp [same]⟩, by rw [same]; rfl, by rw [same]; rfl⟩

-- By induction on the length of the chain. Components that share a name share
-- the declaration, which is an alias if one of them is a reference.
theorem component_chain (left : Nat) (entry : String × Schema) (target found : Schema)
    (listed : entry ∈ components.schemas) (stripped : entry.2.effective = .ok target)
    (followed : components.follow left target = .ok found) :
    found.ref = none ∧ ∃ last ∈ components.schemas, last.2.effective = .ok found ∧
      ∀ d, unit.EndsAt (Naming.exported last.1) d → unit.EndsAt (Naming.exported entry.1) d := by
  induction left generalizing entry target with
  | zero => simp [Components.follow] at followed
  | succ left ih =>
      cases reference : target.ref with
      | none =>
          obtain rfl := follow_inline components (left + 1) target found reference followed
          exact ⟨reference, entry, listed, stripped, fun d ends => ends⟩
      | some path =>
          obtain ⟨d, member, named, again, bare, follows⟩ := component_follows components unit complete entry listed
          obtain rfl := Except.ok.inj (stripped.symm.trans bare)
          unfold DeclarationShape.Follows at follows
          simp only [reference] at follows
          obtain ⟨next, typed, aliased⟩ := follows
          obtain ⟨behind, present, rfl, located⟩ := reference_component components path next typed
          obtain ⟨less, other, inner, shorter, found, onward, rest⟩ :=
            follow_step components _ target _ path reference followed
          obtain rfl := Option.some.inj (located.symm.trans found)
          obtain rfl := Nat.succ.inj shorter
          obtain ⟨inline, last, final, bare, ended⟩ := ih behind inner present onward rest
          refine ⟨inline, last, final, bare, fun e ends => ?_⟩
          obtain ⟨inside, leads, stop⟩ := ended e ends
          exact named ▸ ⟨inside, .step member aliased leads, stop⟩

theorem component_ends (left : Nat) (entry : String × Schema) (target found : Schema) (shape : Shape)
    (listed : entry ∈ components.schemas) (stripped : entry.2.effective = .ok target)
    (followed : components.follow left target = .ok found) (classified : found.classify = .ok shape) :
    ∃ d, unit.EndsAt (Naming.exported entry.1) d ∧ d.shape.isRecord = shape.isObject ∧
      d.shape.isCollection = shape.isCollection := by
  obtain ⟨inline, last, final, bare, ended⟩ :=
    component_chain components unit complete left entry target found listed stripped followed
  obtain ⟨d, member, named, again, kept, follows⟩ := component_follows components unit complete last final
  obtain rfl := Except.ok.inj (bare.symm.trans kept)
  obtain ⟨ends, kinds⟩ := inline_ends components unit complete d found shape member follows inline classified
  exact ⟨d, ended d (named ▸ ends), kinds⟩

end

theorem references_end_as_foretold (doc : Document) (options : UnitOptions) (generated : Generated)
    (done : generateTypes doc options = .ok generated) :
    ∃ unit, buildTypes doc options.package = .ok unit ∧
      formatUnit options .types unit.render = .ok generated.source ∧
      ∀ s target path shape, s.effective = .ok target → target.ref = some path →
        doc.componentsOrNone.targetShape s = .ok shape →
        ∃ name d, doc.componentsOrNone.typeName path = .ok name ∧ unit.EndsAt name d ∧
          (∀ other, unit.EndsAt name other → other = d) ∧
          doc.componentsOrNone.isObjectRef s = .ok d.shape.isRecord ∧
          doc.componentsOrNone.isCollectionRef s = .ok d.shape.isCollection := by
  obtain ⟨unit, built, formatted⟩ := generate_types_unit doc options generated done
  have complete := build_types_complete doc options.package unit built
  refine ⟨unit, built, formatted, fun s target path shape stripped reference foretold => ?_⟩
  obtain ⟨found, followed, classified⟩ := target_shape_found _ s target shape stripped foretold
  have object : doc.componentsOrNone.isObjectRef s = .ok shape.isObject := by
    rw [Components.isObjectRef, foretold]
    rfl
  have collection : doc.componentsOrNone.isCollectionRef s = .ok shape.isCollection := by
    rw [Components.isCollectionRef, foretold]
    rfl
  obtain ⟨less, behind, next, _, located, bare, onward⟩ := follow_step _ _ target found path reference followed
  have typed : doc.componentsOrNone.typeName path = .ok (Naming.exported behind.1) := by
    simp only [Components.typeName, located]
  obtain ⟨entry, listed, named, again⟩ := reference_component _ path _ typed
  obtain rfl := Option.some.inj (located.symm.trans again)
  obtain ⟨d, ends, record, collects⟩ :=
    component_ends _ unit complete less behind next found shape listed bare onward classified
  refine ⟨_, d, typed, ends, fun other also => SourceUnit.ends_once unit complete.distinct _ d other ends also, ?_, ?_⟩
  · rw [object, record]
  · rw [collection, collects]

def shelves : Document :=
  let text : Schema := { type := some (.single "string") }
  let reference (name : String) : Schema := { ref := some ("#/components/schemas/" ++ name) }
  { components := some { schemas := [
      ("Volume", reference "book"),
      ("book", { type := some (.single "object"), properties := some [("title", text)] }),
      ("loan", { anyOf := some [reference "volume", { type := some (.single "null") }] }),
      ("row", reference "shelf"),
      ("shelf", { type := some (.single "array"), items := some (reference "loan") }),
      ("volume", { allOf := some [reference "book"] })] } }

theorem shelves_end_as_foretold :
    ∃ generated, generateTypes shelves { installed := some unchanging } = .ok generated ∧
      ∃ unit, buildTypes shelves "models" = .ok unit ∧
        formatUnit { installed := some unchanging } .types unit.render = .ok generated.source ∧
        (∃ d, unit.EndsAt "Loan" d ∧ (∀ other, unit.EndsAt "Loan" other → other = d) ∧ d.shape.isRecord = true) ∧
        ∃ d, unit.EndsAt "Row" d ∧ (∀ other, unit.EndsAt "Row" other → other = d) ∧ d.shape.isCollection = true := by
  obtain ⟨built, made⟩ := ok_exists (buildTypes shelves "models") (by decide +kernel)
  have done := generate_types_unchanging shelves "models" built made
  obtain ⟨unit, same, formatted, foretold⟩ := references_end_as_foretold shelves { installed := some unchanging } _ done
  refine ⟨_, done, unit, same, formatted, ?_, ?_⟩
  · let loan : Schema := { ref := some "#/components/schemas/loan" }
    obtain ⟨shape, shaped⟩ := ok_exists (shelves.componentsOrNone.targetShape loan) (by decide +kernel)
    have named : shelves.componentsOrNone.typeName "#/components/schemas/loan" = .ok "Loan" := by decide +kernel
    have record : shelves.componentsOrNone.isObjectRef loan = .ok true := by decide +kernel
    obtain ⟨name, d, typed, ends, only, object, _⟩ :=
      foretold loan loan _ shape (Schema.bare_effective loan ⟨rfl, rfl, rfl⟩) rfl shaped
    obtain rfl := Except.ok.inj (named.symm.trans typed)
    exact ⟨d, ends, only, Except.ok.inj (object.symm.trans record)⟩
  · let row : Schema := { ref := some "#/components/schemas/row" }
    obtain ⟨shape, shaped⟩ := ok_exists (shelves.componentsOrNone.targetShape row) (by decide +kernel)
    have named : shelves.componentsOrNone.typeName "#/components/schemas/row" = .ok "Row" := by decide +kernel
    have collects : shelves.componentsOrNone.isCollectionRef row = .ok true := by decide +kernel
    obtain ⟨name, d, typed, ends, only, _, collection⟩ :=
      foretold row row _ shape (Schema.bare_effective row ⟨rfl, rfl, rfl⟩) rfl shaped
    obtain rfl := Except.ok.inj (named.symm.trans typed)
    exact ⟨d, ends, only, Except.ok.inj (collection.symm.trans collects)⟩

end ApiBindings
