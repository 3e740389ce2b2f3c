import ApiBindings.Proofs.Generation.Format
import ApiBindings.Proofs.Generation.Operations
import ApiBindings.Proofs.Operation.Mention
set_option autoImplicit false

namespace ApiBindings

def TypesScope (unit : SourceUnit) : Scope := fun name =>
  name ∈ builtinTypes ∨ name ∈ importedTypes ∨ unit.Declares name

def OperationsScope (doc : Document) (unit : SourceUnit) : Scope := fun name =>
  name ∈ builtinTypes ∨ name ∈ importedTypes ∨ name ∈ clientTypes ∨ unit.Declares name ∨ name ∈ doc.typeNames

theorem known_declared (components : Components) (unit : SourceUnit) (complete : Complete components unit)
    (name : String) (known : Known components unit name) : TypesScope unit name := by
  rcases known with builtin | imported | ⟨entry, listed, rfl⟩ | declared
  · exact Or.inl builtin
  · exact Or.inr (Or.inl imported)
  · obtain ⟨guard, before, after, _, rendered, kept⟩ := complete.component entry listed
    obtain ⟨stored, member, named⟩ := declaration_declares components guard _ entry.2 before after rendered
    exact Or.inr (Or.inr ⟨stored, kept stored member, named⟩)
  · exact Or.inr (Or.inr declared)

theorem types_unit_within (doc : Document) (package : String) (unit : SourceUnit)
    (built : buildTypes doc package = .ok unit) : unit.Within (TypesScope unit) := by
  have complete := build_types_complete doc package unit built
  refine build_types_keep doc package unit (SourceUnit.Within (TypesScope unit)) built
    (SourceUnit.empty_within _) ?_
  intro name s before after rendered below within
  exact (rendered_within doc.componentsOrNone unit (TypesScope unit)
      (known_declared doc.componentsOrNone unit complete) _ before after rendered within below).1

theorem operations_unit_within (doc : Document) (package : String) (outcomes : List Outcome) (unit : SourceUnit)
    (built : buildOperations doc package = .ok (outcomes, unit)) : unit.Within (OperationsScope doc unit) := by
  have client : ∀ name ∈ clientTypes, OperationsScope doc unit name := fun name member =>
    Or.inr (Or.inr (Or.inl member))
  have known : ∀ name, Known doc.componentsOrNone unit name → OperationsScope doc unit name := by
    rintro name (builtin | imported | ⟨entry, listed, rfl⟩ | declared)
    · exact Or.inl builtin
    · exact Or.inr (Or.inl imported)
    · rw [component_schemas] at listed
      exact Or.inr (Or.inr (Or.inr (Or.inr (List.mem_map_of_mem listed))))
    · exact Or.inr (Or.inr (Or.inr (Or.inl declared)))
  refine operations_keep doc package outcomes unit (SourceUnit.Within (OperationsScope doc unit)) built
    (SourceUnit.empty_within _) ?_
  intro earlier entry _ outcome before after compiled below within
  exact compiled_within doc.componentsOrNone unit _ client known earlier entry before after outcome compiled within below

-- Names of components are known to both units from the start; that the first one
-- declares them is known only when it is complete.
theorem units_mention_known_types (doc : Document) (options : UnitOptions) :
    (∀ generated, generateTypes doc options = .ok generated →
      ∃ unit, buildTypes doc options.package = .ok unit ∧
        formatUnit options .types unit.render = .ok generated.source ∧ unit.Within (TypesScope unit)) ∧
    ∀ generated, generateOperations doc options = .ok generated →
      ∃ outcomes unit, buildOperations doc options.package = .ok (outcomes, unit) ∧
        formatUnit options .operations unit.render = .ok generated.source ∧
        unit.Within (OperationsScope doc unit) := by
  refine ⟨fun generated done => ?_, fun generated done => ?_⟩
  · obtain ⟨unit, built, formatted⟩ := generate_types_unit doc options generated done
    exact ⟨unit, built, formatted, types_unit_within doc options.package unit built⟩
  · obtain ⟨outcomes, unit, built, formatted⟩ := generate_operations_unit doc options generated done
    exact ⟨outcomes, unit, built, formatted, operations_unit_within doc options.package outcomes unit built⟩

def widgets : Document :=
  let text : Schema := { type := some (.single "string") }
  let object (properties : List (String × Schema)) : Schema := {
    type := some (.single "object")
    properties := some properties
    required := some (properties.map Prod.fst) }
  let json (s : Schema) : Content := [("application/json", some s)]
  let list (items : Schema) : Schema := { type := some (.single "array"), items := some items }
  let widget : Schema := { ref := some "#/components/schemas/widget" }
  let kind : Schema := { text with enumValues := some [.text "round", .text "square"] }
  { paths := [
      ("/widgets", { get := some {
        id := some "listWidgets"
        parameters := [.inline { name := "kind", location := "query", schema := some kind }]
        responses := [("200", { content := json (object [("widgets", list (object [("id", text), ("name", text)]))]) })] } }),
      ("/widgets/{id}", { put := some {
        id := some "putWidget"
        parameters := [.inline { name := "id", location := "path", schema := some { text with format := some "uuid" } }]
        requestBody := some { content := json widget }
        responses := [("200", { content := json widget })] } })]
    components := some { schemas := [("widget", object [("made", { text with format := some "date-time" })])] } }

theorem widgets_mention_known_types :
    (∃ generated, generateTypes widgets { installed := some unchanging } = .ok generated ∧
      ∃ unit, buildTypes widgets "models" = .ok unit ∧
        formatUnit { installed := some unchanging } .types unit.render = .ok generated.source ∧
        unit.Within (TypesScope unit)) ∧
    ∃ generated, generateOperations widgets { installed := some unchanging } = .ok generated ∧
      ∃ outcomes unit, buildOperations widgets "models" = .ok (outcomes, unit) ∧
        formatUnit { installed := some unchanging } .operations unit.render = .ok generated.source ∧
        unit.Within (OperationsScope widgets unit) := by
  obtain ⟨unit, types⟩ := ok_exists (buildTypes widgets "models") (by decide +kernel)
  obtain ⟨⟨outcomes, methods⟩, operations⟩ := ok_exists (buildOperations widgets "models") (by decide +kernel)
  have first := generate_types_unchanging widgets "models" unit types
  have second := generate_operations_unchanging widgets "models" outcomes methods operations
  obtain ⟨typesKnown, operationsKnown⟩ := units_mention_known_types widgets { installed := some unchanging }
  exact ⟨⟨_, first, typesKnown _ first⟩, _, second, operationsKnown _ second⟩

end ApiBindings
