import ApiBindings.Proofs.Generation.Format
import ApiBindings.Proofs.Generation.Operations
import ApiBindings.Proofs.Generation.Types
import ApiBindings.Proofs.Operation.Finder
import ApiBindings.Proofs.Rendering.Package
set_option autoImplicit false

namespace ApiBindings

theorem reserve_all_in_package (names : List String) (unit : SourceUnit) (package : String) :
    names.foldl SourceUnit.reserve (unit.inPackage package) = (names.foldl SourceUnit.reserve unit).inPackage package := by
  induction names generalizing unit with
  | nil => rfl
  | cons name rest ih => exact ih (unit.reserve name)

-- The scratch unit differs from the unit of component types in its package only,
-- and none of the steps that succeed looks at the package.
theorem components_in_package (doc : Document) (entries : List (String × Schema)) (before after : SourceUnit)
    (results : List Unit) (package : String) (steps : Steps (renderComponent doc) entries before results after) :
    entries.foldl (fun unit component => ((renderComponent doc component).result unit).2) (before.inPackage package) =
      after.inPackage package := by
  induction steps with
  | none => rfl
  | @next entry rest a results before middle after ran _ ih =>
      have uniform := render_uniform doc.componentsOrNone (Naming.exported entry.1) entry.2 before package
      have step : (renderComponent doc entry).result (before.inPackage package) = (.ok a, middle.inPackage package) := by
        rw [renderComponent, uniform, ← renderComponent, ran]
      rw [List.foldl_cons, step]
      exact ih

theorem types_unit_names (doc : Document) (package : String) (unit : SourceUnit)
    (built : buildTypes doc package = .ok unit) : typesUnitNames doc = unit.names.taken := by
  obtain ⟨results, steps⟩ := build_types_steps doc package unit built
  have start : reserveComponents doc { package := "scratch" } =
      (reserveComponents doc { package }).inPackage "scratch" :=
    reserve_all_in_package doc.typeNames { package } "scratch"
  unfold typesUnitNames
  rw [start, components_in_package doc doc.schemas _ unit results "scratch" steps]
  rfl

theorem types_unit_taken (doc : Document) (package : String) (unit : SourceUnit)
    (built : buildTypes doc package = .ok unit) (name : String) (declared : unit.Declares name) :
    name ∈ unit.names.taken := by
  obtain ⟨results, steps⟩ := build_types_steps doc package unit built
  have grows := components_grow doc doc.schemas _ unit results steps
  obtain ⟨d, member, rfl⟩ := declared
  rcases grows.fresh d member with old | named | ⟨_, taken⟩
  · rw [reserveComponents, (reserve_all_declarations doc.typeNames { package }).1] at old
    exact absurd old List.not_mem_nil
  · exact grows.taken d.name (reserve_all_taken doc.typeNames { package } d.name named)
  · exact taken

theorem operations_start_taken (doc : Document) (first second : String) (types : SourceUnit)
    (built : buildTypes doc first = .ok types) (name : String) (declared : types.Declares name) :
    name ∈ (operationsStart doc second).names.taken := by
  have foreseen : name ∈ typesUnitNames doc := by
    rw [types_unit_names doc first types built]
    exact types_unit_taken doc first types built name declared
  exact reserve_all_taken (typesUnitNames doc) { package := second } name foreseen

theorem operations_start_balanced (doc : Document) (package : String)
    (taken : notFoundName ∈ (operationsStart doc package).names.taken) : (operationsStart doc package).Balanced := by
  obtain ⟨noDeclarations, noFunctions⟩ := reserve_all_declarations (typesUnitNames doc) { package }
  refine ⟨taken, fun declared => ?_, fun finds => ?_⟩
  · obtain ⟨d, member, _⟩ := declared
    rw [operationsStart, noDeclarations] at member
    exact absurd member List.not_mem_nil
  · obtain ⟨f, member, _⟩ := finds
    rw [operationsStart, noFunctions] at member
    exact absurd member List.not_mem_nil

theorem operations_unit_balanced (doc : Document) (package : String) (outcomes : List Outcome) (unit : SourceUnit)
    (built : buildOperations doc package = .ok (outcomes, unit))
    (taken : notFoundName ∈ (operationsStart doc package).names.taken) : unit.Balanced := by
  refine steps_keep _ _ _ _ _ _ SourceUnit.Balanced (build_operations_steps doc package outcomes unit built)
    (operation_grows doc (compileEntries doc)) ?_ (operations_start_balanced doc package taken)
  intro entry _ outcome before after ran _ balanced
  have compiled := compile_operation_compiled doc.componentsOrNone entry.1 entry.2 before after outcome ran
  exact compiled_balanced doc.componentsOrNone entry.1 entry.2 before after outcome compiled balanced

theorem operations_unit_taken (doc : Document) (package : String) (outcomes : List Outcome) (unit : SourceUnit)
    (built : buildOperations doc package = .ok (outcomes, unit)) (name : String)
    (taken : name ∈ (operationsStart doc package).names.taken) (declared : unit.Declares name) : name = notFoundName := by
  obtain ⟨d, member, rfl⟩ := declared
  rcases (build_operations_grow doc package outcomes unit built).fresh d member with old | named | ⟨free, _⟩
  · rw [operationsStart, (reserve_all_declarations (typesUnitNames doc) { package }).1] at old
    exact absurd old List.not_mem_nil
  · exact List.mem_singleton.mp named
  · exact absurd taken free

-- All names of the unit of client methods are claimed beside those of the other
-- unit, but the error of a look-up is declared without a claim.
theorem units_share_not_found_only (doc : Document) (first second : UnitOptions) (types operations : Generated)
    (typesDone : generateTypes doc first = .ok types) (operationsDone : generateOperations doc second = .ok operations) :
    ∃ a outcomes b,
      buildTypes doc first.package = .ok a ∧ formatUnit first .types a.render = .ok types.source ∧
      buildOperations doc second.package = .ok (outcomes, b) ∧
      formatUnit second .operations b.render = .ok operations.source ∧
      ∀ name, (a.Declares name ∧ b.Declares name) ↔ (name = notFoundName ∧ a.Declares notFoundName ∧ b.Finds) := by
  obtain ⟨a, builtTypes, typesText⟩ := generate_types_unit doc first types typesDone
  obtain ⟨outcomes, b, builtOperations, operationsText⟩ := generate_operations_unit doc second operations operationsDone
  have reserved := operations_start_taken doc first.package second.package a builtTypes
  refine ⟨a, outcomes, b, builtTypes, typesText, builtOperations, operationsText, fun name => ⟨?_, ?_⟩⟩
  · rintro ⟨inTypes, inOperations⟩
    have taken := reserved name inTypes
    obtain rfl := operations_unit_taken doc second.package outcomes b builtOperations name taken inOperations
    have balanced := operations_unit_balanced doc second.package outcomes b builtOperations taken
    exact ⟨rfl, inTypes, balanced.declared.mp inOperations⟩
  · rintro ⟨rfl, inTypes, finds⟩
    have balanced := operations_unit_balanced doc second.package outcomes b builtOperations (reserved _ inTypes)
    exact ⟨inTypes, balanced.declared.mpr finds⟩

def misplaced : Document :=
  let text : Schema := { type := some (.single "string") }
  let object (properties : List (String × Schema)) : Schema :=
    { type := some (.single "object"), properties := some properties }
  let widgets : Schema := { type := some (.single "array"), items := some (object [("id", text), ("name", text)]) }
  { paths := [("/widgets", { get := some {
      id := some "listWidgets"
      responses := [("200", { content := [("application/json", some (object [("widgets", widgets)]))] })] } })]
    components := some { schemas := [("NotFoundError", object [("message", text)])] } }

theorem misplaced_units_share_a_name :
    ∃ types operations a outcomes b,
      generateTypes misplaced { installed := some unchanging } = .ok types ∧
      generateOperations misplaced { installed := some unchanging } = .ok operations ∧
      buildTypes misplaced "models" = .ok a ∧ buildOperations misplaced "models" = .ok (outcomes, b) ∧
      a.Declares "NotFoundError" ∧ b.Declares "NotFoundError" := by
  obtain ⟨a, types, inTypes⟩ := ok_holds (buildTypes misplaced "models")
    (fun unit => (unit.find? "NotFoundError").isSome) (by decide +kernel)
  obtain ⟨⟨outcomes, b⟩, operations, inOperations⟩ := ok_holds (buildOperations misplaced "models")
    (fun built => (built.2.find? "NotFoundError").isSome) (by decide +kernel)
  exact ⟨_, _, a, outcomes, b, generate_types_unchanging misplaced "models" a types,
    generate_operations_unchanging misplaced "models" outcomes b operations, types, operations,
    SourceUnit.find_declares a "NotFoundError" inTypes, SourceUnit.find_declares b "NotFoundError" inOperations⟩

theorem misplaced_share_not_found_only :
    ∃ types operations, generateTypes misplaced { installed := some unchanging } = .ok types ∧
      generateOperations misplaced { installed := some unchanging } = .ok operations ∧
      ∃ a outcomes b,
        buildTypes misplaced "models" = .ok a ∧
        formatUnit { installed := some unchanging } .types a.render = .ok types.source ∧
        buildOperations misplaced "models" = .ok (outcomes, b) ∧
        formatUnit { installed := some unchanging } .operations b.render = .ok operations.source ∧
        ∀ name, (a.Declares name ∧ b.Declares name) ↔ (name = notFoundName ∧ a.Declares notFoundName ∧ b.Finds) := by
  obtain ⟨unit, types⟩ := ok_exists (buildTypes misplaced "models") (by decide +kernel)
  obtain ⟨⟨outcomes, methods⟩, operations⟩ := ok_exists (buildOperations misplaced "models") (by decide +kernel)
  have first := generate_types_unchanging misplaced "models" unit types
  have second := generate_operations_unchanging misplaced "models" outcomes methods operations
  have shared := units_share_not_found_only misplaced { installed := some unchanging } { installed := some unchanging }
    _ _ first second
  exact ⟨_, _, first, second, shared⟩

end ApiBindings
