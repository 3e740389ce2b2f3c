import ApiBindings.Command.Basic
import ApiBindings.Proofs.Generation.Mention
import ApiBindings.Proofs.Operation.Blame
import ApiBindings.Proofs.Operation.Spelled
import ApiBindings.Proofs.Unit.Printed
set_option autoImplicit false

namespace ApiBindings

theorem package_name_word (name : String) (accepted : Command.isPackageName name = true) : Naming.Word name := by
  have letter (c : Char) (lower : c.isLower = true) : Naming.isWordChar c = true := by
    refine Naming.alphanumeric_word_char c ?_
    change ((c.isUpper || c.isLower) || c.isDigit) = true
    simp [lower]
  unfold Command.isPackageName at accepted
  split at accepted
  next => cases accepted
  next first rest chars =>
    simp only [Bool.and_eq_true, Bool.or_eq_true, decide_eq_true_eq, List.all_eq_true] at accepted
    obtain ⟨begins, others⟩ := accepted
    refine ⟨fun empty => ?_, fun c member => ?_⟩
    · rw [empty] at chars
      cases chars
    · rw [chars] at member
      rcases List.mem_cons.mp member with rfl | later
      · rcases begins with lower | rfl
        · exact letter c lower
        · decide
      · rcases others c later with (lower | digit) | rfl
        · exact letter c lower
        · exact Naming.digit_word_char c digit
        · decide

theorem fixed_type_names : (∀ name ∈ builtinTypes, TypeName name) ∧ (∀ name ∈ importedTypes, TypeName name) ∧
    ∀ name ∈ clientTypes, TypeName name := by
  have each : ∀ name ∈ builtinTypes ++ importedTypes ++ clientTypes, TypeName name := by decide
  exact ⟨fun name member => each name (by simp [member]), fun name member => each name (by simp [member]),
    fun name member => each name (by simp [member])⟩

theorem types_unit_spelled (doc : Document) (package : String) (named : Naming.Word package) (unit : SourceUnit)
    (built : buildTypes doc package = .ok unit) : unit.Spelled := by
  obtain ⟨builtin, imported, _⟩ := fixed_type_names
  have declarations : ∀ d ∈ unit.declarations, d.Spelled :=
    build_types_adds doc package unit Declaration.Spelled built fun name _ before after rendered =>
      rendered_spelled _ _ before after rendered (Naming.exported_word name)
  refine ⟨?_, declarations, ?_, ?_⟩
  · obtain ⟨results, steps⟩ := build_types_steps doc package unit built
    have grows := components_grow doc doc.schemas _ unit results steps
    exact ((reserve_all_grows doc.typeNames { package } _).trans grows).package ▸ named
  · rw [types_unit_functions doc package unit built]
    exact List.forall_mem_nil _
  · refine SourceUnit.within_wider _ _ unit (types_unit_within doc package unit built) fun name known => ?_
    rcases known with known | known | ⟨d, member, rfl⟩
    · exact builtin name known
    · exact imported name known
    · exact word_type_name _ (declarations d member).name

theorem operations_unit_spelled (doc : Document) (package : String) (named : Naming.Word package)
    (outcomes : List Outcome) (unit : SourceUnit) (built : buildOperations doc package = .ok (outcomes, unit)) :
    unit.Spelled := by
  obtain ⟨builtin, imported, client⟩ := fixed_type_names
  obtain ⟨declarations, functions⟩ : (∀ d ∈ unit.declarations, d.Spelled) ∧ ∀ f ∈ unit.functions, f.Spelled := by
    refine operations_keep doc package outcomes unit
      (fun part => (∀ d ∈ part.declarations, d.Spelled) ∧ ∀ f ∈ part.functions, f.Spelled) built ?_ ?_
    · intro empty noDeclarations noFunctions
      rw [noDeclarations, noFunctions]
      exact ⟨List.forall_mem_nil _, List.forall_mem_nil _⟩
    · intro earlier entry _ outcome before after compiled _ held
      exact compiled_spelled _ earlier entry before after outcome compiled held.1 held.2
  refine ⟨?_, declarations, functions, ?_⟩
  · have grows := build_operations_grow doc package outcomes unit built
    exact ((reserve_all_grows (typesUnitNames doc) { package } _).trans grows).package ▸ named
  · refine SourceUnit.within_wider _ _ unit (operations_unit_within doc package outcomes unit built) fun name known => ?_
    rcases known with known | known | known | ⟨d, member, rfl⟩ | known
    · exact builtin name known
    · exact imported name known
    · exact client name known
    · exact word_type_name _ (declarations d member).name
    · obtain ⟨entry, _, rfl⟩ := List.mem_map.mp known
      exact word_type_name _ (Naming.exported_word entry.1)

theorem gathered_blames {α β : Type} (step : β → Build α) (entries : List β)
    (blames : ∀ entry ∈ entries, (step entry).BlamesDocument) : (gatherAll step entries).BlamesDocument := by
  intro before failure after failed
  rcases gather_all_failed step entries before after failure failed with ⟨shapes, rfl⟩ | ⟨first, entry, last, rfl, ran⟩
  · trivial
  · exact blames entry (List.mem_append_right _ List.mem_cons_self) _ failure after ran

theorem build_types_blames (doc : Document) (package : String) (failure : Failure)
    (failed : buildTypes doc package = .error failure) : failure.OfDocument := by
  unfold buildTypes at failed
  dsimp only at failed
  cases outcome : (gatherAll (renderComponent doc) doc.schemas).result (reserveComponents doc { package }) with
  | mk result after =>
      rw [outcome] at failed
      cases result with
      | ok results => cases failed
      | error other =>
          obtain rfl := Except.error.inj failed
          exact gathered_blames _ _ (fun entry _ => declare_schema_blames _ _ _ entry.2) _ _ _ outcome

theorem build_operations_blames (doc : Document) (package : String) (failure : Failure)
    (failed : buildOperations doc package = .error failure) : failure.OfDocument := by
  unfold buildOperations at failed
  dsimp only at failed
  generalize outcome : (gatherAll _ (compileEntries doc)).result _ = ended at failed
  obtain ⟨result, after⟩ := ended
  cases result with
  | ok results => cases failed
  | error other =>
      obtain rfl := Except.error.inj failed
      exact gathered_blames _ _ (fun entry _ => compile_operation_blames _ entry.1 entry.2) _ _ _ outcome

def SourceUnit.FitsLayout (unit : SourceUnit) : Prop :=
  ∃ formatted, Layout.format unit.render.toList = .ok formatted ∧
    Layout.codeLines formatted = Layout.codeLines unit.render.toList ∧
    (Layout.codeLines unit.render.toList).map Layout.outsideLiterals =
      (Layout.codeLines unit.bare.render.toList).map Layout.outsideLiterals

theorem format_unit_fits (options : UnitOptions) (kind : UnitKind) (unit : SourceUnit) (fits : unit.FitsLayout)
    (builtin : Formatter.ofKind options.installed options.formatter = .ok .builtin) :
    ∃ source, formatUnit options kind unit.render = .ok source ∧ Layout.format unit.render.toList = .ok source.toList := by
  obtain ⟨formatted, accepted, _⟩ := fits
  refine ⟨String.ofList formatted, ?_, by rw [String.toList_ofList, accepted]⟩
  simp only [formatUnit, builtin, bind, Except.bind, Formatter.format, accepted]
  rfl

theorem types_unit_fits (doc : Document) (options : UnitOptions) (package : Naming.Word options.package)
    (unit : SourceUnit) (built : buildTypes doc options.package = .ok unit) :
    unit.Spelled ∧ unit.FitsLayout ∧
      (Formatter.ofKind options.installed options.formatter = .ok .builtin →
        ∃ generated, generateTypes doc options = .ok generated ∧
          Layout.format unit.render.toList = .ok generated.source.toList) := by
  have spelled := types_unit_spelled doc options.package package unit built
  have fits := unit_formats unit spelled
  refine ⟨spelled, fits, fun builtin => ?_⟩
  obtain ⟨source, formatted, same⟩ := format_unit_fits options .types unit fits builtin
  refine ⟨{ kind := .types, source }, ?_, same⟩
  simp only [generateTypes, built, bind, Except.bind, formatted]
  rfl

theorem operations_unit_fits (doc : Document) (options : UnitOptions) (package : Naming.Word options.package)
    (outcomes : List Outcome) (unit : SourceUnit) (built : buildOperations doc options.package = .ok (outcomes, unit)) :
    unit.Spelled ∧ unit.FitsLayout ∧
      (Formatter.ofKind options.installed options.formatter = .ok .builtin →
        ∃ generated, generateOperations doc options = .ok generated ∧
          Layout.format unit.render.toList = .ok generated.source.toList) := by
  have spelled := operations_unit_spelled doc options.package package outcomes unit built
  have fits := unit_formats unit spelled
  refine ⟨spelled, fits, fun builtin => ?_⟩
  obtain ⟨source, formatted, same⟩ := format_unit_fits options .operations unit fits builtin
  refine ⟨{
      kind := .operations
      source
      operations := outcomes.filterMap Outcome.emitted?
      skipped := outcomes.filterMap Outcome.skipped? }, ?_, same⟩
  simp only [generateOperations, built, bind, Except.bind, formatted]
  rfl

theorem units_fit_layout (doc : Document) (options : UnitOptions)
    (accepted : Command.isPackageName options.package = true) :
    (∀ unit, buildTypes doc options.package = .ok unit → unit.Spelled ∧ unit.FitsLayout ∧
      (Formatter.ofKind options.installed options.formatter = .ok .builtin →
        ∃ generated, generateTypes doc options = .ok generated ∧
          Layout.format unit.render.toList = .ok generated.source.toList)) ∧
    (∀ outcomes unit, buildOperations doc options.package = .ok (outcomes, unit) → unit.Spelled ∧ unit.FitsLayout ∧
      (Formatter.ofKind options.installed options.formatter = .ok .builtin →
        ∃ generated, generateOperations doc options = .ok generated ∧
          Layout.format unit.render.toList = .ok generated.source.toList)) ∧
    (Formatter.ofKind options.installed options.formatter = .ok .builtin → ∀ kind message,
      generateTypes doc options ≠ .error (.layout kind message) ∧
        generateOperations doc options ≠ .error (.layout kind message)) := by
  have package := package_name_word options.package accepted
  have types := types_unit_fits doc options package
  have operations := operations_unit_fits doc options package
  refine ⟨types, operations, fun builtin kind message => ⟨fun failed => ?_, fun failed => ?_⟩⟩
  · cases built : buildTypes doc options.package with
    | ok unit =>
        obtain ⟨generated, done, _⟩ := (types unit built).2.2 builtin
        rw [done] at failed
        cases failed
    | error failure =>
        have blamed := build_types_blames doc options.package failure built
        rw [generateTypes, built] at failed
        cases failed
        exact blamed
  · cases built : buildOperations doc options.package with
    | ok result =>
        obtain ⟨generated, done, _⟩ := (operations result.1 result.2 built).2.2 builtin
        rw [done] at failed
        cases failed
    | error failure =>
        have blamed := build_operations_blames doc options.package failure built
        rw [generateOperations, built] at failed
        cases failed
        exact blamed

def unruly : Document :=
  let text : Schema := { type := some (.single "string"), description := some "ends */ here\r\n// \x60 or \"here\n\x7b(" }
  let object (properties : List (String × Schema)) : Schema :=
    { type := some (.single "object"), properties := some properties, title := some "one\ntwo \"[" }
  let list (items : Schema) : Schema := { type := some (.single "array"), items := some items }
  let json (s : Schema) : Content := [("application/json; v=\"1\"", some s)]
  { paths := [
      ("/kinds\"//\x7bkind\x7d\x60", { get := some {
        summary := some "Lists \x7d kinds\n*/ \"of\" 'them"
        id := some "list \"kinds\""
        parameters := [
          .inline { name := "kind", location := "path", schema := some { text with enumValues := some [.text "a\"\n\x60"] } },
          .inline { name := "sort\\\"\n", location := "query", description := some "By (", schema := some (list text) }]
        responses := [("200", { content := json (object [("it's", list (object [("id", text), ("name", text)]))]) })] } })]
    components := some { schemas := [
      ("kind // \x7b", object [
        ("it's // [", { text with limits := { minLength := some 3 } }),
        ("size", { type := some (.single "number"), enumValues := some [.integer (-1), .null] })])] } }

theorem unruly_units_fit_layout :
    Command.isPackageName "models" = true ∧ Formatter.ofKind none .builtin = .ok .builtin ∧
    (∃ unit, buildTypes unruly "models" = .ok unit ∧ unit.Spelled ∧ unit.FitsLayout ∧
      ∃ generated, generateTypes unruly { formatter := .builtin } = .ok generated ∧
        Layout.format unit.render.toList = .ok generated.source.toList) ∧
    (∃ outcomes unit, buildOperations unruly "models" = .ok (outcomes, unit) ∧ unit.Spelled ∧ unit.FitsLayout ∧
      ∃ generated, generateOperations unruly { formatter := .builtin } = .ok generated ∧
        Layout.format unit.render.toList = .ok generated.source.toList) := by
  have accepted : Command.isPackageName "models" = true := by decide
  obtain ⟨unit, types⟩ := ok_exists (buildTypes unruly "models") (by decide +kernel)
  obtain ⟨⟨outcomes, methods⟩, operations⟩ := ok_exists (buildOperations unruly "models") (by decide +kernel)
  obtain ⟨typesFit, operationsFit, _⟩ := units_fit_layout unruly { formatter := .builtin } accepted
  obtain ⟨spelled, fits, generates⟩ := typesFit unit types
  obtain ⟨methodsSpelled, methodsFit, methodsGenerate⟩ := operationsFit outcomes methods operations
  exact ⟨accepted, rfl, ⟨unit, types, spelled, fits, generates rfl⟩, outcomes, methods, operations, methodsSpelled,
    methodsFit, methodsGenerate rfl⟩

end ApiBindings
