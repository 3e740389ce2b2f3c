import ApiBindings.Generation
import ApiBindings.Proofs.Text.Utf8
set_option autoImplicit false

namespace ApiBindings

def unchanging : Tool := fun text => { exit := 0, output := Text.Utf8.encode text, errors := [] }

theorem format_unchanging (text : String) : (Formatter.gofmt unchanging).format text = .ok text := by
  simp only [Formatter.format, unchanging, Text.Utf8.decode_encode]
  rfl

theorem generate_types_unchanging (doc : Document) (package : String) (unit : SourceUnit)
    (built : buildTypes doc package = .ok unit) :
    generateTypes doc { package, installed := some unchanging } = .ok { kind := .types, source := unit.render } := by
  simp only [generateTypes, built, formatUnit, Formatter.ofKind, bind, Except.bind, format_unchanging]
  rfl

theorem generate_operations_unchanging (doc : Document) (package : String) (outcomes : List Outcome) (unit : SourceUnit)
    (built : buildOperations doc package = .ok (outcomes, unit)) :
    generateOperations doc { package, installed := some unchanging } = .ok {
      kind := .operations
      source := unit.render
      operations := outcomes.filterMap Outcome.emitted?
      skipped := outcomes.filterMap Outcome.skipped? } := by
  simp only [generateOperations, built, formatUnit, Formatter.ofKind, bind, Except.bind, format_unchanging]
  rfl

end ApiBindings
