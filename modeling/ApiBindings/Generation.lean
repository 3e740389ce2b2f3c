import ApiBindings.Formatter
import ApiBindings.Operation.Compilation
import ApiBindings.Unit.Printer
set_option autoImplicit false

namespace ApiBindings

structure Generated where
  kind : UnitKind
  source : String
  operations : List CompiledOperation := []
  skipped : List SkippedOperation := []

structure UnitOptions where
  package : String := "models"
  formatter : FormatterKind := .auto
  installed : Option Tool := none

def formatUnit (options : UnitOptions) (kind : UnitKind) (text : String) : Except Failure String := do
  let formatter ← Formatter.ofKind options.installed options.formatter
  match formatter.format text with
  | .ok formatted => return formatted
  | .error message => throw (.layout kind message)

namespace Document

def componentsOrNone (doc : Document) : Components := doc.components.getD {}

def typeNames (doc : Document) : List String := doc.schemas.map fun (name, _) => Naming.exported name

end Document

def reserveComponents (doc : Document) (unit : SourceUnit) : SourceUnit :=
  doc.typeNames.foldl SourceUnit.reserve unit

structure Gathered (α : Type) where
  results : List α := []
  unsupported : List (String × UnsupportedShape) := []

section

variable {α β : Type}

def gather (step : β → Build α) : List β → Build (Gathered α)
  | [] => pure {}
  | entry :: rest => do
    let (result, unit) := (step entry).result (← get)
    -- What a step added stays even when it failed.
    set unit
    match result with
    | .ok a =>
      let others ← gather step rest
      pure { others with results := a :: others.results }
    | .error (.unsupported name shape) =>
      let others ← gather step rest
      pure { others with unsupported := (name, shape) :: others.unsupported }
    | .error failure => throw failure

def gatherAll (step : β → Build α) (entries : List β) : Build (List α) := do
  let gathered ← gather step entries
  if gathered.unsupported.isEmpty then pure gathered.results
  else throw (.unsupportedShapes gathered.unsupported)

end

def renderComponent (doc : Document) (component : String × Schema) : Build Unit :=
  render doc.componentsOrNone (Naming.exported component.1) component.2

def buildTypes (doc : Document) (package : String) : Except Failure SourceUnit :=
  let (result, unit) :=
    (gatherAll (renderComponent doc) doc.schemas).result (reserveComponents doc { package })
  result.map fun _ => unit

-- A component that fails still leaves the names that it took.
def typesUnitNames (doc : Document) : List String :=
  let unit := doc.schemas.foldl (fun unit component => ((renderComponent doc component).result unit).2)
    (reserveComponents doc { package := "scratch" })
  unit.names.taken

def withEarlier (earlier : List String) : List Document.Entry → List (List String × Document.Entry)
  | [] => []
  | entry :: rest => (earlier, entry) :: withEarlier (entry.name :: earlier) rest

def compileEntries (doc : Document) : List (List String × Document.Entry) := withEarlier [] doc.entries

def buildOperations (doc : Document) (package : String) : Except Failure (List Outcome × SourceUnit) :=
  let start := (typesUnitNames doc).foldl SourceUnit.reserve { package }
  let (result, unit) :=
    (gatherAll (fun (earlier, entry) => compileOperation doc.componentsOrNone earlier entry)
      (compileEntries doc)).result start
  result.map fun outcomes => (outcomes, unit)

def generateTypes (doc : Document) (options : UnitOptions) : Except Failure Generated := do
  let unit ← buildTypes doc options.package
  let source ← formatUnit options .types unit.render
  return { kind := .types, source }

def Outcome.emitted? : Outcome → Option CompiledOperation
  | .emitted operation => some operation
  | .skipped _ => none

def Outcome.skipped? : Outcome → Option SkippedOperation
  | .emitted _ => none
  | .skipped operation => some operation

def generateOperations (doc : Document) (options : UnitOptions) : Except Failure Generated := do
  let (outcomes, unit) ← buildOperations doc options.package
  let source ← formatUnit options .operations unit.render
  return {
    kind := .operations
    source
    operations := outcomes.filterMap Outcome.emitted?
    skipped := outcomes.filterMap Outcome.skipped? }

end ApiBindings
