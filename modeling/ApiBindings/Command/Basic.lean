import ApiBindings.Command.Arguments
import ApiBindings.Command.Host
import ApiBindings.Config
import ApiBindings.Document.Decoding
import ApiBindings.Manifest
import ApiBindings.Text.Diff.Report
set_option autoImplicit false

namespace ApiBindings.Command

inductive Error where
  | failure (cause : Failure)
  | config (cause : ConfigError)
  | package (name : String)
deriving DecidableEq, Repr

namespace Error

def message : Error → String
  | .failure cause => cause.message
  | .config cause => cause.message
  | .package name => s!"invalid Go package name '{name}'"

def exitCode : Error → Nat
  | .failure cause => cause.exitCode
  | .config (.unreadable ..) => 3
  | .config _ | .package _ => 2

end Error

inductive Status where
  | clean
  | drift
deriving DecidableEq, Repr

namespace Status

def and : Status → Status → Status
  | .clean, .clean => .clean
  | _, _ => .drift

def exitCode : Status → Nat
  | .clean => 0
  | .drift => 1

end Status

def isPackageName (name : String) : Bool :=
  match name.toList with
  | [] => false
  | c :: rest => (c.isLower || c = '_') && rest.all fun c => c.isLower || c.isDigit || c = '_'

def formatOf (path : String) : DataFormat :=
  match Path.extension path with
  | some "yaml" | some "yml" => .yaml
  | _ => .json

section

variable {m : Type → Type} [Monad m] [Host m]

abbrev Action (m : Type → Type) (α : Type) := ExceptT Error m α

variable (m) in
def say (text : String) : Action m Unit := liftM (Host.print text : m Unit)

def loadDocument (path : String) : Action m Document := do
  match ← liftM (Host.readText path : m (Except AccessError String)) with
  | .error cause => throw (.failure (.access path cause))
  | .ok text =>
    match Document.read (formatOf path) text with
    | .ok document => return document
    | .error cause => throw (.failure cause)

def unitOptions (package : String) (formatter : FormatterKind) : Action m UnitOptions := do
  if isPackageName package then
    return { package, formatter, installed := ← liftM (Host.installed : m (Option Tool)) }
  else throw (.package package)

def generated (result : Except Failure Generated) : Action m Generated :=
  match result with
  | .ok unit => return unit
  | .error cause => throw (.failure cause)

def compare (path text : String) : Action m Status := do
  let current ← match ← liftM (Host.readText path : m (Except AccessError String)) with
    | .ok current => pure current
    | .error .notFound => pure ""
    | .error cause => throw (.failure (.access path cause))
  if current = text then
    say m s!"{path} is up to date\n"
    return .clean
  else
    say m (Text.Diff.report path current text)
    return .drift

def save (path text written : String) : Action m Status := do
  match ← liftM (Host.readText path : m (Except AccessError String)) with
  | .ok current =>
    if current = text then
      say m s!"{path} is up to date\n"
      return .clean
    else put
  | .error _ => put
where
  put : Action m Status := do
    match ← liftM (Host.saveText path text : m (Except AccessError Unit)) with
    | .ok () =>
      say m s!"Wrote {written}{path}\n"
      return .clean
    | .error cause => throw (.failure (.access path cause))

def sync (check : Bool) (path text written : String) : Action m Status :=
  if check then compare path text else save path text written

def SkippedOperation.line (operation : SkippedOperation) : String :=
  s!"Skipped {operation.name} ({operation.method.name} {operation.path}): {operation.reason}\n"

def syncUnit (check : Bool) (unit : Generated) (path : String) : Action m Status := do
  for operation in unit.skipped do
    liftM (Host.printError (SkippedOperation.line operation) : m Unit)
  sync check path unit.source s!"{unit.kind.name} unit to "

def syncManifest (check : Bool) (unit : Generated) (path : String) : Action m Status :=
  sync check path unit.manifestText ""

def runTypes (request : UnitRequest) : Action m Status := do
  let document ← loadDocument request.input
  let options ← unitOptions request.package (request.run.formatter.getD .auto)
  let unit ← generated (generateTypes document options)
  syncUnit request.run.check unit request.output

def runOperations (request : UnitRequest) (manifest : Option String) : Action m Status := do
  let document ← loadDocument request.input
  let options ← unitOptions request.package (request.run.formatter.getD .auto)
  let unit ← generated (generateOperations document options)
  let status ← syncUnit request.run.check unit request.output
  match manifest with
  | some path => return status.and (← syncManifest request.run.check unit path)
  | none => return status

def generateConfiguredTypes (config : Config) (document : Document) (formatter : FormatterKind)
    (check : Bool) : Action m Status := do
  match config.types with
  | none => return .clean
  | some types =>
    let options ← unitOptions (types.package.getD defaultPackage) formatter
    let unit ← generated (generateTypes document options)
    syncUnit check unit types.output

def operationsPackage (config : Config) (operations : OperationsConfig) : String :=
  (operations.package.or (config.types.bind (·.package))).getD defaultPackage

def generateConfiguredOperations (config : Config) (document : Document) (formatter : FormatterKind)
    (check : Bool) : Action m Status := do
  match config.operations with
  | none => return .clean
  | some operations =>
    let options ← unitOptions (operationsPackage config operations) formatter
    let unit ← generated (generateOperations document options)
    let status ← syncUnit check unit operations.output
    match operations.manifest with
    | some path => return status.and (← syncManifest check unit path)
    | none => return status

def runGenerate (path : String) (options : RunOptions) : Action m Status := do
  match Config.load path (← liftM (Host.readText path : m (Except AccessError String))) with
  | .error cause => throw (.config cause)
  | .ok config =>
    let formatter := options.formatter.getD config.formatter
    let document ← loadDocument config.input
    let status ← generateConfiguredTypes config document formatter options.check
    return status.and (← generateConfiguredOperations config document formatter options.check)

def runRequest : Request → Action m Status
  | .types request => runTypes request
  | .operations request manifest => runOperations request manifest
  | .generate config options => runGenerate config options

end

end ApiBindings.Command
