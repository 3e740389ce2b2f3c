import ApiBindings.Formatter
set_option autoImplicit false

namespace ApiBindings.Command

inductive ValueKind where
  | nothing
  | path
  | text
  | formatter
deriving DecidableEq

structure OptionSpec where
  name : String
  letter : Option Char := none
  kind : ValueKind
deriving DecidableEq

inductive Subcommand where
  | types
  | operations
  | generate
deriving DecidableEq, Repr

def Subcommand.name : Subcommand → String
  | .types => "types"
  | .operations => "operations"
  | .generate => "generate"

def Subcommand.ofName? : String → Option Subcommand
  | "types" => some .types
  | "operations" => some .operations
  | "generate" => some .generate
  | _ => none

inductive Misuse where
  | unexpected (argument : String)
  | unknownSubcommand (name : String)
  | missingValue (option : String)
  | needlessValue (option : String)
  | invalidValue (option value : String)
  | repeated (option : String)
  | missing (options : List String)
deriving DecidableEq, Repr

def Misuse.message : Misuse → String
  | .unexpected argument => s!"error: unexpected argument '{argument}' found"
  | .unknownSubcommand name => s!"error: unrecognized subcommand '{name}'"
  | .missingValue option => s!"error: a value is required for '{option}' but none was supplied"
  | .needlessValue option => s!"error: '{option}' takes no value"
  | .invalidValue option value =>
    s!"error: invalid value '{value}' for '{option}': {FormatterKind.unknownMessage value}"
  | .repeated option => s!"error: the argument '{option}' cannot be used multiple times"
  | .missing options => "error: required arguments were not provided: " ++ ", ".intercalate options

inductive Interruption where
  | help (subcommand : Option Subcommand)
  | version
  | misuse (cause : Misuse)
deriving DecidableEq, Repr

structure Given where
  values : List (String × String) := []
  waiting : Option OptionSpec := none
  ended : Bool := false

def misuse {α : Type} (cause : Misuse) : Except Interruption α := .error (.misuse cause)

namespace Given

def add (given : Given) (spec : OptionSpec) (value : String) : Except Interruption Given :=
  let shown := "--" ++ spec.name
  let given := { given with waiting := none }
  if (given.values.lookup spec.name).isSome then misuse (.repeated shown)
  else if spec.kind = .path && value.isEmpty then misuse (.missingValue shown)
  else if spec.kind = .formatter && (FormatterKind.ofArgument? value).isNone then
    misuse (.invalidValue shown value)
  else .ok { given with values := (spec.name, value) :: given.values }

def long (subcommand : Subcommand) (specs : List OptionSpec) (given : Given) (argument : List Char) :
    Except Interruption Given :=
  let (name, rest) := argument.span (· ≠ '=')
  let name := String.ofList name
  match specs.find? (·.name = name), rest with
  | some spec, [] =>
    if spec.kind = .nothing then given.add spec "" else .ok { given with waiting := some spec }
  | some spec, _ :: value =>
    if spec.kind = .nothing then misuse (.needlessValue ("--" ++ name))
    else given.add spec (String.ofList value)
  | none, [] => if name = "help" then .error (.help (some subcommand)) else misuse (.unexpected ("--" ++ name))
  | none, _ :: _ => misuse (.unexpected ("--" ++ name))

def short (subcommand : Subcommand) (specs : List OptionSpec) (given : Given) :
    List Char → Except Interruption Given
  | [] => .ok given
  | letter :: rest =>
    match specs.find? (·.letter = some letter), rest with
    | some spec, [] => .ok { given with waiting := some spec }
    | some spec, '=' :: value => given.add spec (String.ofList value)
    | some spec, value => given.add spec (String.ofList value)
    | none, _ =>
      if letter = 'h' then .error (.help (some subcommand))
      else misuse (.unexpected (String.ofList ['-', letter]))

def step (subcommand : Subcommand) (specs : List OptionSpec) (given : Given) (argument : String) :
    Except Interruption Given :=
  if given.ended then misuse (.unexpected argument)
  else
    match given.waiting, argument.toList with
    | some spec, '-' :: _ :: _ => misuse (.missingValue ("--" ++ spec.name))
    | some spec, _ => given.add spec argument
    | none, ['-', '-'] => .ok { given with ended := true }
    | none, '-' :: '-' :: rest => given.long subcommand specs rest
    | none, '-' :: letter :: rest => given.short subcommand specs (letter :: rest)
    | none, _ => misuse (.unexpected argument)

def read (subcommand : Subcommand) (specs : List OptionSpec) (required : List String)
    (arguments : List String) : Except Interruption Given := do
  let given ← arguments.foldlM (step subcommand specs) {}
  match given.waiting with
  | some spec => misuse (.missingValue ("--" ++ spec.name))
  | none =>
    let absent := required.filter fun name => (given.values.lookup name).isNone
    if absent.isEmpty then return given else misuse (.missing (absent.map ("--" ++ ·)))

def value? (given : Given) (name : String) : Option String := given.values.lookup name

end Given

structure RunOptions where
  check : Bool := false
  formatter : Option FormatterKind := none
deriving DecidableEq, Repr

structure UnitRequest where
  input : String
  output : String
  package : String
  run : RunOptions := {}
deriving DecidableEq, Repr

inductive Request where
  | types (unit : UnitRequest)
  | operations (unit : UnitRequest) (manifest : Option String)
  | generate (config : String) (run : RunOptions)
deriving DecidableEq, Repr

def defaultPackage : String := "models"

def defaultConfig : String := "oasgo.toml"

def runSpecs : List OptionSpec := [
  { name := "check", kind := .nothing },
  { name := "formatter", kind := .formatter }]

def unitSpecs : List OptionSpec := [
  { name := "input", letter := some 'i', kind := .path },
  { name := "output", letter := some 'o', kind := .path },
  { name := "package", letter := some 'p', kind := .text }]

def Subcommand.specs : Subcommand → List OptionSpec
  | .types => unitSpecs ++ runSpecs
  | .operations => unitSpecs ++ { name := "manifest", kind := .path } :: runSpecs
  | .generate => { name := "config", letter := some 'c', kind := .path } :: runSpecs

def Subcommand.required : Subcommand → List String
  | .types | .operations => ["input", "output"]
  | .generate => []

def Given.run (given : Given) : RunOptions where
  check := (given.value? "check").isSome
  formatter := (given.value? "formatter").bind FormatterKind.ofArgument?

def Given.unit (given : Given) : UnitRequest where
  input := (given.value? "input").getD ""
  output := (given.value? "output").getD ""
  package := (given.value? "package").getD defaultPackage
  run := given.run

namespace Request

def ofSubcommand (subcommand : Subcommand) (arguments : List String) : Except Interruption Request := do
  let given ← Given.read subcommand subcommand.specs subcommand.required arguments
  match subcommand with
  | .types => return .types given.unit
  | .operations => return .operations given.unit (given.value? "manifest")
  | .generate => return .generate ((given.value? "config").getD defaultConfig) given.run

def ofHelp : List String → Interruption
  | [] => .help none
  | name :: rest =>
    match Subcommand.ofName? name, rest with
    | some subcommand, [] => .help (some subcommand)
    | some _, other :: _ => .misuse (.unknownSubcommand other)
    | none, [] => if name = "help" then .help none else .misuse (.unknownSubcommand name)
    | none, other :: _ => .misuse (.unknownSubcommand (if name = "help" then other else name))

def ofArguments : List String → Except Interruption Request
  | [] => .error (.help none)
  | first :: rest =>
    match Subcommand.ofName? first with
    | some subcommand => ofSubcommand subcommand rest
    | none =>
      match first.toList, rest with
      | ['-', '-'], [] => .error (.help none)
      | ['-', '-'], other :: _ => misuse (.unexpected other)
      | '-' :: '-' :: name, _ =>
        if name = "help".toList then .error (.help none)
        else if name = "version".toList then .error .version
        else misuse (.unexpected first)
      | '-' :: 'h' :: _, _ => .error (.help none)
      | '-' :: 'V' :: _, _ => .error .version
      | '-' :: _ :: _, _ => misuse (.unexpected first)
      | _, _ => if first = "help" then .error (ofHelp rest) else misuse (.unknownSubcommand first)

end Request

end ApiBindings.Command
