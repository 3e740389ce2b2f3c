import ApiBindings.Command.Basic
set_option autoImplicit false

namespace ApiBindings.Command

def versionText : String := "oasgo 0.1.0\n"

def summary : Subcommand → String
  | .types => "Generate the types unit: one declaration per component schema"
  | .operations => "Generate the operations unit: one client method per path operation"
  | .generate => "Generate every unit listed in an oasgo.toml config"

def OptionSpec.line (spec : OptionSpec) : String :=
  let letter := match spec.letter with
    | some c => s!"-{c}, "
    | none => "    "
  let value := match spec.kind with
    | .nothing => ""
    | .path => " <FILE>"
    | .text => " <NAME>"
    | .formatter => " <auto|gofmt|builtin>"
  s!"  {letter}--{spec.name}{value}\n"

def helpText : Option Subcommand → String
  | none =>
    let lines := [Subcommand.types, .operations, .generate].map fun s => s!"  {s.name}\n      {summary s}\n"
    "Compile an OpenAPI document into Go types and client methods\n\nUsage: oasgo [COMMAND]\n\nCommands:\n" ++
      String.join lines
  | some subcommand =>
    let required := String.join (subcommand.required.map fun name => s!" --{name} <FILE>")
    s!"{summary subcommand}\n\nUsage: oasgo {subcommand.name} [OPTIONS]{required}\n\nOptions:\n" ++
      String.join (subcommand.specs.map OptionSpec.line)

section

variable {m : Type → Type} [Monad m] [Host m]

def interrupt : Interruption → m Nat
  | .help subcommand => do
    Host.print (helpText subcommand)
    return 0
  | .version => do
    Host.print versionText
    return 0
  | .misuse cause => do
    Host.printError (cause.message ++ "\n")
    return 2

def finish : Except Error Status → m Nat
  | .ok status => return status.exitCode
  | .error cause => do
    Host.printError s!"Error: {cause.message}\n"
    return cause.exitCode

def runArguments (arguments : List String) : m Nat := do
  match Request.ofArguments arguments with
  | .error interruption => interrupt interruption
  | .ok request => finish (← (runRequest request).run)

end

def World.run (world : World) (arguments : List String) : Nat × World :=
  StateT.run (m := Id) (runArguments arguments : StateM World Nat) world

end ApiBindings.Command
