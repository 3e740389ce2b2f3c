import ApiBindings.Command.Line
set_option autoImplicit false

namespace ApiBindings.Command

def refusal : IO.Error → AccessError
  | .noFileOrDirectory .. | .noSuchThing .. => .notFound
  | .alreadyExists .. => .exists
  | .inappropriateType _ code _ => if code = 21 then .isDirectory else .notDirectory
  | .invalidArgument .. => .invalidName
  | .permissionDenied _ code _ => .other s!"Permission denied (os error {code})"
  | cause => .other (toString cause)

def attempt {α : Type} (action : IO α) : IO (Except AccessError α) := do
  try
    return .ok (← action)
  catch cause => return .error (refusal cause)

def readFile (path : String) : IO (Except AccessError String) := do
  if path.isEmpty then return .error .notFound
  match ← attempt (IO.FS.readBinFile path) with
  | .error cause => return .error cause
  | .ok bytes =>
    match Text.Utf8.decode? bytes.toList with
    | some text => return .ok text
    | none => return .error .notText

-- No installed formatter is looked for: `auto` is the builtin one.
instance : Host IO where
  readText := readFile
  saveText path text := attempt do
    let parent := Path.parent path
    if !parent.isEmpty then IO.FS.createDirAll parent
    IO.FS.writeFile path text
  print text := IO.print text
  printError text := IO.eprint text
  installed := return none

end ApiBindings.Command

def main (arguments : List String) : IO UInt32 :=
  return UInt32.ofNat (← ApiBindings.Command.runArguments arguments)
