import ApiBindings.Failure
import ApiBindings.Layout
import ApiBindings.Text.Utf8
set_option autoImplicit false

namespace ApiBindings

inductive FormatterKind where
  | auto
  | gofmt
  | builtin
deriving DecidableEq, Repr

namespace FormatterKind

def name : FormatterKind → String
  | .auto => "auto"
  | .gofmt => "gofmt"
  | .builtin => "builtin"

def ofName? : String → Option FormatterKind
  | "auto" => some .auto
  | "gofmt" => some .gofmt
  | "builtin" => some .builtin
  | _ => none

def ofArgument? (argument : String) : Option FormatterKind := ofName? argument.toLower

def unknownMessage (argument : String) : String :=
  s!"unknown formatter '{argument.toLower}' (expected auto, gofmt or builtin)"

end FormatterKind

structure ToolOutput where
  exit : Nat
  output : Text.Utf8.Bytes
  errors : Text.Utf8.Bytes

abbrev Tool := String → ToolOutput

inductive Formatter where
  | builtin
  | gofmt (tool : Tool)

namespace Formatter

def name : Formatter → String
  | .builtin => "builtin"
  | .gofmt _ => "gofmt"

def ofKind (installed : Option Tool) : FormatterKind → Except Failure Formatter
  | .builtin => .ok .builtin
  | .gofmt =>
    match installed with
    | some tool => .ok (.gofmt tool)
    | none => .error (.formatterUnavailable "gofmt" "cannot find binary path")
  | .auto =>
    match installed with
    | some tool => .ok (.gofmt tool)
    | none => .ok .builtin

def format (formatter : Formatter) (text : String) : Except String String :=
  match formatter with
  | .builtin =>
    match Layout.format text.toList with
    | .ok formatted => .ok (String.ofList formatted)
    | .error imbalance => .error imbalance.message
  | .gofmt tool =>
    let run := tool text
    if run.exit ≠ 0 then
      .error (String.ofList (Text.trim (Text.Utf8.decodeMarking run.errors).toList))
    else match Text.Utf8.decode run.output with
      | .ok formatted => .ok formatted
      | .error fault => .error s!"gofmt output is not UTF-8: {fault.message}"

end Formatter

end ApiBindings
