import ApiBindings.Failure
import ApiBindings.Naming
import ApiBindings.Unit.Function
set_option autoImplicit false

namespace ApiBindings

inductive PathPart where
  | text (chars : List Char)
  | placeholder (chars : List Char)
  | unterminated
deriving DecidableEq, Repr

namespace PathPart

-- Splits the rest of a template; `chars` holds what was read of the open
-- part, last character first.
def partsFrom (inside : Bool) (chars : List Char) : List Char → List PathPart
  | [] => if inside then [.unterminated] else [.text chars.reverse]
  | c :: rest =>
    if inside then
      if c = '}' then .placeholder chars.reverse :: partsFrom false [] rest
      else partsFrom true (c :: chars) rest
    else if c = '{' then .text chars.reverse :: partsFrom true [] rest
    else partsFrom false (c :: chars) rest

def ofTemplate (template : List Char) : List PathPart := partsFrom false [] template

end PathPart

structure BoundParameter where
  wire : String
  ident : String
  parameter : Parameter

def withoutStars (text : List Char) : List Char := text.filter (· ≠ '*')

def bindPathParameters (names : Names) : List Parameter → List BoundParameter
  | [] => []
  | parameter :: rest =>
    if parameter.location = "path" then
      let wire := String.ofList (withoutStars parameter.name.toList)
      let (ident, names) := names.claim (Naming.localName wire)
      { wire, ident, parameter } :: bindPathParameters names rest
    else bindPathParameters names rest

def findBound (bound : List BoundParameter) (placeholder : String) : Option BoundParameter :=
  (bound.find? (·.wire = placeholder)).or
    (bound.find? fun b => Naming.snake b.wire = Naming.snake placeholder)

def escapePercent (text : List Char) : List Char :=
  text.flatMap fun c => if c = '%' then ['%', '%'] else [c]

namespace PathExpr

def ofParts (template : String) (bound : List BoundParameter) :
    List PathPart → Except Malformation (List Char × List String)
  | [] => .ok ([], [])
  | .text chars :: rest =>
    (ofParts template bound rest).map fun (format, arguments) => (escapePercent chars ++ format, arguments)
  | .placeholder chars :: rest =>
    let placeholder := String.ofList (withoutStars chars)
    match findBound bound placeholder with
    | none => .error (.unboundPlaceholder placeholder)
    | some b =>
      (ofParts template bound rest).map fun (format, arguments) =>
        ('%' :: 'v' :: format, b.ident :: arguments)
  | .unterminated :: _ => .error (.unterminatedPlaceholder template)

def ofTemplate (template : String) (bound : List BoundParameter) : Except Malformation PathExpr :=
  if template.toList.contains '{' then
    (ofParts template bound (PathPart.ofTemplate template.toList)).map fun (format, arguments) =>
      { format := String.ofList format, arguments }
  else .ok { format := template }

end PathExpr

end ApiBindings
