import ApiBindings.Unit.Basic
set_option autoImplicit false

namespace ApiBindings

def quoted (text : String) : String := String.ofList (Text.literal text.toList)

def Literal.render : Literal → String
  | .text s => quoted s
  | .integer n => toString n
  | .double x => x.formatFraction
  | .flag b => toString b

def renderDoc (indent : String) (doc : Option String) : String :=
  match doc with
  | none => ""
  | some text =>
    String.join <| (Text.lines text.toList).map fun line =>
      if line.isEmpty then indent ++ "//\n" else indent ++ "// " ++ String.ofList line ++ "\n"

def FieldTag.render (tag : FieldTag) : String :=
  let ending := if tag.omitEmpty then ",omitempty" else ""
  let rules := match tag.rules with
    | some rules => " validate:\"" ++ rules ++ "\""
    | none => ""
  "\x60json:\"" ++ tag.wire ++ ending ++ "\"" ++ rules ++ "\x60"

def Field.render (field : Field) : String :=
  let tag := match field.tag with
    | some tag => " " ++ tag.render
    | none => ""
  renderDoc "\t" field.doc ++ "\t" ++ field.name ++ " " ++ field.type.render ++ tag ++ "\n"

def commaSeparated (items : List String) : String := ", ".intercalate items

def DeclarationShape.render (name : String) : DeclarationShape → String
  | .alias target => "type " ++ name ++ " = " ++ target.render ++ "\n"
  | .enumeration underlying constants =>
    let lines := constants.map fun constant =>
      "\t" ++ constant.name ++ " " ++ name ++ " = " ++ constant.value.render ++ "\n"
    "type " ++ name ++ " " ++ underlying.render ++ "\n" ++
      (if constants.isEmpty then "" else "\nconst (\n" ++ String.join lines ++ ")\n")
  | .record [] => "type " ++ name ++ " struct\x7b\x7d\n"
  | .record fields => "type " ++ name ++ " struct \x7b\n" ++ String.join (fields.map Field.render) ++ "\x7d\n"
  | .slice item => "type " ++ name ++ " []" ++ item.render ++ "\n"
  | .map value => "type " ++ name ++ " map[string]" ++ value.render ++ "\n"
  | .function parameters =>
    "type " ++ name ++ " func(" ++ commaSeparated (parameters.map TypeExpr.render) ++ ")\n"

def Declaration.render (declaration : Declaration) : String :=
  renderDoc "" declaration.doc ++ declaration.shape.render declaration.name

def Variable.render (v : Variable) : String :=
  v.name ++ " " ++ (if v.variadic then "..." else "") ++ v.type.render

namespace ClientCall

def renderPath (path : PathExpr) : String :=
  if path.arguments.isEmpty then quoted path.format
  else "fmt.Sprintf(" ++ quoted path.format ++ ", " ++ commaSeparated path.arguments ++ ")"

def render (call : ClientCall) : String :=
  let (value, onError) := if call.response.byPointer then ("&out", "nil") else ("out", "out")
  let options := match call.options with
    | some options =>
      "\tq := req.URL.Query()\n\tfor _, opt := range " ++ options ++
        " \x7b\n\t\topt(q)\n\t\x7d\n\treq.URL.RawQuery = q.Encode()\n"
    | none => ""
  "\tvar out " ++ call.response.type.render ++ "\n\tpath := " ++ renderPath call.path ++
    "\n\treq, err := c.newRequest(ctx, " ++ call.method.constant ++ ", path, " ++
    call.body.getD "nil" ++ ")\n\tif err != nil \x7b\n\t\treturn " ++ onError ++ ", err\n\t\x7d\n" ++
    options ++ "\tif err := c.do(req, &out); err != nil \x7b\n\t\treturn " ++ onError ++
    ", err\n\t\x7d\n\treturn " ++ value ++ ", nil\n"

end ClientCall

def renderQueryOption (wire : String) (repeated : Bool) : String :=
  let key := quoted wire
  "\treturn func(q url.Values) \x7b\n" ++
    (if repeated then
      "\t\tfor _, item := range v \x7b\n\t\t\tq.Add(" ++ key ++ ", fmt.Sprint(item))\n\t\t\x7d\n"
    else "\t\tq.Set(" ++ key ++ ", fmt.Sprint(v))\n") ++ "\t\x7d\n"

def FinderField.condition (field : FinderField) : String :=
  let access := "item." ++ field.name
  let value := if field.pointer then "*" ++ access else access
  let comparison :=
    (if field.isString then value else "fmt.Sprint(" ++ value ++ ")") ++ " == nameOrID"
  if field.pointer then access ++ " != nil && " ++ comparison else comparison

def Finder.render (finder : Finder) : String :=
  let test (field : FinderField) :=
    "\t\tif " ++ field.condition ++ " \x7b\n\t\t\treturn item, nil\n\t\t\x7d\n"
  "\tfor i := range r." ++ finder.list ++ " \x7b\n\t\titem := &r." ++ finder.list ++ "[i]\n" ++
    test finder.byName ++ test finder.byId ++
    "\t\x7d\n\treturn nil, &NotFoundError\x7bKind: " ++ quoted finder.kind ++ ", Key: nameOrID\x7d\n"

def FunctionBody.render : FunctionBody → String
  | .call request => request.render
  | .queryOption wire repeated => renderQueryOption wire repeated
  | .finder search => search.render
  | .notFoundMessage => "\treturn fmt.Sprintf(\"%s %q not found\", e.Kind, e.Key)\n"

def renderResults : List TypeExpr → String
  | [] => ""
  | [single] => " " ++ single.render
  | several => " (" ++ commaSeparated (several.map TypeExpr.render) ++ ")"

def Function.render (f : Function) : String :=
  let receiver := match f.receiver with
    | some receiver => "(" ++ receiver.name ++ " " ++ receiver.type.render ++ ") "
    | none => ""
  renderDoc "" f.doc ++ "func " ++ receiver ++ f.name ++
    "(" ++ commaSeparated (f.parameters.map Variable.render) ++ ")" ++ renderResults f.results ++
    " \x7b\n" ++ f.body.render ++ "\x7d\n"

def generatedHeader : String := "// Code generated by oasgo. DO NOT EDIT."

def renderImports (packages : List Package) : String :=
  let group (packages : List Package) :=
    String.join (packages.map fun package => "\t" ++ quoted package.path ++ "\n")
  let (standard, other) := packages.partition Package.isStandard
  if packages.isEmpty then ""
  else "\nimport (\n" ++ group standard ++
    (if standard.isEmpty || other.isEmpty then "" else "\n") ++ group other ++ ")\n"

def SourceUnit.render (unit : SourceUnit) : String :=
  generatedHeader ++ "\n\npackage " ++ unit.package ++ "\n" ++ renderImports unit.imports ++
    String.join (unit.declarations.map fun declaration => "\n" ++ declaration.render) ++
    String.join (unit.functions.map fun function => "\n" ++ function.render)

end ApiBindings
