import ApiBindings.Proofs.Unit.Parts
set_option autoImplicit false

namespace ApiBindings

open Layout (Edge Place Reads)

section

variable (stack : List Char)

theorem comma_separated_prints {α : Type} (edge : Edge) (f g : α → String) (items : List α)
    (each : ∀ item ∈ items, ∀ edge, Prints ⟨stack, edge⟩ (f item) (g item) ⟨stack, .solid⟩) (nonempty : items ≠ []) :
    Prints ⟨stack, edge⟩ (commaSeparated (items.map f)) (commaSeparated (items.map g)) ⟨stack, .solid⟩ := by
  induction items generalizing edge with
  | nil => exact absurd rfl nonempty
  | cons item others ih =>
      have first := each item List.mem_cons_self edge
      cases others with
      | nil => simpa [commaSeparated] using first
      | cons next rest =>
          unfold commaSeparated at ih ⊢
          rw [List.map_cons, List.map_cons, List.map_cons, List.map_cons, String.intercalate_cons_cons,
            String.intercalate_cons_cons]
          exact (first.append (.fixed [] .solid ", " [] .blank (by decide) stack)).append
            (ih .blank (fun other member => each other (List.mem_cons_of_mem _ member)) (List.cons_ne_nil _ _))

theorem arguments_prints {α : Type} (f g : α → String) (items : List α)
    (each : ∀ item ∈ items, ∀ edge, Prints ⟨stack, edge⟩ (f item) (g item) ⟨stack, .solid⟩) :
    Prints ⟨stack, .solid⟩ (commaSeparated (items.map f)) (commaSeparated (items.map g)) ⟨stack, .solid⟩ := by
  cases items with
  | nil => exact .empty
  | cons item others => exact comma_separated_prints stack .solid f g (item :: others) each (List.cons_ne_nil _ _)

theorem field_prints (field : Field) (spelled : field.Spelled) (type : field.type.Within TypeName) :
    Prints ⟨stack, .start⟩ field.render field.bare.render ⟨stack, .start⟩ := by
  have tag : Prints ⟨stack, .solid⟩ (tagPart field.tag) (tagPart field.bare.tag) ⟨stack, .solid⟩ := by
    rw [Field.bare]
    cases present : field.tag with
    | none => exact .empty
    | some tag =>
        exact (Prints.fixed [] .solid " " [] .blank (by decide) stack).append
          (tag_prints stack .blank tag (spelled.tag tag present))
  rw [field_render field, field_render field.bare]
  exact (((((doc_prints stack "\t" (by decide) field.doc).append
    (.fixed [] .start "\t" [] .blank (by decide) stack)).append
    (word_prints stack .blank field.name spelled.name)).append
    (.fixed [] .solid " " [] .blank (by decide) stack)).append
    (type_prints stack .blank field.type type)).append tag |>.append
    (.fixed [] .solid "\n" [] .start (by decide) stack)

theorem constant_prints (type : String) (typed : Naming.Word type) (constant : EnumConstant)
    (spelled : Naming.Word constant.name) :
    Prints ⟨stack, .start⟩ ("\t" ++ constant.name ++ " " ++ type ++ " = " ++ constant.value.render ++ "\n")
      ("\t" ++ constant.name ++ " " ++ type ++ " = " ++ constant.value.bare.render ++ "\n") ⟨stack, .start⟩ :=
  (((((Prints.fixed [] .start "\t" [] .blank (by decide) stack).append
    (word_prints stack .blank constant.name spelled)).append
    (.fixed [] .solid " " [] .blank (by decide) stack)).append
    (word_prints stack .blank type typed)).append
    (.fixed [] .solid " = " [] .blank (by decide) stack)).append
    (literal_prints stack .blank constant.value) |>.append
    (.fixed [] .solid "\n" [] .start (by decide) stack)

theorem constants_prints (type : String) (typed : Naming.Word type) (constants : List EnumConstant)
    (spelled : ∀ constant ∈ constants, Naming.Word constant.name) :
    Prints ⟨stack, .start⟩
      (String.join (constants.map fun constant =>
        "\t" ++ constant.name ++ " " ++ type ++ " = " ++ constant.value.render ++ "\n"))
      (String.join ((constants.map fun constant => { constant with value := constant.value.bare }).map fun constant =>
        "\t" ++ constant.name ++ " " ++ type ++ " = " ++ constant.value.render ++ "\n"))
      ⟨stack, .start⟩ := by
  rw [List.map_map]
  exact .joined _ _ constants fun constant member => constant_prints stack type typed constant (spelled constant member)

theorem fields_prints (fields : List Field) (spelled : ∀ field ∈ fields, field.Spelled)
    (types : ∀ field ∈ fields, field.type.Within TypeName) :
    Prints ⟨stack, .start⟩ (String.join (fields.map Field.render)) (String.join ((fields.map Field.bare).map Field.render))
      ⟨stack, .start⟩ := by
  rw [List.map_map]
  exact .joined _ _ fields fun field member => field_prints stack field (spelled field member) (types field member)

theorem shape_prints (name : String) (named : Naming.Word name) (shape : DeclarationShape) (spelled : shape.Spelled)
    (types : ∀ type ∈ shape.types, type.Within TypeName) :
    Prints ⟨stack, .start⟩ (shape.render name) (shape.bare.render name) ⟨stack, .start⟩ := by
  have header : Prints ⟨stack, .start⟩ ("type " ++ name) ("type " ++ name) ⟨stack, .solid⟩ :=
    (Prints.fixed [] .start "type " [] .blank (by decide) stack).append (word_prints stack .blank name named)
  have ending : Prints ⟨stack, .solid⟩ "\n" "\n" ⟨stack, .start⟩ := .fixed [] .solid "\n" [] .start (by decide) stack
  rcases shape with target | ⟨underlying, constants⟩ | fields | item | value | parameters
  · exact ((header.append (.fixed [] .solid " = " [] .blank (by decide) stack)).append
      (type_prints stack .blank target (types target List.mem_cons_self))).append ending
  · have line := ((header.append (.fixed [] .solid " " [] .blank (by decide) stack)).append
      (type_prints stack .blank underlying (types underlying List.mem_cons_self))).append ending
    refine line.append ?_
    rw [List.isEmpty_map]
    cases constants.isEmpty with
    | true => exact .empty
    | false =>
        exact ((Prints.fixed [] .start "\nconst (\n" ['('] .start (by decide) stack).append
          (constants_prints ('(' :: stack) name named constants spelled)).append
          (.fixed ['('] .start ")\n" [] .start (by decide) stack)
  · cases fields with
    | nil => exact header.append (.fixed [] .solid " struct\x7b\x7d\n" [] .start (by decide) stack)
    | cons field others =>
        refine ((header.append (.fixed [] .solid " struct \x7b\n" ['{'] .start (by decide) stack)).append ?_).append
          (.fixed ['{'] .start "\x7d\n" [] .start (by decide) stack)
        exact fields_prints ('{' :: stack) (field :: others) spelled fun other member =>
          types other.type (List.mem_map_of_mem member)
  · exact ((header.append (.fixed [] .solid " []" [] .solid (by decide) stack)).append
      (type_prints stack .solid item (types item List.mem_cons_self))).append ending
  · exact ((header.append (.fixed [] .solid " map[string]" [] .solid (by decide) stack)).append
      (type_prints stack .solid value (types value List.mem_cons_self))).append ending
  · exact ((header.append (.fixed [] .solid " func(" ['('] .solid (by decide) stack)).append
      (arguments_prints ('(' :: stack) _ _ parameters fun type member edge =>
        type_prints ('(' :: stack) edge type (types type member))).append
      (.fixed ['('] .solid ")\n" [] .start (by decide) stack)

theorem declaration_prints (d : Declaration) (spelled : d.Spelled) (types : ∀ type ∈ d.shape.types, type.Within TypeName) :
    Prints ⟨stack, .start⟩ d.render d.bare.render ⟨stack, .start⟩ :=
  (doc_prints stack "" (by decide) d.doc).append (shape_prints stack d.name spelled.name d.shape spelled.shape types)

theorem variable_prints (edge : Edge) (slot : Variable) (named : Naming.Word slot.name)
    (type : slot.type.Within TypeName) :
    Prints ⟨stack, edge⟩ slot.render slot.render ⟨stack, .solid⟩ := by
  have named := (word_prints stack edge slot.name named).append (.fixed [] .solid " " [] .blank (by decide) stack)
  unfold Variable.render
  cases slot.variadic with
  | true =>
      exact (named.append (.fixed [] .blank "..." [] .solid (by decide) stack)).append
        (type_prints stack .solid slot.type type)
  | false => exact (named.append .empty).append (type_prints stack .blank slot.type type)

theorem method_prints (edge : Edge) (method : Method) :
    Prints ⟨stack, edge⟩ method.constant method.constant ⟨stack, .solid⟩ := by
  cases method <;> exact type_name_prints stack edge _ (by decide)

theorem path_prints (path : PathExpr) (spelled : ∀ argument ∈ path.arguments, Naming.Word argument) :
    Prints ⟨stack, .blank⟩ (ClientCall.renderPath path) (ClientCall.renderPath { path with format := "" })
      ⟨stack, .solid⟩ := by
  unfold ClientCall.renderPath
  cases arguments : path.arguments with
  | nil => exact quoted_prints stack .blank path.format ""
  | cons argument others =>
      have separated : Prints ⟨'(' :: stack, .blank⟩ (commaSeparated (argument :: others))
          (commaSeparated (argument :: others)) ⟨'(' :: stack, .solid⟩ := by
        have each := comma_separated_prints ('(' :: stack) .blank id id (argument :: others)
          (fun other member edge => word_prints _ edge other (spelled other (arguments ▸ member))) (List.cons_ne_nil _ _)
        rwa [List.map_id] at each
      exact ((((Prints.fixed [] .blank "fmt.Sprintf(" ['('] .solid (by decide) stack).append
        (quoted_prints ('(' :: stack) .solid path.format "")).append
        (.fixed [] .solid ", " [] .blank (by decide) ('(' :: stack))).append separated).append
        (.fixed ['('] .solid ")" [] .solid (by decide) stack)

theorem call_prints (call : ClientCall) (spelled : call.Spelled) (type : call.response.type.Within TypeName) :
    Prints ⟨stack, .start⟩ call.render { call with path := { call.path with format := "" } : ClientCall }.render
      ⟨stack, .start⟩ := by
  have chosen (byPointer : Bool) : ∃ value onError, (if byPointer then ("&out", "nil") else ("out", "out")) = (value, onError) ∧
      Prints ⟨stack, .blank⟩ value value ⟨stack, .solid⟩ ∧
      Prints ⟨'{' :: stack, .blank⟩ onError onError ⟨'{' :: stack, .solid⟩ := by
    cases byPointer with
    | true => exact ⟨_, _, rfl, .fixed [] .blank _ [] .solid (by decide) stack, .fixed [] .blank _ [] .solid (by decide) _⟩
    | false => exact ⟨_, _, rfl, .fixed [] .blank _ [] .solid (by decide) stack, .fixed [] .blank _ [] .solid (by decide) _⟩
  obtain ⟨value, onError, returned, valued, failed⟩ := chosen call.response.byPointer
  have body : Prints ⟨'(' :: stack, .blank⟩ (call.body.getD "nil") (call.body.getD "nil") ⟨'(' :: stack, .solid⟩ := by
    cases given : call.body with
    | none => exact .fixed [] .blank "nil" [] .solid (by decide) _
    | some body => exact word_prints _ .blank body (spelled.body body given)
  have options : Prints ⟨stack, .start⟩ (optionsPart call.options) (optionsPart call.options) ⟨stack, .start⟩ := by
    cases given : call.options with
    | none => exact .empty
    | some options =>
        exact ((Prints.fixed [] .start _ [] .blank (by decide) stack).append
          (word_prints stack .blank options (spelled.options options given))).append
          (.fixed [] .solid _ [] .start (by decide) stack)
  have request :=
    ((((((((Prints.fixed [] .start "\tvar out " [] .blank (by decide) stack).append
      (type_prints stack .blank call.response.type type)).append
      (.fixed [] .solid "\n\tpath := " [] .blank (by decide) stack)).append
      (path_prints stack call.path spelled.arguments)).append
      (.fixed [] .solid "\n\treq, err := c.newRequest(ctx, " ['('] .blank (by decide) stack)).append
      (method_prints ('(' :: stack) .blank call.method)).append
      (.fixed [] .solid ", path, " [] .blank (by decide) ('(' :: stack))).append body)
  have requested := ((request.append
    (.fixed ['('] .solid ")\n\tif err != nil \x7b\n\t\treturn " ['{'] .blank (by decide) stack)).append failed).append
    (.fixed ['{'] .solid ", err\n\t\x7d\n" [] .start (by decide) stack)
  have answered := (((requested.append options).append
    (.fixed [] .start "\tif err := c.do(req, &out); err != nil \x7b\n\t\treturn " ['{'] .blank (by decide) stack)).append
    failed).append (.fixed ['{'] .solid ", err\n\t\x7d\n\treturn " [] .blank (by decide) stack)
  have printed := (answered.append valued).append (.fixed [] .solid ", nil\n" [] .start (by decide) stack)
  rw [call_render call value onError returned,
    call_render { call with path := { call.path with format := "" } } value onError returned]
  exact printed

theorem query_option_prints (wire : String) (repeated : Bool) :
    Prints ⟨stack, .start⟩ (renderQueryOption wire repeated) (renderQueryOption "" repeated) ⟨stack, .start⟩ := by
  have opening : Prints ⟨stack, .start⟩ "\treturn func(q url.Values) \x7b\n" "\treturn func(q url.Values) \x7b\n"
      ⟨'{' :: stack, .start⟩ := .fixed [] .start _ ['{'] .start (by decide) stack
  have closing : Prints ⟨'{' :: stack, .start⟩ "\t\x7d\n" "\t\x7d\n" ⟨stack, .start⟩ :=
    .fixed ['{'] .start _ [] .start (by decide) stack
  unfold renderQueryOption
  cases repeated with
  | true =>
      exact (opening.append (((Prints.fixed [] .start _ ['(', '{'] .solid (by decide) ('{' :: stack)).append
        (quoted_prints ('(' :: '{' :: '{' :: stack) .solid wire "")).append
        (.fixed ['(', '{'] .solid _ [] .start (by decide) ('{' :: stack)))).append closing
  | false =>
      exact (opening.append (((Prints.fixed [] .start _ ['('] .solid (by decide) ('{' :: stack)).append
        (quoted_prints ('(' :: '{' :: stack) .solid wire "")).append
        (.fixed ['('] .solid _ [] .start (by decide) ('{' :: stack)))).append closing

theorem condition_prints (field : FinderField) (named : Naming.Word field.name) :
    Prints ⟨stack, .blank⟩ field.condition field.condition ⟨stack, .solid⟩ := by
  have access (stack : List Char) (edge : Edge) :
      Prints ⟨stack, edge⟩ ("item." ++ field.name) ("item." ++ field.name) ⟨stack, .solid⟩ :=
    (Prints.fixed [] edge "item." [] .solid (by cases edge <;> decide) stack).append (word_prints stack .solid _ named)
  obtain ⟨name, pointer, isString⟩ := field
  have compared (value : String) (prints : ∀ stack edge, Prints ⟨stack, edge⟩ value value ⟨stack, .solid⟩) :
      Prints ⟨stack, .blank⟩ ((if isString then value else "fmt.Sprint(" ++ value ++ ")") ++ " == nameOrID")
        ((if isString then value else "fmt.Sprint(" ++ value ++ ")") ++ " == nameOrID") ⟨stack, .solid⟩ := by
    refine Prints.append ?_ (.fixed [] .solid " == nameOrID" [] .solid (by decide) stack)
    cases isString with
    | true => exact prints stack .blank
    | false =>
        exact ((Prints.fixed [] .blank "fmt.Sprint(" ['('] .solid (by decide) stack).append (prints _ .solid)).append
          (.fixed ['('] .solid ")" [] .solid (by decide) stack)
  cases pointer with
  | true =>
      exact ((access stack .blank).append (.fixed [] .solid " != nil && " [] .blank (by decide) stack)).append
        (compared _ fun stack edge =>
          (Prints.fixed [] edge "*" [] .solid (by cases edge <;> decide) stack).append (access stack .solid))
  | false => exact compared _ access

theorem finder_prints (finder : Finder) (spelled : finder.Spelled) :
    Prints ⟨stack, .start⟩ finder.render { finder with kind := "" : Finder }.render ⟨stack, .start⟩ := by
  have list := word_prints stack .solid finder.list spelled.list
  have test (field : FinderField) (named : Naming.Word field.name) : Prints ⟨'{' :: stack, .start⟩
      ("\t\tif " ++ field.condition ++ " \x7b\n\t\t\treturn item, nil\n\t\t\x7d\n")
      ("\t\tif " ++ field.condition ++ " \x7b\n\t\t\treturn item, nil\n\t\t\x7d\n") ⟨'{' :: stack, .start⟩ :=
    ((Prints.fixed [] .start "\t\tif " [] .blank (by decide) ('{' :: stack)).append
      (condition_prints ('{' :: stack) field named)).append (.fixed [] .solid _ [] .start (by decide) ('{' :: stack))
  exact ((((((((Prints.fixed [] .start "\tfor i := range r." [] .solid (by decide) stack).append list).append
    (.fixed [] .solid " \x7b\n\t\titem := &r." ['{'] .solid (by decide) stack)).append
    (word_prints _ .solid finder.list spelled.list)).append
    (.fixed [] .solid "[i]\n" [] .start (by decide) _)).append
    (test finder.byName spelled.byName)).append (test finder.byId spelled.byId)).append
    (.fixed ['{'] .start "\t\x7d\n\treturn nil, &NotFoundError\x7bKind: " ['{'] .blank (by decide) stack)).append
    (quoted_prints _ .blank finder.kind "") |>.append
    (.fixed ['{'] .solid ", Key: nameOrID\x7d\n" [] .start (by decide) stack)

theorem body_prints (body : FunctionBody) (spelled : body.Spelled) (types : ∀ type ∈ body.types, type.Within TypeName) :
    Prints ⟨stack, .start⟩ body.render body.bare.render ⟨stack, .start⟩ := by
  cases body with
  | call request => exact call_prints stack request spelled (types _ List.mem_cons_self)
  | queryOption wire repeated => exact query_option_prints stack wire repeated
  | finder search => exact finder_prints stack search spelled
  | notFoundMessage =>
      have parts : FunctionBody.notFoundMessage.render =
          "\treturn fmt.Sprintf(" ++ quoted "%s %q not found" ++ ", e.Kind, e.Key)\n" := by decide
      rw [FunctionBody.bare, parts]
      exact ((Prints.fixed [] .start _ ['('] .solid (by decide) stack).append
        (quoted_prints ('(' :: stack) .solid _ _)).append (.fixed ['('] .solid _ [] .start (by decide) stack)

theorem results_prints (results : List TypeExpr) (types : ∀ type ∈ results, type.Within TypeName) :
    Prints ⟨stack, .solid⟩ (renderResults results) (renderResults results) ⟨stack, .solid⟩ := by
  unfold renderResults
  split
  next => exact .empty
  next single =>
    exact (Prints.fixed [] .solid " " [] .blank (by decide) stack).append
      (type_prints stack .blank single (types single List.mem_cons_self))
  next =>
    exact ((Prints.fixed [] .solid " (" ['('] .solid (by decide) stack).append
      (arguments_prints ('(' :: stack) _ _ results fun type member edge => type_prints _ edge type (types type member))).append
      (.fixed ['('] .solid ")" [] .solid (by decide) stack)

theorem function_prints (f : Function) (spelled : f.Spelled) (within : f.Within TypeName) :
    Prints ⟨stack, .start⟩ f.render f.bare.render ⟨stack, .start⟩ := by
  have receiver : Prints ⟨stack, .blank⟩ (receiverPart f.receiver) (receiverPart f.receiver) ⟨stack, .blank⟩ := by
    cases given : f.receiver with
    | none => exact .empty
    | some slot =>
        have type : slot.type.Within TypeName := within slot.type (by simp [Function.mentioned, given])
        exact ((((Prints.fixed [] .blank "(" ['('] .solid (by decide) stack).append
          (word_prints _ .solid slot.name (spelled.receiver slot given))).append
          (.fixed [] .solid " " [] .blank (by decide) _)).append (type_prints _ .blank slot.type type)).append
          (.fixed ['('] .solid ") " [] .blank (by decide) stack)
  have parameters := arguments_prints ('(' :: stack) Variable.render Variable.render f.parameters fun slot member edge =>
    variable_prints _ edge slot (spelled.parameters slot member)
      (within slot.type (by simp [Function.mentioned, Function.types, List.mem_map_of_mem member]))
  have results := results_prints stack f.results fun type member =>
    within type (by simp [Function.mentioned, Function.types, member])
  have body := body_prints ('{' :: stack) f.body spelled.body fun type member =>
    within type (by simp [Function.mentioned, member])
  rw [function_render f, function_render f.bare]
  exact (((((((((doc_prints stack "" (by decide) f.doc).append
    (.fixed [] .start "func " [] .blank (by decide) stack)).append receiver).append
    (word_prints stack .blank f.name spelled.name)).append
    (.fixed [] .solid "(" ['('] .solid (by decide) stack)).append parameters).append
    (.fixed ['('] .solid ")" [] .solid (by decide) stack)).append results).append
    (.fixed [] .solid " \x7b\n" ['{'] .start (by decide) stack)).append body |>.append
    (.fixed ['{'] .start "\x7d\n" [] .start (by decide) stack)

theorem imports_prints (packages : List Package) :
    Prints ⟨stack, .start⟩ (renderImports packages) (renderImports packages) ⟨stack, .start⟩ := by
  have group (packages : List Package) : Prints ⟨'(' :: stack, .start⟩
      (String.join (packages.map fun package => "\t" ++ quoted package.path ++ "\n"))
      (String.join (packages.map fun package => "\t" ++ quoted package.path ++ "\n")) ⟨'(' :: stack, .start⟩ :=
    .joined _ _ packages fun package _ =>
      ((Prints.fixed [] .start "\t" [] .blank (by decide) _).append (quoted_prints _ .blank package.path _)).append
        (.fixed [] .solid "\n" [] .start (by decide) _)
  unfold renderImports
  dsimp only
  split
  next => exact .empty
  next =>
    have between (none : Bool) : Prints ⟨'(' :: stack, .start⟩ (if none then "" else "\n") (if none then "" else "\n")
        ⟨'(' :: stack, .start⟩ := by
      cases none with
      | true => exact .empty
      | false => exact .fixed [] .start "\n" [] .start (by decide) _
    exact ((((Prints.fixed [] .start "\nimport (\n" ['('] .start (by decide) stack).append (group _)).append
      (between _)).append (group _)).append (.fixed ['('] .start ")\n" [] .start (by decide) stack)

end

theorem header_prints :
    Prints ⟨[], .start⟩ (generatedHeader ++ "\n\npackage ") (generatedHeader ++ "\n\npackage ") ⟨[], .blank⟩ := by
  have parts : (generatedHeader ++ "\n\npackage ").toList =
      ([] ++ '/' :: '/' :: " Code generated by oasgo. DO NOT EDIT.".toList ++ ['\n']) ++ "\npackage ".toList := by
    decide
  have package : Reads ⟨[], .start⟩ "\npackage ".toList "\npackage ".toList ⟨[], .blank⟩ :=
    Layout.walk_reads _ _ _ (by decide)
  have header : Reads ⟨[], .start⟩ ([] ++ '/' :: '/' :: " Code generated by oasgo. DO NOT EDIT.".toList ++ ['\n']) []
      ⟨[], .start⟩ := .comment (List.forall_mem_nil _) (by decide)
  have reads := header.append package
  rw [← parts] at reads
  exact .same reads

theorem unit_prints (unit : SourceUnit) (spelled : unit.Spelled) :
    Prints ⟨[], .start⟩ unit.render unit.bare.render ⟨[], .start⟩ := by
  have feed : Prints ⟨[], .start⟩ "\n" "\n" ⟨[], .start⟩ := .fixed [] .start "\n" [] .start (by decide) []
  have package := (header_prints.append (word_prints [] .blank unit.package spelled.package)).append
    (.fixed [] .solid "\n" [] .start (by decide) [])
  have declarations : Prints ⟨[], .start⟩ (String.join (unit.declarations.map fun d => "\n" ++ d.render))
      (String.join (unit.bare.declarations.map fun d => "\n" ++ d.render)) ⟨[], .start⟩ := by
    rw [SourceUnit.bare, List.map_map]
    exact .joined _ _ unit.declarations fun d member => feed.append
      (declaration_prints [] d (spelled.declarations d member) (spelled.types.declarations d member))
  have functions : Prints ⟨[], .start⟩ (String.join (unit.functions.map fun f => "\n" ++ f.render))
      (String.join (unit.bare.functions.map fun f => "\n" ++ f.render)) ⟨[], .start⟩ := by
    rw [SourceUnit.bare, List.map_map]
    exact .joined _ _ unit.functions fun f member => feed.append
      (function_prints [] f (spelled.functions f member) (spelled.types.functions f member))
  rw [SourceUnit.render, SourceUnit.render, bare_imports]
  exact ((package.append (imports_prints [] unit.imports)).append declarations).append functions

theorem unit_formats (unit : SourceUnit) (spelled : unit.Spelled) :
    ∃ formatted, Layout.format unit.render.toList = .ok formatted ∧
      Layout.codeLines formatted = Layout.codeLines unit.render.toList ∧
      (Layout.codeLines unit.render.toList).map Layout.outsideLiterals =
        (Layout.codeLines unit.bare.render.toList).map Layout.outsideLiterals := by
  obtain ⟨code, reads, readsBare⟩ := unit_prints unit spelled
  obtain ⟨lines, trimmed⟩ := Layout.reads_lines _ _ _ _ reads
  obtain ⟨bareLines, _⟩ := Layout.reads_lines _ _ _ _ readsBare
  refine ⟨_, by rw [Layout.format, Layout.reads_check _ _ _ reads], ?_, lines.trans bareLines.symm⟩
  rw [Layout.tidy_code_lines, List.map_congr_left trimmed, List.map_id']

end ApiBindings
