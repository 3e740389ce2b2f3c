import ApiBindings.Operation.Compilation
import ApiBindings.Proofs.Rendering.Rendered
set_option autoImplicit false

namespace ApiBindings

inductive ParameterTyped (components : Components) (hint : String) :
    Option Schema → SourceUnit → TypeExpr → SourceUnit → Prop where
  | given {s : Schema} {type : TypeExpr} {before after : SourceUnit}
      (rendered : Rendered components (.element {} hint s type) before after) :
      ParameterTyped components hint (some s) before type after
  | text {unit : SourceUnit} : ParameterTyped components hint none unit (.named "string") unit

inductive PathTyped (components : Components) (operation : String) :
    List BoundParameter → SourceUnit → List Variable → SourceUnit → Prop where
  | none {unit : SourceUnit} : PathTyped components operation [] unit [] unit
  | next {bound : BoundParameter} {rest : List BoundParameter} {type : TypeExpr} {others : List Variable}
      {before middle after : SourceUnit}
      (typed : ParameterTyped components (operation ++ Naming.exported bound.wire) bound.parameter.schema before type
        middle)
      (later : PathTyped components operation rest middle others after) :
      PathTyped components operation (bound :: rest) before ({ name := bound.ident, type } :: others) after

inductive PayloadTyped (components : Components) (operation role : String) (s : Schema) :
    SourceUnit → Payload → SourceUnit → Prop where
  | component {path name : String} {isObject : Bool} {unit : SourceUnit} (bare : s.bareReference = some path)
      (named : components.typeName path = .ok name) (kind : components.isObjectRef s = .ok isObject) :
      PayloadTyped components operation role s unit { type := .named name, isObject } unit
  | list {path name : String} {unit : SourceUnit} (inline : s.bareReference = none)
      (items : s.arrayOfReference = some path) (named : components.typeName path = .ok name) :
      PayloadTyped components operation role s unit { type := .slice (.named name), isObject := false } unit
  | declared {name : String} {before middle after : SourceUnit} (inline : s.bareReference = none)
      (single : s.arrayOfReference = none) (claimed : before.claim (operation ++ role) = (name, middle))
      (rendered : Rendered components (.declaration (Guard.enter {} s name) name s) middle after) :
      PayloadTyped components operation role s before
        { type := .named name, isObject := after.isRecord name, declared := some name } after

inductive BodyTyped (components : Components) (operation : String) :
    Option Schema → SourceUnit → Option Payload → SourceUnit → Prop where
  | none {unit : SourceUnit} : BodyTyped components operation none unit none unit
  | some {s : Schema} {body : Payload} {before after : SourceUnit}
      (typed : PayloadTyped components operation "Request" s before body after) :
      BodyTyped components operation (some s) before (some body) after

inductive OptionClaimed (operation : String) (query : List Parameter) :
    SourceUnit → Option String → SourceUnit → Prop where
  | none {unit : SourceUnit} (absent : query = []) : OptionClaimed operation query unit none unit
  | some {option : String} {before after : SourceUnit} (present : query ≠ [])
      (claimed : before.claim (optionTypeName operation) = (option, after)) :
      OptionClaimed operation query before (some option) after

inductive Constructed (components : Components) (operation option : String) :
    Names → List Parameter → SourceUnit → SourceUnit → Prop where
  | none {names : Names} {unit : SourceUnit} : Constructed components operation option names [] unit unit
  | next {names others : Names} {parameter : Parameter} {rest : List Parameter} {suffix : String} {type : TypeExpr}
      {before middle after : SourceUnit} (claimed : names.claim (Naming.exported parameter.name) = (suffix, others))
      (typed : ParameterTyped components (operation ++ suffix) parameter.schema before type middle)
      (later : Constructed components operation option others rest
        (middle.push (optionConstructor operation option suffix parameter type)) after) :
      Constructed components operation option names (parameter :: rest) before after

inductive OptionsDeclared (components : Components) (operation : String) (query : List Parameter) :
    Option String → SourceUnit → SourceUnit → Prop where
  | none {unit : SourceUnit} : OptionsDeclared components operation query none unit unit
  | some {option : String} {before middle after : SourceUnit}
      (declared : before.declare (optionDeclaration operation option) = .ok middle)
      (constructed : Constructed components operation option {} query middle after) :
      OptionsDeclared components operation query (some option) before after

inductive FinderPlanned (components : Components) (fields : List Field) (response : Schema) : FinderPlan → Prop where
  | found {target item items : Schema} {properties others : List (String × Schema)} {first : String × Schema}
      {wire : String} {list : Field} {type : TypeExpr} {byName byId : FinderField}
      (stripped : response.effective = .ok target) (object : target.properties = some properties)
      (single : listProperties components properties = .ok [(wire, items)])
      (resolved : components.resolve items = .ok item) (classified : item.classify = .ok (.object (first :: others)))
      (field : fields.find? (fun field => field.tag.map (·.wire) == some wire) = some list)
      (typed : itemType components list.type items = .ok (some type))
      (named : finderField components item (fieldNames {} (first :: others)) "name" = .ok (some byName))
      (identified : finderField components item (fieldNames {} (first :: others)) "id" = .ok (some byId)) :
      FinderPlanned components fields response
        { singular := Naming.singular (Naming.pascal wire)
          item := type
          finder := { list := list.name, kind := Naming.singular wire, byName, byId } }

inductive NotFoundDeclared : SourceUnit → SourceUnit → Prop where
  | known {unit : SourceUnit} (present : (unit.find? notFoundName).isSome = true) : NotFoundDeclared unit unit
  | new {before after : SourceUnit} (absent : before.find? notFoundName = none)
      (declared : before.declare notFoundDeclaration = .ok after) :
      NotFoundDeclared before (after.push notFoundMethod)

inductive FinderDeclared (components : Components) (operation responseName : String) (response : Schema) :
    SourceUnit → SourceUnit → Prop where
  | none {unit : SourceUnit} : FinderDeclared components operation responseName response unit unit
  | found {doc : Option String} {fields : List Field} {name : String} {plan : FinderPlan} {before middle : SourceUnit}
      (record : before.find? responseName = some { name, doc, shape := .record fields })
      (planned : FinderPlanned components fields response plan) (error : NotFoundDeclared before middle) :
      FinderDeclared components operation responseName response before
        (middle.push (finderMethod responseName plan))

inductive ResponseSearched (components : Components) (operation : String) (s : Schema) (response : Payload) :
    SourceUnit → SourceUnit → Prop where
  | skipped {unit : SourceUnit} : ResponseSearched components operation s response unit unit
  | searched {name : String} {before after : SourceUnit} (declared : response.declared = some name)
      (record : response.isObject = true) (finder : FinderDeclared components operation name s before after) :
      ResponseSearched components operation s response before after

inductive Compiled (components : Components) (earlier : List String) (entry : Document.Entry) :
    SourceUnit → Outcome → SourceUnit → Prop where
  | skipped {unit : SourceUnit} (fresh : entry.name ∉ earlier) (missing : entry.operation.responseSchema = none) :
      Compiled components earlier entry unit
        (.skipped {
          name := entry.name
          method := entry.method
          path := entry.path
          reason := "no JSON content for status 200" }) unit
  | emitted {responseSchema : Schema} {parameters : List Parameter} {inPath : List Variable} {body : Option Payload}
      {option : Option String} {response : Payload} {path : PathExpr}
      {before first second third fourth fifth after : SourceUnit} (fresh : entry.name ∉ earlier)
      (responded : entry.operation.responseSchema = some responseSchema)
      (merged : mergedParameters components entry.item entry.operation = .ok parameters)
      (pathTyped : PathTyped components entry.name (bindPathParameters {} parameters) before inPath first)
      (bodyTyped : BodyTyped components entry.name entry.operation.bodySchema first body second)
      (optionClaimed : OptionClaimed entry.name (parameters.filter (·.location = "query")) second option third)
      (responseTyped : PayloadTyped components entry.name "Response" responseSchema third response fourth)
      (template : PathExpr.ofTemplate entry.path (bindPathParameters {} parameters) = .ok path)
      (optionsDeclared : OptionsDeclared components entry.name (parameters.filter (·.location = "query")) option
        (fourth.push (clientMethod entry path inPath body option response)) fifth)
      (searched : ResponseSearched components entry.name responseSchema response fifth after) :
      Compiled components earlier entry before
        (.emitted {
          method := entry.method
          path := entry.path
          signature := clientMethod entry path inPath body option response }) after

theorem path_variables_typed (components : Components) (operation : String) (bound : List BoundParameter)
    (before after : SourceUnit) (inPath : List Variable)
    (done : (pathVariables components operation bound).result before = (.ok inPath, after)) :
    PathTyped components operation bound before inPath after := by
  induction bound generalizing before inPath with
  | nil =>
      obtain ⟨rfl, rfl⟩ := Build.pure_ok _ _ _ _ done
      exact .none
  | cons first rest ih =>
      suffices typed : ∃ type middle others,
          ParameterTyped components (operation ++ Naming.exported first.wire) first.parameter.schema before type middle ∧
          (pathVariables components operation rest).result middle = (.ok others, after) ∧
          inPath = { name := first.ident, type } :: others by
        obtain ⟨type, middle, others, typed, ran, rfl⟩ := typed
        exact .next typed (ih middle others ran)
      unfold pathVariables at done
      split at done
      next s given =>
        obtain ⟨type, middle, valued, continued⟩ := Build.bind_ok _ _ _ _ _ done
        obtain ⟨others, last, ran, returned⟩ := Build.bind_ok _ _ _ _ _ continued
        obtain ⟨rfl, rfl⟩ := Build.pure_ok _ _ _ _ returned
        have rendered := value_type_rendered components _ s before middle type valued
        exact ⟨type, middle, others, given ▸ .given rendered, ran, rfl⟩
      next missing =>
        obtain ⟨type, middle, valued, continued⟩ := Build.bind_ok _ _ _ _ _ done
        obtain ⟨rfl, rfl⟩ := Build.pure_ok _ _ _ _ valued
        obtain ⟨others, last, ran, returned⟩ := Build.bind_ok _ _ _ _ _ continued
        obtain ⟨rfl, rfl⟩ := Build.pure_ok _ _ _ _ returned
        exact ⟨_, before, others, missing ▸ .text, ran, rfl⟩

theorem payload_typed (components : Components) (operation role : String) (s : Schema) (before after : SourceUnit)
    (result : Payload) (done : (payload components operation role s).result before = (.ok result, after)) :
    PayloadTyped components operation role s before result after := by
  unfold payload at done
  split at done
  next path bare =>
    obtain ⟨name, middle, named, continued⟩ := Build.bind_ok _ _ _ _ _ done
    obtain ⟨typed, rfl⟩ := Build.check_ok _ _ _ _ _ named
    obtain ⟨isObject, last, kind, returned⟩ := Build.bind_ok _ _ _ _ _ continued
    obtain ⟨shaped, rfl⟩ := Build.check_ok _ _ _ _ _ kind
    obtain ⟨rfl, rfl⟩ := Build.pure_ok _ _ _ _ returned
    exact .component bare typed shaped
  next inline =>
    split at done
    next path items =>
      obtain ⟨name, middle, named, returned⟩ := Build.bind_ok _ _ _ _ _ done
      obtain ⟨typed, rfl⟩ := Build.check_ok _ _ _ _ _ named
      obtain ⟨rfl, rfl⟩ := Build.pure_ok _ _ _ _ returned
      exact .list inline items typed
    next single =>
      obtain ⟨name, middle, claimed, continued⟩ := Build.bind_ok _ _ _ _ _ done
      obtain ⟨_, last, rendered, finished⟩ := Build.bind_ok _ _ _ _ _ continued
      rw [Build.result_get_bind] at finished
      obtain ⟨rfl, rfl⟩ := Build.pure_ok _ _ _ _ finished
      exact .declared inline single (Build.claim_ok _ _ _ _ claimed)
        (render_rendered components name s middle last rendered)

theorem push_constructors_constructed (components : Components) (operation option : String) (names : Names)
    (query : List Parameter) (before after : SourceUnit)
    (done : (pushConstructors components operation option names query).result before = (.ok (), after)) :
    Constructed components operation option names query before after := by
  induction query generalizing names before with
  | nil =>
      obtain ⟨_, rfl⟩ := Build.pure_ok _ _ _ _ done
      exact .none
  | cons parameter rest ih =>
      suffices typed : ∃ type middle,
          ParameterTyped components (operation ++ (names.claim (Naming.exported parameter.name)).1) parameter.schema before
            type middle ∧
          (pushConstructors components operation option (names.claim (Naming.exported parameter.name)).2 rest).result
            (middle.push (optionConstructor operation option (names.claim (Naming.exported parameter.name)).1 parameter
              type)) = (.ok (), after) by
        obtain ⟨type, middle, typed, ran⟩ := typed
        exact .next rfl typed (ih _ _ ran)
      unfold pushConstructors at done
      dsimp only at done
      split at done
      next s given =>
        obtain ⟨type, middle, valued, continued⟩ := Build.bind_ok _ _ _ _ _ done
        obtain ⟨_, last, pushed, ran⟩ := Build.bind_ok _ _ _ _ _ continued
        obtain rfl := Build.push_ok _ _ _ pushed
        have rendered := value_type_rendered components _ s before middle type valued
        exact ⟨type, middle, given ▸ .given rendered, ran⟩
      next missing =>
        obtain ⟨type, middle, valued, continued⟩ := Build.bind_ok _ _ _ _ _ done
        obtain ⟨rfl, rfl⟩ := Build.pure_ok _ _ _ _ valued
        obtain ⟨_, last, pushed, ran⟩ := Build.bind_ok _ _ _ _ _ continued
        obtain rfl := Build.push_ok _ _ _ pushed
        exact ⟨_, before, missing ▸ .text, ran⟩

theorem plan_finder_planned (components : Components) (fields : List Field) (responseName : String) (response : Schema)
    (plan : FinderPlan) (done : planFinder components fields responseName response = .ok (some plan)) :
    FinderPlanned components fields response plan := by
  unfold planFinder at done
  dsimp only at done
  obtain ⟨target, stripped, done⟩ := except_bind_ok _ _ _ done
  split at done
  next => cases done
  next properties object =>
    obtain ⟨lists, single, done⟩ := except_bind_ok _ _ _ done
    split at done
    next wire items =>
      obtain ⟨item, resolved, done⟩ := except_bind_ok _ _ _ done
      obtain ⟨shape, classified, done⟩ := except_bind_ok _ _ _ done
      split at done
      next first others =>
        split at done
        next => cases done
        next list field =>
          obtain ⟨found, typed, done⟩ := except_bind_ok _ _ _ done
          split at done
          next => cases done
          next type =>
            obtain ⟨nameField, named, done⟩ := except_bind_ok _ _ _ done
            obtain ⟨idField, identified, done⟩ := except_bind_ok _ _ _ done
            split at done
            next byName byId =>
              obtain rfl := Option.some.inj (Except.ok.inj done)
              exact .found (map_error_ok _ _ _ stripped) object (map_error_ok _ _ _ single)
                (map_error_ok _ _ _ resolved) (map_error_ok _ _ _ classified) field (map_error_ok _ _ _ typed)
                (map_error_ok _ _ _ named) (map_error_ok _ _ _ identified)
            next => cases done
      next => cases done
    next => cases done

theorem declare_not_found_declared (before after : SourceUnit)
    (done : declareNotFound.result before = (.ok (), after)) : NotFoundDeclared before after := by
  unfold declareNotFound at done
  rw [Build.result_get_bind] at done
  split at done
  next absent =>
    obtain ⟨_, middle, declared, pushed⟩ := Build.bind_ok _ _ _ _ _ done
    obtain rfl := Build.push_ok _ _ _ pushed
    exact .new (Option.isNone_iff_eq_none.mp absent) (Build.declare_ok _ _ _ declared)
  next present =>
    obtain ⟨_, rfl⟩ := Build.pure_ok _ _ _ _ done
    exact .known (by simpa [Option.isSome_iff_ne_none] using present)

theorem declare_finder_declared (components : Components) (operation responseName : String) (response : Schema)
    (before after : SourceUnit)
    (done : (declareFinder components operation responseName response).result before = (.ok (), after)) :
    FinderDeclared components operation responseName response before after := by
  unfold declareFinder at done
  split at done
  next =>
    obtain ⟨_, rfl⟩ := Build.pure_ok _ _ _ _ done
    exact .none
  next =>
    rw [Build.result_get_bind] at done
    split at done
    next name doc fields record =>
      split at done
      next => exact (Build.throw_ok _ _ _ _ done).elim
      next =>
        obtain ⟨_, rfl⟩ := Build.pure_ok _ _ _ _ done
        exact .none
      next plan planned =>
        obtain ⟨_, middle, error, pushed⟩ := Build.bind_ok _ _ _ _ _ done
        obtain rfl := Build.push_ok _ _ _ pushed
        exact .found record (plan_finder_planned components fields responseName response plan planned)
          (declare_not_found_declared before middle error)
    next =>
      obtain ⟨_, rfl⟩ := Build.pure_ok _ _ _ _ done
      exact .none

theorem body_payload_typed (components : Components) (operation : String) (schema : Option Schema)
    (before after : SourceUnit) (body : Option Payload)
    (done : (bodyPayload components operation schema).result before = (.ok body, after)) :
    BodyTyped components operation schema before body after := by
  cases schema with
  | none =>
      obtain ⟨rfl, rfl⟩ := Build.pure_ok _ _ _ _ done
      exact .none
  | some s =>
      obtain ⟨typed, ran, rfl⟩ := Build.map_ok _ _ _ _ _ done
      exact .some (payload_typed components operation "Request" s before after typed ran)

theorem claim_option_claimed (operation : String) (query : List Parameter) (before after : SourceUnit)
    (option : Option String) (done : (claimOption operation query).result before = (.ok option, after)) :
    OptionClaimed operation query before option after := by
  unfold claimOption at done
  split at done
  next absent =>
    obtain ⟨rfl, rfl⟩ := Build.pure_ok _ _ _ _ done
    exact .none (List.isEmpty_iff.mp absent)
  next present =>
    obtain ⟨name, claimed, rfl⟩ := Build.map_ok _ _ _ _ _ done
    exact .some (fun empty => present (List.isEmpty_iff.mpr empty)) (Build.claim_ok _ _ _ _ claimed)

theorem declare_options_declared (components : Components) (operation : String) (query : List Parameter)
    (option : Option String) (before after : SourceUnit)
    (done : (declareOptionsOf components operation query option).result before = (.ok (), after)) :
    OptionsDeclared components operation query option before after := by
  cases option with
  | none =>
      obtain ⟨_, rfl⟩ := Build.pure_ok _ _ _ _ done
      exact .none
  | some option =>
      obtain ⟨_, middle, declared, constructed⟩ := Build.bind_ok _ _ _ _ _ done
      exact .some (Build.declare_ok _ _ _ declared)
        (push_constructors_constructed components operation option {} query middle after constructed)

theorem declare_finder_searched (components : Components) (operation : String) (response : Payload) (s : Schema)
    (before after : SourceUnit)
    (done : (declareFinderOf components operation response s).result before = (.ok (), after)) :
    ResponseSearched components operation s response before after := by
  unfold declareFinderOf at done
  split at done
  next name declared =>
    split at done
    next record => exact .searched declared record (declare_finder_declared components operation name s before after done)
    next =>
      obtain ⟨_, rfl⟩ := Build.pure_ok _ _ _ _ done
      exact .skipped
  next =>
    obtain ⟨_, rfl⟩ := Build.pure_ok _ _ _ _ done
    exact .skipped

theorem compile_operation_compiled (components : Components) (earlier : List String) (entry : Document.Entry)
    (before after : SourceUnit) (outcome : Outcome)
    (done : (compileOperation components earlier entry).result before = (.ok outcome, after)) :
    Compiled components earlier entry before outcome after := by
  unfold compileOperation at done
  dsimp only at done
  split at done
  next => exact (Build.throw_ok _ _ _ _ done).elim
  next fresh =>
    split at done
    next missing =>
      obtain ⟨rfl, rfl⟩ := Build.pure_ok _ _ _ _ done
      exact .skipped fresh missing
    next responseSchema responded =>
      obtain ⟨parameters, start, checked, ran⟩ := Build.bind_ok _ _ _ _ _ done
      obtain ⟨merged, rfl⟩ := Build.check_ok _ _ _ _ _ checked
      obtain ⟨inPath, first, path, ran⟩ := Build.bind_ok _ _ _ _ _ ran
      obtain ⟨body, second, typed, ran⟩ := Build.bind_ok _ _ _ _ _ ran
      obtain ⟨option, third, claimed, ran⟩ := Build.bind_ok _ _ _ _ _ ran
      obtain ⟨response, fourth, answered, ran⟩ := Build.bind_ok _ _ _ _ _ ran
      split at ran
      next => exact (Build.throw_ok _ _ _ _ ran).elim
      next pathExpr template =>
        obtain ⟨_, pushed, signature, ran⟩ := Build.bind_ok _ _ _ _ _ ran
        obtain rfl := Build.push_ok _ _ _ signature
        obtain ⟨_, fifth, options, ran⟩ := Build.bind_ok _ _ _ _ _ ran
        obtain ⟨_, last, finder, returned⟩ := Build.bind_ok _ _ _ _ _ ran
        obtain ⟨rfl, rfl⟩ := Build.pure_ok _ _ _ _ returned
        exact .emitted fresh responded merged (path_variables_typed components _ _ _ _ _ path)
          (body_payload_typed components _ _ _ _ _ typed) (claim_option_claimed _ _ _ _ _ claimed)
          (payload_typed components _ _ _ _ _ _ answered) template
          (declare_options_declared components _ _ _ _ _ options)
          (declare_finder_searched components _ _ _ _ _ finder)

end ApiBindings
