import ApiBindings.Generation
import ApiBindings.Proofs.Documentation.Cycle
set_option autoImplicit false

namespace ApiBindings

def ParameterEntry.schema? (components : Components) (entry : ParameterEntry) : Option Schema :=
  (components.parameter entry).toOption.bind Parameter.schema

def Document.Entry.schemas (components : Components) (entry : Document.Entry) : List Schema :=
  (entry.item.parameters ++ entry.operation.parameters).filterMap (ParameterEntry.schema? components) ++
    entry.operation.bodySchema.toList ++ entry.operation.responseSchema.toList

structure ParameterPartners (roots others : List Schema) (p q : Parameter) : Prop where
  name : p.name = q.name
  location : p.location = q.location
  schema : Option.Rel (Partners roots others) p.schema q.schema

structure BoundPartners (roots others : List Schema) (b c : BoundParameter) : Prop where
  wire : b.wire = c.wire
  ident : b.ident = c.ident
  parameter : ParameterPartners roots others b.parameter c.parameter

structure EntryPartners (first second : Components) (roots others : List Schema) (e f : Document.Entry) : Prop where
  path : e.path = f.path
  method : e.method = f.method
  name : e.name = f.name
  merged : Results (List.Forall₂ (ParameterPartners roots others)) (mergedParameters first e.item e.operation)
    (mergedParameters second f.item f.operation)
  body : Option.Rel (Partners roots others) e.operation.bodySchema f.operation.bodySchema
  response : Option.Rel (Partners roots others) e.operation.responseSchema f.operation.responseSchema

def Document.Entry.undocumented (entry : Document.Entry) : Document.Entry :=
  { entry with item := entry.item.undocumented, operation := entry.operation.undocumented }

theorem item_operations_undocumented (item : PathItem) :
    item.undocumented.operations = item.operations.map (Prod.map id Operation.undocumented) := by
  obtain ⟨get, put, post, patch, delete, parameters⟩ := item
  cases get <;> cases put <;> cases post <;> cases patch <;> cases delete <;> rfl

theorem entries_undocumented (doc : Document) : doc.undocumented.entries = doc.entries.map Document.Entry.undocumented := by
  have each (path : String) (item : PathItem) :
      item.undocumented.operations.map (fun entry => ⟨path, item.undocumented, entry.1, entry.2⟩) =
        (item.operations.map fun entry => (⟨path, item, entry.1, entry.2⟩ : Document.Entry)).map
          Document.Entry.undocumented := by
    rw [item_operations_undocumented, List.map_map, List.map_map]
    rfl
  rw [Document.entries, Document.entries, Document.undocumented, List.flatMap_map, List.map_flatMap]
  exact congrArg (List.flatMap · doc.paths) (funext fun entry => each entry.1 entry.2)

theorem json_schema_undocumented (content : Content) :
    Content.jsonSchema content.undocumented = (Content.jsonSchema content).map Schema.undocumented := by
  have search : (mapValues (·.map Schema.undocumented) content).find? (fun entry => isJsonMedia entry.1.toList) =
      (content.find? fun entry => isJsonMedia entry.1.toList).map (Prod.map id (·.map Schema.undocumented)) := by
    rw [List.find?_map]
    rfl
  rw [Content.jsonSchema, Content.jsonSchema, Content.undocumented, lookup_map_entry, search]
  generalize content.find? (fun entry => isJsonMedia entry.1.toList) = found
  cases content.lookup "application/json" with
  | some schema => rfl
  | none => rcases found with _ | ⟨_, _ | _⟩ <;> rfl

theorem body_schema_undocumented (operation : Operation) :
    operation.undocumented.bodySchema = operation.bodySchema.map Schema.undocumented := by
  unfold Operation.bodySchema Operation.undocumented
  cases operation.requestBody with
  | none => rfl
  | some body => exact json_schema_undocumented body.content

theorem response_schema_undocumented (operation : Operation) :
    operation.undocumented.responseSchema = operation.responseSchema.map Schema.undocumented := by
  unfold Operation.responseSchema
  change ((mapValues Response.undocumented operation.responses).lookup "200").bind _ = _
  rw [lookup_map_entry]
  cases operation.responses.lookup "200" with
  | none => rfl
  | some response => exact json_schema_undocumented response.content

section

variable {roots others : List Schema}

theorem option_partners (x y : Option Schema) (same : x.map Schema.undocumented = y.map Schema.undocumented)
    (held : ∀ s ∈ x, s ∈ roots) (kept : ∀ t ∈ y, t ∈ others) : Option.Rel (Partners roots others) x y := by
  cases option_members x y (option_of_map _ _ x y same) with
  | none => exact .none
  | some both => exact .some ⟨both.1, .root (held _ both.2.1), .root (kept _ both.2.2)⟩

theorem merge_parameter_partners (first second : List Parameter) (p q : Parameter)
    (merged : List.Forall₂ (ParameterPartners roots others) first second) (same : ParameterPartners roots others p q) :
    List.Forall₂ (ParameterPartners roots others) (mergeParameter first p) (mergeParameter second q) := by
  induction merged with
  | nil => exact .cons same .nil
  | @cons a b rest later head merged ih =>
      rw [mergeParameter, mergeParameter, ← head.name, ← head.location, ← same.name, ← same.location]
      split
      · exact .cons same merged
      · exact .cons head ih

theorem resolved_partners (first second : Components) (agree : first.Agrees second) (p q : ParameterEntry)
    (same : p.undocumented = q.undocumented) (held : ∀ s ∈ p.schema? first, s ∈ roots)
    (kept : ∀ t ∈ q.schema? second, t ∈ others) :
    Results (ParameterPartners roots others) (first.parameter p) (second.parameter q) := by
  have resolved : (first.parameter p).map Parameter.undocumented = (second.parameter q).map Parameter.undocumented := by
    rw [← first.undocumented_parameter, agree, same, second.undocumented_parameter]
  unfold ParameterEntry.schema? at held kept
  rcases results_cases _ _ (results_of_map _ _ _ _ resolved) with ⟨defect, failed, refused⟩ | ⟨a, b, found, given, alike⟩
  · rw [failed, refused]
    exact .error defect
  · rw [found] at held ⊢
    rw [given] at kept ⊢
    have name : a.undocumented.name = b.undocumented.name := congrArg Parameter.name alike
    have location : a.undocumented.location = b.undocumented.location := congrArg Parameter.location alike
    have schema : a.undocumented.schema = b.undocumented.schema := congrArg Parameter.schema alike
    exact .ok ⟨name, location, option_partners a.schema b.schema schema held kept⟩

theorem merged_partners (first second : Components) (agree : first.Agrees second) (e f : Document.Entry)
    (same : e.undocumented = f.undocumented) (held : ∀ s ∈ e.schemas first, s ∈ roots)
    (kept : ∀ t ∈ f.schemas second, t ∈ others) :
    Results (List.Forall₂ (ParameterPartners roots others)) (mergedParameters first e.item e.operation)
      (mergedParameters second f.item f.operation) := by
  have entries : (e.item.parameters ++ e.operation.parameters).map ParameterEntry.undocumented =
      (f.item.parameters ++ f.operation.parameters).map ParameterEntry.undocumented := by
    have items := congrArg (fun entry : Document.Entry => entry.item.parameters) same
    have operations := congrArg (fun entry : Document.Entry => entry.operation.parameters) same
    simp only [Document.Entry.undocumented, PathItem.undocumented, Operation.undocumented] at items operations
    rw [List.map_append, List.map_append, items, operations]
  have resolved : Results (List.Forall₂ (ParameterPartners roots others))
      ((e.item.parameters ++ e.operation.parameters).mapM first.parameter)
      ((f.item.parameters ++ f.operation.parameters).mapM second.parameter) := by
    refine map_m_related _ _ (fun p q listed => ?_) _ _ (forall_members _ _ (forall_of_map _ _ _ _ entries))
    refine resolved_partners first second agree p q listed.1 (fun s member => held s ?_) fun t member => kept t ?_
    · exact List.mem_append_left _ (List.mem_append_left _ (List.mem_filterMap.mpr ⟨p, listed.2.1, member⟩))
    · exact List.mem_append_left _ (List.mem_append_left _ (List.mem_filterMap.mpr ⟨q, listed.2.2, member⟩))
  refine results_bind _ _ _ _ resolved fun a b parameters => .ok ?_
  have located (p q : Parameter) (one : ParameterPartners roots others p q) : isPathOrQuery p ↔ isPathOrQuery q := by
    rw [isPathOrQuery, isPathOrQuery, one.location]
  exact List.rel_foldl (fun first second merged p q one => merge_parameter_partners first second p q merged one) .nil
    (List.rel_filter located parameters)

theorem entry_partners (first second : Components) (agree : first.Agrees second) (e f : Document.Entry)
    (same : e.undocumented = f.undocumented) (held : ∀ s ∈ e.schemas first, s ∈ roots)
    (kept : ∀ t ∈ f.schemas second, t ∈ others) : EntryPartners first second roots others e f := by
  have path : e.undocumented.path = f.undocumented.path := congrArg _ same
  have method : e.undocumented.method = f.undocumented.method := congrArg _ same
  have operation : e.undocumented.operation = f.undocumented.operation := congrArg _ same
  change e.path = f.path at path
  change e.method = f.method at method
  change e.operation.undocumented = f.operation.undocumented at operation
  refine ⟨path, method, ?_, merged_partners first second agree e f same held kept, ?_, ?_⟩
  · have named : e.operation.undocumented.id = f.operation.undocumented.id := congrArg _ operation
    change e.operation.id = f.operation.id at named
    rw [Document.Entry.name, Document.Entry.name, named, method, path]
  · refine option_partners _ _ ?_ (fun s member => held s ?_) fun t member => kept t ?_
    · rw [← body_schema_undocumented, operation, body_schema_undocumented]
    · exact List.mem_append_left _ (List.mem_append_right _ (Option.mem_toList.mpr member))
    · exact List.mem_append_left _ (List.mem_append_right _ (Option.mem_toList.mpr member))
  · refine option_partners _ _ ?_ (fun s member => held s ?_) fun t member => kept t ?_
    · rw [← response_schema_undocumented, operation, response_schema_undocumented]
    · exact List.mem_append_right _ (Option.mem_toList.mpr member)
    · exact List.mem_append_right _ (Option.mem_toList.mpr member)

theorem bound_partners (names : Names) (first second : List Parameter)
    (parameters : List.Forall₂ (ParameterPartners roots others) first second) :
    List.Forall₂ (BoundPartners roots others) (bindPathParameters names first) (bindPathParameters names second) := by
  induction parameters generalizing names with
  | nil => exact .nil
  | cons head _ ih =>
      rw [bindPathParameters, bindPathParameters, ← head.location, ← head.name]
      split
      · exact .cons ⟨rfl, rfl, head⟩ (ih _)
      · exact ih names

theorem found_bound_partners (first second : List BoundParameter)
    (bound : List.Forall₂ (BoundPartners roots others) first second) (placeholder : String) :
    Option.Rel (BoundPartners roots others) (findBound first placeholder) (findBound second placeholder) := by
  have exact := find_related (·.wire = placeholder) (·.wire = placeholder) (fun b c same => by rw [same.wire]) _ _ bound
  have loosely := find_related (fun b => Naming.snake b.wire = Naming.snake placeholder)
    (fun b => Naming.snake b.wire = Naming.snake placeholder) (fun b c same => by rw [same.wire]) _ _ bound
  rw [findBound, findBound]
  rcases option_cases _ _ exact with ⟨none, other⟩ | ⟨b, c, found, other, same⟩
  · rw [none, other]
    exact loosely
  · rw [found, other]
    exact .some same

theorem parts_bound_alike (template : String) (first second : List BoundParameter)
    (bound : List.Forall₂ (BoundPartners roots others) first second) (parts : List PathPart) :
    PathExpr.ofParts template first parts = PathExpr.ofParts template second parts := by
  induction parts with
  | nil => rfl
  | cons part rest ih =>
      cases part with
      | text chars => rw [PathExpr.ofParts, PathExpr.ofParts, ih]
      | unterminated => rfl
      | placeholder chars =>
          rw [PathExpr.ofParts, PathExpr.ofParts, ih]
          rcases option_cases _ _ (found_bound_partners first second bound (String.ofList (withoutStars chars))) with
            ⟨none, other⟩ | ⟨b, c, found, other, same⟩
          · rw [none, other]
          · rw [found, other]
            dsimp only
            rw [same.ident]

theorem path_bound_alike (template : String) (first second : List BoundParameter)
    (bound : List.Forall₂ (BoundPartners roots others) first second) :
    PathExpr.ofTemplate template first = PathExpr.ofTemplate template second := by
  rw [PathExpr.ofTemplate, PathExpr.ofTemplate, parts_bound_alike template first second bound]

end

end ApiBindings
