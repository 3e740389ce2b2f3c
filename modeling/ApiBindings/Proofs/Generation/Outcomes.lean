import ApiBindings.Manifest
import ApiBindings.Proofs.Document.Entries
import ApiBindings.Proofs.Generation.Format
import ApiBindings.Proofs.Generation.Operations
import ApiBindings.Proofs.Operation.Finder
set_option autoImplicit false

namespace ApiBindings

def FunctionBody.isCall : FunctionBody → Bool
  | .call _ => true
  | _ => false

def FunctionBody.request? : FunctionBody → Option ClientCall
  | .call request => some request
  | _ => none

theorem FunctionBody.request_some (body : FunctionBody) (request : ClientCall) (found : body.request? = some request) :
    body = .call request := by
  cases body <;> cases found
  rfl

def SourceUnit.clientMethods (unit : SourceUnit) : List Function := unit.functions.filter (·.body.isCall)

def CompiledOperation.endpoint (operation : CompiledOperation) : Endpoint := ⟨operation.path, operation.method⟩

def SkippedOperation.endpoint (operation : SkippedOperation) : Endpoint := ⟨operation.path, operation.method⟩

def Operation.Silent (operation : Operation) : Prop :=
  ∀ response, operation.responses.lookup "200" = some response → Content.jsonSchema response.content = none

theorem silent_iff (operation : Operation) : operation.Silent ↔ operation.responseSchema = none :=
  Option.bind_eq_none_iff.symm

structure ManifestEntry.Describes (f : Function) (entry : ManifestEntry) : Prop where
  name : entry.name = f.name
  method : ∃ call, f.body = .call call ∧ entry.method = call.method.name
  parameters : entry.parameters = f.parameters.map fun p => ⟨p.name, p.type.render, p.variadic⟩
  results : entry.results = f.results.map TypeExpr.render

-- Every verb of every path is in one of the two lists, and in only one of them.
-- Both follow the order of paths and verbs, which allows no endpoint twice.
structure Document.Divides (doc : Document) (emitted skipped : List Endpoint) : Prop where
  complete : ∀ endpoint, endpoint ∈ emitted ∨ endpoint ∈ skipped ↔
    ∃ item, (endpoint.path, item) ∈ doc.paths ∧ (item.operation? endpoint.method).isSome = true
  apart : ∀ endpoint ∈ emitted, endpoint ∉ skipped
  emittedOrdered : emitted.Pairwise Endpoint.Before
  skippedOrdered : skipped.Pairwise Endpoint.Before
  silent : ∀ endpoint item operation, (endpoint.path, item) ∈ doc.paths →
    item.operation? endpoint.method = some operation → (endpoint ∈ skipped ↔ operation.Silent)

inductive Settled (entry : Document.Entry) : Outcome → Prop where
  | emitted {s : Schema} {f : Function} {call : ClientCall} (responded : entry.operation.responseSchema = some s)
      (named : f.name = entry.name) (body : f.body = .call call) (verb : call.method = entry.method) :
      Settled entry (.emitted { method := entry.method, path := entry.path, signature := f })
  | skipped {reason : String} (missing : entry.operation.responseSchema = none) :
      Settled entry (.skipped { name := entry.name, method := entry.method, path := entry.path, reason })

namespace SourceUnit

theorem same_client_methods (before after : SourceUnit) (same : after.functions = before.functions) :
    after.clientMethods = before.clientMethods := by
  rw [clientMethods, clientMethods, same]

theorem push_client_method (unit : SourceUnit) (f : Function) (call : f.body.isCall = true) :
    (unit.push f).clientMethods = unit.clientMethods ++ [f] := by
  simp [clientMethods, push, List.filter_append, call]

theorem push_no_client_method (unit : SourceUnit) (f : Function) (other : f.body.isCall = false) :
    (unit.push f).clientMethods = unit.clientMethods := by
  simp [clientMethods, push, List.filter_append, other]

end SourceUnit

section

variable (components : Components)

theorem constructed_client_methods (operation option : String) (names : Names) (query : List Parameter)
    (before after : SourceUnit) (constructed : Constructed components operation option names query before after) :
    after.clientMethods = before.clientMethods := by
  induction constructed with
  | none => rfl
  | next _ typed _ ih =>
      rw [ih, SourceUnit.push_no_client_method _ _ rfl,
        SourceUnit.same_client_methods _ _ (parameter_typed_functions components _ _ _ _ _ typed)]

theorem options_declared_client_methods (operation : String) (query : List Parameter) (option : Option String)
    (before after : SourceUnit) (declared : OptionsDeclared components operation query option before after) :
    after.clientMethods = before.clientMethods := by
  cases declared with
  | none => rfl
  | some declared constructed =>
      rw [constructed_client_methods components _ _ _ _ _ _ constructed,
        SourceUnit.same_client_methods _ _ (SourceUnit.declare_functions _ _ _ declared)]

theorem response_searched_client_methods (operation : String) (s : Schema) (response : Payload)
    (before after : SourceUnit) (searched : ResponseSearched components operation s response before after) :
    after.clientMethods = before.clientMethods := by
  cases searched with
  | skipped => rfl
  | searched _ _ finder =>
      cases finder with
      | none => rfl
      | found _ _ error =>
          rw [SourceUnit.push_no_client_method _ _ rfl]
          cases error with
          | known => rfl
          | new _ declared =>
              rw [SourceUnit.push_no_client_method _ _ rfl]
              exact SourceUnit.same_client_methods _ _ (SourceUnit.declare_functions _ _ _ declared)

-- The method is pushed in the middle of an operation, after its payloads and
-- before its options and its finder; nothing else that is pushed is a call.
theorem compiled_settled (earlier : List String) (entry : Document.Entry) (before after : SourceUnit)
    (outcome : Outcome) (compiled : Compiled components earlier entry before outcome after) :
    entry.name ∉ earlier ∧ Settled entry outcome ∧
      after.clientMethods = before.clientMethods ++ outcome.emitted?.toList.map CompiledOperation.signature := by
  cases compiled with
  | skipped fresh missing => exact ⟨fresh, .skipped missing, (List.append_nil _).symm⟩
  | @emitted _ _ _ _ _ _ _ _ first second third fourth fifth _ fresh responded _ pathTyped bodyTyped optionClaimed
      responseTyped _ optionsDeclared searched =>
      refine ⟨fresh, .emitted responded rfl rfl rfl, ?_⟩
      have same := payloads_functions components pathTyped bodyTyped optionClaimed responseTyped
      rw [response_searched_client_methods components _ _ _ _ _ searched,
        options_declared_client_methods components _ _ _ _ _ optionsDeclared, SourceUnit.push_client_method _ _ rfl,
        SourceUnit.same_client_methods _ _ same]
      rfl

theorem compiled_endpoint (earlier : List String) (entry : Document.Entry)
    (before after : SourceUnit) (operation : CompiledOperation)
    (compiled : Compiled components earlier entry before (.emitted operation) after) :
    entry.path = operation.path ∧ entry.method = operation.method := by
  cases compiled
  exact ⟨rfl, rfl⟩

theorem steps_settled (earlier : List String) (entries : List Document.Entry) (before after : SourceUnit)
    (outcomes : List Outcome)
    (steps : Steps (fun (earlier, entry) => compileOperation components earlier entry) (withEarlier earlier entries)
      before outcomes after) :
    List.Forall₂ Settled entries outcomes ∧ (entries.map Document.Entry.name).Nodup ∧
      (∀ entry ∈ entries, entry.name ∉ earlier) ∧ after.clientMethods =
        before.clientMethods ++ (outcomes.filterMap Outcome.emitted?).map CompiledOperation.signature := by
  induction entries generalizing earlier before outcomes with
  | nil =>
      cases steps
      exact ⟨.nil, List.nodup_nil, List.forall_mem_nil _, (List.append_nil _).symm⟩
  | cons entry rest ih =>
      cases steps with
      | @next _ _ outcome others _ middle _ ran later =>
          obtain ⟨fresh, settled, methods⟩ := compiled_settled components earlier entry before middle outcome
            (compile_operation_compiled components earlier entry before middle outcome ran)
          obtain ⟨all, distinct, unmet, more⟩ := ih (entry.name :: earlier) middle others later
          refine ⟨.cons settled all, List.nodup_cons.mpr ⟨fun again => ?_, distinct⟩,
            List.forall_mem_cons.mpr ⟨fresh, fun other member met => ?_⟩, ?_⟩
          · obtain ⟨other, member, same⟩ := List.mem_map.mp again
            exact unmet other member (same ▸ List.mem_cons_self)
          · exact unmet other member (List.mem_cons_of_mem _ met)
          · rw [more, methods, List.append_assoc, ← List.map_append]
            cases outcome <;> rfl

end

theorem settled_lists (entries : List Document.Entry) (outcomes : List Outcome)
    (settled : List.Forall₂ Settled entries outcomes) :
    (outcomes.filterMap Outcome.emitted?).map (fun o => (o.signature.name, o.endpoint)) =
        (entries.filter (·.operation.responseSchema.isSome)).map (fun e => (e.name, e.endpoint)) ∧
      (outcomes.filterMap Outcome.skipped?).map (fun o => (o.name, o.endpoint)) =
        (entries.filter (!·.operation.responseSchema.isSome)).map (fun e => (e.name, e.endpoint)) ∧
      ∀ o ∈ outcomes.filterMap Outcome.emitted?, ∃ call, o.signature.body = .call call ∧ call.method = o.method := by
  induction settled with
  | nil => exact ⟨rfl, rfl, List.forall_mem_nil _⟩
  | @cons entry outcome _ _ settled _ ih =>
      obtain ⟨emitted, skipped, calls⟩ := ih
      cases settled with
      | emitted responded named body verb =>
          simp only [List.filterMap_cons, Outcome.emitted?, Outcome.skipped?, List.filter_cons, responded,
            Option.isSome_some, Bool.not_true, Bool.false_eq_true, if_true, if_false, List.map_cons]
          exact ⟨List.cons_eq_cons.mpr ⟨Prod.ext named rfl, emitted⟩, skipped,
            List.forall_mem_cons.mpr ⟨⟨_, body, verb⟩, calls⟩⟩
      | skipped missing =>
          simp only [List.filterMap_cons, Outcome.emitted?, Outcome.skipped?, List.filter_cons, missing,
            Option.isSome_none, Bool.not_false, Bool.false_eq_true, if_true, if_false, List.map_cons]
          exact ⟨emitted, List.cons_eq_cons.mpr ⟨rfl, skipped⟩, calls⟩

theorem entries_divided (doc : Document) (ordered : Data.Ordered doc.paths) :
    doc.Divides ((doc.entries.filter (·.operation.responseSchema.isSome)).map Document.Entry.endpoint)
      ((doc.entries.filter (!·.operation.responseSchema.isSome)).map Document.Entry.endpoint) := by
  have endpoints := entries_ordered doc ordered
  have same := List.inj_on_of_nodup_map (endpoints_distinct _ endpoints)
  have sublist (p : Document.Entry → Bool) :
      ((doc.entries.filter p).map Document.Entry.endpoint).Pairwise Endpoint.Before :=
    endpoints.sublist (List.filter_sublist.map _)
  have skipped (entry : Document.Entry) (listed : entry ∈ doc.entries) :
      entry.endpoint ∈ (doc.entries.filter (!·.operation.responseSchema.isSome)).map Document.Entry.endpoint ↔
        entry.operation.Silent := by
    rw [silent_iff]
    constructor
    · intro member
      obtain ⟨other, member, shared⟩ := List.mem_map.mp member
      obtain ⟨known, missing⟩ := List.mem_filter.mp member
      obtain rfl := same known listed shared
      simpa using missing
    · exact fun missing => List.mem_map_of_mem (List.mem_filter.mpr ⟨listed, by simp [missing]⟩)
  refine ⟨fun endpoint => ⟨?_, ?_⟩, fun endpoint emitted => ?_, sublist _, sublist _,
    fun endpoint item operation listed given => ?_⟩
  · rintro (placed | placed)
    all_goals
      obtain ⟨entry, member, rfl⟩ := List.mem_map.mp placed
      obtain ⟨listed, given⟩ := (entry_iff doc entry).mp (List.mem_filter.mp member).1
      exact ⟨entry.item, listed, given ▸ rfl⟩
  · rintro ⟨item, listed, present⟩
    obtain ⟨operation, given⟩ := Option.isSome_iff_exists.mp present
    have member := (entry_iff doc ⟨endpoint.path, item, endpoint.method, operation⟩).mpr ⟨listed, given⟩
    by_cases responded : operation.responseSchema.isSome = true
    · exact Or.inl (List.mem_map.mpr ⟨_, List.mem_filter.mpr ⟨member, responded⟩, rfl⟩)
    · exact Or.inr (List.mem_map.mpr ⟨_, List.mem_filter.mpr ⟨member, by simpa using responded⟩, rfl⟩)
  · obtain ⟨entry, member, rfl⟩ := List.mem_map.mp emitted
    obtain ⟨listed, responded⟩ := List.mem_filter.mp member
    rw [skipped entry listed, silent_iff]
    exact fun missing => by simp [missing] at responded
  · exact skipped ⟨endpoint.path, item, endpoint.method, operation⟩ ((entry_iff doc _).mpr ⟨listed, given⟩)

theorem manifest_describes (operations : List CompiledOperation)
    (calls : ∀ o ∈ operations, ∃ call, o.signature.body = .call call ∧ call.method = o.method) :
    List.Forall₂ ManifestEntry.Describes (operations.map CompiledOperation.signature)
      (operations.map ManifestEntry.ofOperation) := by
  rw [List.forall₂_map_left_iff, List.forall₂_map_right_iff, List.forall₂_same]
  intro o member
  obtain ⟨call, body, verb⟩ := calls o member
  exact ⟨rfl, ⟨call, body, verb ▸ rfl⟩, rfl, rfl⟩

theorem generate_operations_outcomes (doc : Document) (options : UnitOptions) (generated : Generated)
    (done : generateOperations doc options = .ok generated) :
    ∃ outcomes unit, buildOperations doc options.package = .ok (outcomes, unit) ∧
      formatUnit options .operations unit.render = .ok generated.source ∧
      generated.operations = outcomes.filterMap Outcome.emitted? ∧
      generated.skipped = outcomes.filterMap Outcome.skipped? := by
  unfold generateOperations at done
  obtain ⟨⟨outcomes, unit⟩, built, done⟩ := except_bind_ok _ _ _ done
  obtain ⟨source, formatted, done⟩ := except_bind_ok _ _ _ done
  obtain rfl := Except.ok.inj done
  exact ⟨outcomes, unit, built, formatted, rfl, rfl⟩

theorem generated_endpoints (doc : Document) (options : UnitOptions) (generated : Generated)
    (done : generateOperations doc options = .ok generated) :
    generated.operations.map CompiledOperation.endpoint =
        (doc.entries.filter (·.operation.responseSchema.isSome)).map Document.Entry.endpoint ∧
      generated.skipped.map SkippedOperation.endpoint =
        (doc.entries.filter (!·.operation.responseSchema.isSome)).map Document.Entry.endpoint := by
  obtain ⟨outcomes, unit, built, _, emitted, skipped⟩ := generate_operations_outcomes doc options generated done
  have steps := build_operations_steps doc options.package outcomes unit built
  obtain ⟨settled, _⟩ := steps_settled doc.componentsOrNone [] doc.entries _ unit outcomes steps
  obtain ⟨listed, left, _⟩ := settled_lists doc.entries outcomes settled
  have endpoints := congrArg (List.map Prod.snd) listed
  have others := congrArg (List.map Prod.snd) left
  rw [List.map_map, List.map_map] at endpoints others
  exact ⟨emitted ▸ endpoints, skipped ▸ others⟩

theorem operations_divided (doc : Document) (options : UnitOptions) (generated : Generated)
    (ordered : Data.Ordered doc.paths) (done : generateOperations doc options = .ok generated) :
    doc.Divides (generated.operations.map CompiledOperation.endpoint)
      (generated.skipped.map SkippedOperation.endpoint) := by
  obtain ⟨emitted, skipped⟩ := generated_endpoints doc options generated done
  rw [emitted, skipped]
  exact entries_divided doc ordered

theorem read_operations_divided (format : DataFormat) (text : String) (doc : Document) (options : UnitOptions)
    (generated : Generated) (read : Document.read format text = .ok doc)
    (done : generateOperations doc options = .ok generated) :
    doc.Divides (generated.operations.map CompiledOperation.endpoint) (generated.skipped.map SkippedOperation.endpoint) :=
  operations_divided doc options generated (read_well_formed format text doc read).paths done

theorem operations_accounted_for (doc : Document) (options : UnitOptions) (generated : Generated)
    (ordered : Data.Ordered doc.paths) (done : generateOperations doc options = .ok generated) :
    doc.Divides (generated.operations.map CompiledOperation.endpoint) (generated.skipped.map SkippedOperation.endpoint) ∧
    (generated.operations.map (·.signature.name) ++ generated.skipped.map (·.name)).Nodup ∧
    (generated.manifest.map fun e => (e.path, e.method)) = generated.operations.map (fun o => (o.path, o.method.name)) ∧
    ∃ outcomes unit, buildOperations doc options.package = .ok (outcomes, unit) ∧
      formatUnit options .operations unit.render = .ok generated.source ∧
      unit.clientMethods = generated.operations.map CompiledOperation.signature ∧
      List.Forall₂ ManifestEntry.Describes unit.clientMethods generated.manifest := by
  obtain ⟨outcomes, unit, built, formatted, emitted, skipped⟩ := generate_operations_outcomes doc options generated done
  have steps := build_operations_steps doc options.package outcomes unit built
  obtain ⟨settled, distinct, _, methods⟩ := steps_settled doc.componentsOrNone [] doc.entries _ unit outcomes steps
  obtain ⟨listed, left, calls⟩ := settled_lists doc.entries outcomes settled
  rw [← emitted] at listed methods calls
  rw [← skipped] at left
  have start : (operationsStart doc options.package).clientMethods = [] := by
    rw [SourceUnit.clientMethods, operationsStart, (reserve_all_declarations _ _).2]
    rfl
  rw [start, List.nil_append] at methods
  refine ⟨operations_divided doc options generated ordered done, ?_, ?_, outcomes, unit, built, formatted, methods,
    methods ▸ manifest_describes _ calls⟩
  · have names := congrArg (List.map Prod.fst) listed
    have others := congrArg (List.map Prod.fst) left
    rw [List.map_map, List.map_map] at names others
    have whole := (List.filter_append_perm (·.operation.responseSchema.isSome) doc.entries).map Document.Entry.name
    rw [List.map_append] at whole
    exact names ▸ others ▸ whole.nodup_iff.mpr distinct
  · rw [Generated.manifest, List.map_map]
    rfl

def errands : Document :=
  let text : Schema := { type := some (.single "string") }
  let object (properties : List (String × Schema)) : Schema :=
    { type := some (.single "object"), properties := some properties }
  let json (s : Schema) : List (String × Response) := [("200", { content := [("application/json", some s)] })]
  let items : Schema := { type := some (.single "array"), items := some (object [("id", text), ("name", text)]) }
  { paths := [
      ("/items", {
        get := some {
          id := some "listItems"
          parameters := [.inline { name := "state", location := "query", schema := some text }]
          responses := json (object [("items", items)]) }
        delete := some { responses := [("204", {})] } }),
      ("/items/{id}", {
        get := some { responses := [("200", { content := [("text/plain", some text)] })] }
        put := some {
          parameters := [.inline { name := "id", location := "path", schema := some text }]
          requestBody := some { content := [("application/json", some (object [("name", text)]))] }
          responses := json (object [("id", text)]) } })] }

theorem errands_accounted_for :
    Data.Ordered errands.paths ∧ ∃ generated, generateOperations errands { installed := some unchanging } = .ok generated ∧
      generated.operations.map (·.signature.name) = ["ListItems", "PutItemsByID"] ∧
      generated.skipped.map (·.name) = ["DeleteItems", "GetItemsByID"] ∧
      errands.Divides (generated.operations.map CompiledOperation.endpoint) (generated.skipped.map SkippedOperation.endpoint) ∧
      (generated.operations.map (·.signature.name) ++ generated.skipped.map (·.name)).Nodup ∧
      (generated.manifest.map fun e => (e.path, e.method)) = generated.operations.map (fun o => (o.path, o.method.name)) ∧
      ∃ outcomes unit, buildOperations errands "models" = .ok (outcomes, unit) ∧
        formatUnit { installed := some unchanging } .operations unit.render = .ok generated.source ∧
        unit.clientMethods = generated.operations.map CompiledOperation.signature ∧
        List.Forall₂ ManifestEntry.Describes unit.clientMethods generated.manifest := by
  have ordered : Data.Ordered errands.paths := by
    unfold Data.Ordered
    decide +kernel
  obtain ⟨⟨outcomes, unit⟩, built, named⟩ := ok_holds (buildOperations errands "models")
    (fun built =>
      (built.1.filterMap Outcome.emitted?).map (·.signature.name) = ["ListItems", "PutItemsByID"] &&
        (built.1.filterMap Outcome.skipped?).map (·.name) = ["DeleteItems", "GetItemsByID"]) (by decide +kernel)
  obtain ⟨emitted, skipped⟩ := Bool.and_eq_true_iff.mp named
  have done := generate_operations_unchanging errands "models" outcomes unit built
  exact ⟨ordered, _, done, of_decide_eq_true emitted, of_decide_eq_true skipped,
    operations_accounted_for errands { installed := some unchanging } _ ordered done⟩

end ApiBindings
