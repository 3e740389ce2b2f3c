import ApiBindings.Proofs.Generation.Outcomes
import ApiBindings.Proofs.Operation.Query
set_option autoImplicit false

namespace ApiBindings

def OperationSent (components : Components) (entries : List Document.Entry) (operation : CompiledOperation)
    (functions : List Function) : Prop :=
  ∃ entry ∈ entries, entry.path = operation.path ∧ entry.method = operation.method ∧
    QuerySent components entry operation.signature functions

theorem operation_sent_grows (components : Components) (entry : Document.Entry) (rest : List Document.Entry)
    (operation : CompiledOperation) (functions : List Function) (sent : OperationSent components rest operation functions) :
    OperationSent components (entry :: rest) operation functions := by
  obtain ⟨other, member, parts⟩ := sent
  exact ⟨other, List.mem_cons_of_mem _ member, parts⟩

theorem compiled_operation_sent (components : Components) (earlier : List String) (entry : Document.Entry)
    (rest : List Document.Entry) (before after : SourceUnit) (outcome : Outcome)
    (compiled : Compiled components earlier entry before outcome after) :
    ∃ blocks, after.functions = before.functions ++ blocks.flatten ∧
      List.Forall₂ (OperationSent components (entry :: rest)) outcome.emitted?.toList blocks := by
  cases outcome with
  | skipped =>
      cases compiled
      exact ⟨[], (List.append_nil _).symm, .nil⟩
  | emitted operation =>
      obtain ⟨functions, added, sent⟩ := compiled_query_sent components earlier entry before after operation compiled
      obtain ⟨path, method⟩ := compiled_endpoint components earlier entry before after operation compiled
      refine ⟨[functions], added.trans (by rw [List.flatten_singleton]), .cons ?_ .nil⟩
      exact ⟨entry, List.mem_cons_self, path, method, sent⟩

theorem steps_sent (components : Components) (earlier : List String) (entries : List Document.Entry)
    (before after : SourceUnit) (outcomes : List Outcome)
    (steps : Steps (fun (earlier, entry) => compileOperation components earlier entry) (withEarlier earlier entries)
      before outcomes after) :
    ∃ blocks, after.functions = before.functions ++ blocks.flatten ∧
      List.Forall₂ (OperationSent components entries) (outcomes.filterMap Outcome.emitted?) blocks := by
  induction entries generalizing earlier before outcomes with
  | nil =>
      cases steps
      exact ⟨[], (List.append_nil _).symm, .nil⟩
  | cons entry rest ih =>
      cases steps with
      | @next _ _ outcome others _ middle _ ran later =>
          obtain ⟨own, added, first⟩ := compiled_operation_sent components earlier entry rest before middle outcome
            (compile_operation_compiled components earlier entry before middle outcome ran)
          obtain ⟨blocks, more, last⟩ := ih (entry.name :: earlier) middle others later
          refine ⟨own ++ blocks, ?_, ?_⟩
          · rw [more, added, List.flatten_append, List.append_assoc]
          · have kept := last.imp (operation_sent_grows components entry rest)
            rw [List.filterMap_cons]
            cases outcome with
            | skipped =>
                cases first
                exact kept
            | emitted operation => exact List.rel_append first kept

theorem query_parameters_sent (doc : Document) (options : UnitOptions) (generated : Generated)
    (done : generateOperations doc options = .ok generated) :
    ∃ outcomes unit blocks, buildOperations doc options.package = .ok (outcomes, unit) ∧
      formatUnit options .operations unit.render = .ok generated.source ∧ unit.functions = blocks.flatten ∧
      List.Forall₂ (OperationSent doc.componentsOrNone doc.entries) generated.operations blocks := by
  obtain ⟨outcomes, unit, built, formatted, emitted, _⟩ := generate_operations_outcomes doc options generated done
  obtain ⟨blocks, added, sent⟩ := steps_sent doc.componentsOrNone [] doc.entries _ unit outcomes
    (build_operations_steps doc options.package outcomes unit built)
  refine ⟨outcomes, unit, blocks, built, formatted, ?_, emitted ▸ sent⟩
  rw [added, operationsStart, (reserve_all_declarations (typesUnitNames doc) { package := options.package }).2]
  rfl

def textList : Schema := { type := some (.single "array"), items := some { type := some (.single "string") } }

def taggedDocument (tags content : Schema) : Document where
  paths := [("/pets", {
    get := some {
      parameters := [
        .inline { name := "tags", location := "query", schema := some tags },
        .inline { name := "content", location := "query", schema := some content }]
      responses := [("200", { content := [("application/json", some { type := some (.single "string") })] })] } })]
  components := some { schemas := [("Tags", textList)] }

theorem inline_tags_sent :
    let doc := taggedDocument textList { type := some (.single "string") }
    ∃ generated outcomes unit blocks, generateOperations doc { installed := some unchanging } = .ok generated ∧
      buildOperations doc "models" = .ok (outcomes, unit) ∧
      formatUnit { installed := some unchanging } .operations unit.render = .ok generated.source ∧
      unit.functions = blocks.flatten ∧
      List.Forall₂ (OperationSent doc.componentsOrNone doc.entries) generated.operations blocks ∧
      unit.functions.tail.map Function.body = [.queryOption "tags" true, .queryOption "content" false] := by
  intro doc
  obtain ⟨⟨outcomes, unit⟩, built, bodies⟩ := ok_holds (buildOperations doc "models")
    (fun built => built.2.functions.tail.map Function.body = [.queryOption "tags" true, .queryOption "content" false])
    (by decide +kernel)
  have done := generate_operations_unchanging doc "models" outcomes unit built
  obtain ⟨others, last, blocks, again, formatted, functions, sent⟩ :=
    query_parameters_sent doc { installed := some unchanging } _ done
  obtain ⟨rfl, rfl⟩ := Prod.mk.inj (Except.ok.inj (built.symm.trans again))
  exact ⟨_, outcomes, unit, blocks, done, built, formatted, functions, sent, of_decide_eq_true bodies⟩

theorem named_tags_sent_whole :
    let tags : Schema := { ref := some "#/components/schemas/Tags" }
    let content : Schema := { type := some (.single "string"), format := some "byte" }
    let doc := taggedDocument tags content
    doc.componentsOrNone.TargetsArray tags ∧ ¬ doc.componentsOrNone.TargetsArray content ∧
      ∃ generated outcomes unit, generateOperations doc { installed := some unchanging } = .ok generated ∧
        buildOperations doc "models" = .ok (outcomes, unit) ∧
        unit.functions.tail.map Function.body = [.queryOption "tags" false, .queryOption "content" true] := by
  intro tags content doc
  refine ⟨?_, fun array => array_not_bytes doc.componentsOrNone content array ?_, ?_⟩
  · obtain ⟨shape, shaped, array⟩ := ok_holds (doc.componentsOrNone.targetShape tags)
      (fun shape => shape.isSliced && shape.isCollection) (by decide +kernel)
    obtain ⟨sliced, collection⟩ := (Bool.and_eq_true _ _).mp array
    cases shape with
    | array items => exact ⟨items, target_shape_targets doc.componentsOrNone tags _ shaped⟩
    | scalar | enumeration | object => cases collection
    | map => cases sliced
  · obtain ⟨shape, shaped, bytes⟩ := ok_holds (doc.componentsOrNone.targetShape content)
      (fun shape => shape.isSliced && shape.isSimple) (by decide +kernel)
    obtain ⟨sliced, simple⟩ := (Bool.and_eq_true _ _).mp bytes
    cases shape with
    | scalar type =>
        obtain rfl := of_decide_eq_true sliced
        exact target_shape_targets doc.componentsOrNone content _ shaped
    | enumeration => cases sliced
    | array | object | map => cases simple
  · obtain ⟨⟨outcomes, unit⟩, built, bodies⟩ := ok_holds (buildOperations doc "models")
      (fun built => built.2.functions.tail.map Function.body = [.queryOption "tags" false, .queryOption "content" true])
      (by decide +kernel)
    exact ⟨_, outcomes, unit, generate_operations_unchanging doc "models" outcomes unit built, built,
      of_decide_eq_true bodies⟩

end ApiBindings
