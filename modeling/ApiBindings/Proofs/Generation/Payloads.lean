import ApiBindings.Proofs.Generation.Outcomes
import ApiBindings.Proofs.Operation.Pointers
set_option autoImplicit false

namespace ApiBindings

theorem operation_compiled (doc : Document) (options : UnitOptions) (generated : Generated)
    (operation : CompiledOperation) (done : generateOperations doc options = .ok generated)
    (member : operation ∈ generated.operations) :
    ∃ earlier, ∃ entry ∈ doc.entries, ∃ before after,
      Compiled doc.componentsOrNone earlier entry before (.emitted operation) after := by
  obtain ⟨outcomes, unit, built, _, emitted, _⟩ := generate_operations_outcomes doc options generated done
  rw [emitted] at member
  obtain ⟨outcome, listed, kind⟩ := List.mem_filterMap.mp member
  cases outcome with
  | skipped => cases kind
  | emitted known =>
      obtain rfl := Option.some.inj kind
      obtain ⟨⟨earlier, entry⟩, present, before, after, ran⟩ :=
        steps_result _ _ _ unit outcomes _ (build_operations_steps doc options.package outcomes unit built) listed
      exact ⟨earlier, entry, with_earlier_entry [] doc.entries _ present, before, after,
        compile_operation_compiled _ earlier entry before after _ ran⟩

theorem payloads_passed_iff (doc : Document) (options : UnitOptions) (generated : Generated)
    (operation : CompiledOperation) (done : generateOperations doc options = .ok generated)
    (member : operation ∈ generated.operations) :
    ∃ entry ∈ doc.entries, entry.path = operation.path ∧ entry.method = operation.method ∧
      PayloadsPassed doc.componentsOrNone entry.operation operation.signature := by
  obtain ⟨earlier, entry, listed, before, after, compiled⟩ :=
    operation_compiled doc options generated operation done member
  obtain ⟨path, method⟩ := compiled_endpoint _ earlier entry before after operation compiled
  exact ⟨entry, listed, path, method, compiled_payloads_passed _ earlier entry before after operation compiled⟩

def widgetDocument (request response : Schema) : Document :=
  let json (s : Schema) : Content := [("application/json", some s)]
  let widget : Schema :=
    { type := some (.single "object"), properties := some [("id", { type := some (.single "string") })] }
  { paths := [("/widget", {
      put := some { requestBody := some { content := json request }, responses := [("200", { content := json response })] } })]
    components := some { schemas := [("Widget", widget)] } }

theorem widget_passed_by_pointer :
    let doc := widgetDocument (.to "Widget") (.to "Widget")
    ∃ generated, ∃ operation ∈ generated.operations,
      generateOperations doc { installed := some unchanging } = .ok generated ∧
      operation.signature.results = [.pointer (.named "Widget"), .named "error"] ∧
      ∃ entry ∈ doc.entries, entry.path = operation.path ∧ entry.method = operation.method ∧
        PayloadsPassed doc.componentsOrNone entry.operation operation.signature := by
  intro doc
  obtain ⟨⟨outcomes, unit⟩, built, found⟩ := ok_holds (buildOperations doc "models")
    (fun built => (built.1.filterMap Outcome.emitted?).any fun operation =>
      operation.signature.results = [.pointer (.named "Widget"), .named "error"]) (by decide +kernel)
  obtain ⟨operation, member, results⟩ := List.any_eq_true.mp found
  have done := generate_operations_unchanging doc "models" outcomes unit built
  exact ⟨_, operation, member, done, of_decide_eq_true results, payloads_passed_iff doc _ _ operation done member⟩

-- A composition of one member hides the object behind its reference, and one
-- beside items is overlooked.
theorem composed_objects_by_value :
    let response : Schema := { allOf := some [.to "Widget"] }
    let request : Schema := { items := some (.to "Widget"), allOf := some [.to "Widget"] }
    let doc := widgetDocument request response
    doc.componentsOrNone.TargetsObject response ∧ doc.componentsOrNone.TargetsObject request ∧
      ∃ generated, ∃ operation ∈ generated.operations,
        generateOperations doc { installed := some unchanging } = .ok generated ∧
        operation.signature.results = [.named "PutWidgetResponse", .named "error"] ∧
        operation.signature.parameters.filter (·.name = "body") = [{ name := "body", type := .slice (.named "Widget") }] := by
  intro response request doc
  have object (s : Schema) (kind : (doc.componentsOrNone.isObjectRef s).toOption.any id = true) :
      doc.componentsOrNone.TargetsObject s := by
    obtain ⟨isObject, known, holds⟩ := ok_holds _ id kind
    exact (object_reference_targets doc.componentsOrNone s isObject known).mp holds
  obtain ⟨⟨outcomes, unit⟩, built, found⟩ := ok_holds (buildOperations doc "models")
    (fun built => (built.1.filterMap Outcome.emitted?).any fun operation =>
      operation.signature.results = [.named "PutWidgetResponse", .named "error"] ∧
      operation.signature.parameters.filter (·.name = "body") = [{ name := "body", type := .slice (.named "Widget") }])
    (by decide +kernel)
  obtain ⟨operation, member, passed⟩ := List.any_eq_true.mp found
  have done := generate_operations_unchanging doc "models" outcomes unit built
  exact ⟨object response (by decide +kernel), object request (by decide +kernel), _, operation, member, done,
    of_decide_eq_true passed⟩

end ApiBindings
