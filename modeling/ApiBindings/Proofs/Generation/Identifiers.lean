import ApiBindings.Proofs.Generation.Payloads
import ApiBindings.Proofs.Operation.Identifiers
set_option autoImplicit false

namespace ApiBindings

theorem method_identifiers_apart (doc : Document) (options : UnitOptions) (generated : Generated)
    (operation : CompiledOperation) (done : generateOperations doc options = .ok generated)
    (member : operation ∈ generated.operations) :
    ∃ entry ∈ doc.entries, entry.path = operation.path ∧ entry.method = operation.method ∧
      ∃ parameters idents, mergedParameters doc.componentsOrNone entry.item entry.operation = .ok parameters ∧
        NamesApart parameters idents operation.signature := by
  obtain ⟨earlier, entry, listed, before, after, compiled⟩ :=
    operation_compiled doc options generated operation done member
  obtain ⟨path, method⟩ := compiled_endpoint _ earlier entry before after operation compiled
  exact ⟨entry, listed, path, method, method_names_apart _ earlier entry before after operation compiled⟩

def pathDocument (path : String) (names : List String) : Document :=
  let number : Schema := { type := some (.single "integer") }
  { paths := [(path, {
      get := some {
        parameters := names.map fun name => .inline { name, location := "path" }
        responses := [("200", { content := [("application/json", some number)] })] } })] }

theorem spelled_parameters_apart :
    let doc := pathDocument "/rooms/\x7broom-id\x7d/\x7btype\x7d/\x7broomId\x7d" ["room-id", "type", "roomId"]
    ∃ generated, ∃ operation ∈ generated.operations,
      generateOperations doc { installed := some unchanging } = .ok generated ∧
      operation.signature.parameters.map Variable.name = ["ctx", "roomID", "typeParam", "roomID2"] ∧
      ∃ entry ∈ doc.entries, entry.path = operation.path ∧ entry.method = operation.method ∧
        ∃ parameters idents, mergedParameters doc.componentsOrNone entry.item entry.operation = .ok parameters ∧
          NamesApart parameters idents operation.signature := by
  intro doc
  obtain ⟨⟨outcomes, unit⟩, built, found⟩ := ok_holds (buildOperations doc "models")
    (fun built => (built.1.filterMap Outcome.emitted?).any fun operation =>
      operation.signature.parameters.map Variable.name = ["ctx", "roomID", "typeParam", "roomID2"]) (by decide +kernel)
  obtain ⟨operation, member, named⟩ := List.any_eq_true.mp found
  have done := generate_operations_unchanging doc "models" outcomes unit built
  exact ⟨_, operation, member, done, of_decide_eq_true named, method_identifiers_apart doc _ _ operation done member⟩

-- The comparison with `nil` in the body means the parameter.
theorem nil_parameter_hides :
    let doc := pathDocument "/rooms/\x7bnil\x7d" ["nil"]
    ∃ generated, ∃ operation ∈ generated.operations,
      generateOperations doc { installed := some unchanging } = .ok generated ∧
      operation.signature.parameters.map Variable.name = ["ctx", "nil"] ∧
      ∃ call, operation.signature.body = .call call ∧ call.path.arguments = ["nil"] ∧
        Identifiers.ofText call.render = ["out", "GetRoomsByNilResponse", "path", "fmt"] ++ ["nil"] ++
          ["req", "err", "c", "ctx", "http", "path", "nil", "err", "nil", "out", "err", "err", "c", "req", "out", "err",
            "nil", "out", "err", "out", "nil"] := by
  intro doc
  obtain ⟨⟨outcomes, unit⟩, built, found⟩ := ok_holds (buildOperations doc "models")
    (fun built => (built.1.filterMap Outcome.emitted?).any fun operation =>
      operation.signature.parameters.map Variable.name = ["ctx", "nil"] &&
        operation.signature.body.request?.any fun call => call.path.arguments = ["nil"] ∧
          Identifiers.ofText call.render = ["out", "GetRoomsByNilResponse", "path", "fmt"] ++ ["nil"] ++
            ["req", "err", "c", "ctx", "http", "path", "nil", "err", "nil", "out", "err", "err", "c", "req", "out", "err",
              "nil", "out", "err", "out", "nil"]) (by decide +kernel)
  obtain ⟨operation, member, shown⟩ := List.any_eq_true.mp found
  obtain ⟨named, body⟩ := Bool.and_eq_true_iff.mp shown
  obtain ⟨call, own, read⟩ := (Option.any_eq_true ..).mp body
  exact ⟨_, operation, member, generate_operations_unchanging doc "models" outcomes unit built, of_decide_eq_true named,
    call, FunctionBody.request_some _ call own, of_decide_eq_true read⟩

end ApiBindings
