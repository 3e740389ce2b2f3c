import ApiBindings.Proofs.Command.Check
import ApiBindings.Proofs.Files.Places
set_option autoImplicit false

namespace ApiBindings.Command

section

variable (world : World) (config : Config) (document : Document) (formatter : FormatterKind)

def typesOutputs : Except Error (List (String × String)) :=
  match config.types with
  | none => .ok []
  | some types => do
    let package := types.package.getD defaultPackage
    let unit ← unitOf package (generateTypes document (world.options package formatter))
    return [(types.output, unit.source)]

def operationsOutputs : Except Error (List (String × String)) :=
  match config.operations with
  | none => .ok []
  | some operations => do
    let package := operationsPackage config operations
    let unit ← unitOf package (generateOperations document (world.options package formatter))
    return (operations.output, unit.source) :: operations.manifest.toList.map fun path => (path, unit.manifestText)

def configuredOutputs : Except Error (List (String × String)) := do
  return (← typesOutputs world config document formatter) ++ (← operationsOutputs world config document formatter)

end

theorem synced_settles (path text : String) (world after : World) (status : Status)
    (synced : Synced false path text world (.ok status) after) :
    after.tool = world.tool ∧ ∃ place, world.files.Settled path text place after.files := by
  cases synced with
  | compared checked => cases checked
  | upToDate _ held same =>
      rw [same.files]
      exact ⟨same.tool, Files.held_settled world.files path text held⟩
  | written _ _ saved same => exact ⟨same, Files.save_settled world.files after.files path text saved⟩

def Puts (outputs : List (String × String)) (action : Action (StateM World) Status) : Prop :=
  ∀ world status after, perform action world = (.ok status, after) →
    after.tool = world.tool ∧ Files.SettledAll world.files outputs after.files

theorem sync_unit_puts (unit : Generated) (path : String) : Puts [(path, unit.source)] (syncUnit false unit path) := by
  intro world status after done
  have synced := sync_unit_synced false unit path world
  rw [done] at synced
  obtain ⟨tool, place, settled⟩ := synced_settles path unit.source world after status synced
  exact ⟨tool, .next settled (.done _)⟩

theorem sync_manifest_puts (unit : Generated) (path : String) :
    Puts [(path, unit.manifestText)] (syncManifest false unit path) := by
  intro world status after done
  have synced := sync_synced false path unit.manifestText "" world
  rw [← syncManifest, done] at synced
  obtain ⟨tool, place, settled⟩ := synced_settles path unit.manifestText world after status synced
  exact ⟨tool, .next settled (.done _)⟩

theorem perform_bind_succeeded {α β : Type} (x : Action (StateM World) α) (f : α → Action (StateM World) β) (b : β)
    (world after : World) (done : perform (x >>= f) world = (.ok b, after)) :
    ∃ a middle, perform x world = (.ok a, middle) ∧ perform (f a) middle = (.ok b, after) := by
  rw [perform_bind] at done
  cases outcome : perform x world with
  | mk result middle =>
      rw [outcome] at done
      cases result with
      | ok a => exact ⟨a, middle, rfl, done⟩
      | error => cases done

theorem both_put (earlier later : List (String × String)) (x y : Action (StateM World) Status) (first : Puts earlier x)
    (last : Puts later y) : Puts (earlier ++ later) (do let status ← x; return status.and (← y)) := by
  intro world status after done
  obtain ⟨one, middle, ran, done⟩ := perform_bind_succeeded _ _ _ world after done
  obtain ⟨other, _, ranLast, done⟩ := perform_bind_succeeded _ _ _ middle after done
  cases done
  obtain ⟨tool, settled⟩ := first world one middle ran
  obtain ⟨same, more⟩ := last middle other after ranLast
  exact ⟨same.trans tool, settled.append more⟩

theorem sync_operations_puts (output : String) (manifest : Option String) (unit : Generated) :
    Puts ((output, unit.source) :: manifest.toList.map fun path => (path, unit.manifestText))
      (syncOperations false output manifest unit) := by
  cases manifest with
  | none =>
      rw [sync_operations_alone]
      exact sync_unit_puts unit output
  | some path => exact both_put _ _ _ _ (sync_unit_puts unit output) (sync_manifest_puts unit path)

section

variable (config : Config) (document : Document) (formatter : FormatterKind) (world after : World) (status : Status)

theorem prepared_succeeds (package : String) (generate : UnitOptions → Except Failure Generated)
    (rest : Generated → Action (StateM World) Status)
    (done : perform (prepared package formatter generate rest) world = (.ok status, after)) :
    ∃ unit, unitOf package (generate (world.options package formatter)) = .ok unit ∧
      perform (rest unit) world = (.ok status, after) := by
  rw [prepared_performs] at done
  cases made : unitOf package (generate (world.options package formatter)) with
  | ok unit =>
      rw [made] at done
      exact ⟨unit, rfl, done⟩
  | error cause =>
      rw [made] at done
      cases done

theorem configured_types_put
    (done : perform (generateConfiguredTypes config document formatter false) world = (.ok status, after)) :
    ∃ outputs, typesOutputs world config document formatter = .ok outputs ∧ after.tool = world.tool ∧
      Files.SettledAll world.files outputs after.files := by
  unfold typesOutputs
  cases first : config.types with
  | none =>
      unfold generateConfiguredTypes at done
      rw [first] at done
      cases done
      exact ⟨[], rfl, rfl, .done _⟩
  | some types =>
      rw [types_prepared config document formatter false types first] at done
      obtain ⟨unit, made, done⟩ := prepared_succeeds formatter world after status _ _ _ done
      refine ⟨[(types.output, unit.source)], ?_, sync_unit_puts unit types.output world status after done⟩
      simp only [made]
      rfl

theorem configured_operations_put
    (done : perform (generateConfiguredOperations config document formatter false) world = (.ok status, after)) :
    ∃ outputs, operationsOutputs world config document formatter = .ok outputs ∧
      Files.SettledAll world.files outputs after.files := by
  unfold operationsOutputs
  cases second : config.operations with
  | none =>
      unfold generateConfiguredOperations at done
      rw [second] at done
      cases done
      exact ⟨[], rfl, .done _⟩
  | some operations =>
      rw [operations_prepared config document formatter false operations second] at done
      obtain ⟨unit, made, done⟩ := prepared_succeeds formatter world after status _ _ _ done
      refine ⟨(operations.output, unit.source) :: operations.manifest.toList.map fun path => (path, unit.manifestText),
        ?_, (sync_operations_puts operations.output operations.manifest unit world status after done).2⟩
      simp only [made]
      rfl

theorem same_tool_outputs (same : after.tool = world.tool) :
    operationsOutputs after config document formatter = operationsOutputs world config document formatter := by
  unfold operationsOutputs
  simp only [same_tool_options same]

theorem generate_units_put
    (done : perform (generateUnits config document formatter false) world = (.ok status, after)) :
    ∃ outputs, configuredOutputs world config document formatter = .ok outputs ∧
      Files.SettledAll world.files outputs after.files := by
  obtain ⟨one, middle, types, done⟩ := perform_bind_succeeded _ _ _ world after done
  obtain ⟨other, _, operations, done⟩ := perform_bind_succeeded _ _ _ middle after done
  cases done
  obtain ⟨earlier, first, tool, settled⟩ := configured_types_put config document formatter world middle one types
  obtain ⟨later, second, more⟩ := configured_operations_put config document formatter middle after other operations
  rw [same_tool_outputs config document formatter world middle tool] at second
  refine ⟨earlier ++ later, ?_, settled.append more⟩
  unfold configuredOutputs
  rw [first, second]
  rfl

end

theorem run_generate_puts (path : String) (options : RunOptions) (world after : World) (status : Status)
    (writes : options.check = false) (done : perform (runGenerate path options) world = (.ok status, after)) :
    ∃ config document outputs, Config.load path (world.files.read path) = .ok config ∧
      documentAt world.files config.input = .ok document ∧
      configuredOutputs world config document (options.formatter.getD config.formatter) = .ok outputs ∧
      Files.SettledAll world.files outputs after.files := by
  rw [run_generate_performs] at done
  cases configured : Config.load path (world.files.read path) with
  | error cause =>
      rw [configured] at done
      cases done
  | ok config =>
      rw [configured] at done
      dsimp only at done
      cases loaded : documentAt world.files config.input with
      | error cause =>
          rw [loaded] at done
          cases done
      | ok document =>
          rw [loaded, writes] at done
          obtain ⟨outputs, made, settled⟩ := generate_units_put config document _ world after status done
          exact ⟨config, document, outputs, rfl, loaded, made, settled⟩

structure HoldsOutputs (files : Files) (outputs : List (String × String)) : Prop where
  led : ∀ output ∈ outputs, files.SameFile output.1 output.1
  last : ∀ earlier last later, outputs = earlier ++ last :: later →
    (∀ other ∈ later, ¬ files.SameFile last.1 other.1) →
    ∀ output ∈ earlier ++ [last], files.SameFile output.1 last.1 → files.read output.1 = .ok last.2

theorem settled_all_holds (before after : Files) (outputs : List (String × String))
    (all : Files.SettledAll before outputs after) : HoldsOutputs after outputs := by
  refine ⟨fun output mem => ?_, ?_⟩
  · obtain ⟨place, _, led, _⟩ := all.held output mem
    exact ⟨place, led, led⟩
  · rintro earlier last later rfl final
    exact Files.settled_all_last before after earlier later last all final

-- The paths are those of the configuration as it was read, before any of them
-- was written.
theorem generate_holds_outputs (world : World) (arguments : List String) (path : String) (options : RunOptions)
    (requested : Request.ofArguments arguments = .ok (.generate path options)) (writes : options.check = false)
    (done : (world.run arguments).1 = 0) :
    ∃ config document outputs, Config.load path (world.files.read path) = .ok config ∧
      documentAt world.files config.input = .ok document ∧
      configuredOutputs world config document (options.formatter.getD config.formatter) = .ok outputs ∧
      HoldsOutputs (world.run arguments).2.files outputs := by
  cases ran : perform (runRequest (.generate path options)) world with
  | mk result after =>
      obtain ⟨left, code⟩ := run_ends world after arguments _ result requested ran
      cases result with
      | error error => exact absurd (code.symm.trans done) (error_code_positive error)
      | ok status =>
          obtain ⟨config, document, outputs, configured, loaded, made, settled⟩ :=
            run_generate_puts path options world after status writes ran
          rw [left]
          exact ⟨config, document, outputs, configured, loaded, made, settled_all_holds _ _ outputs settled⟩

def withOutputs (types operations manifest : String) : World :=
  let document := "\x7b\"components\":\x7b\"schemas\":\x7b\"Pet\":\x7b\"type\":\"string\"\x7d\x7d\x7d\x7d"
  let config := "input = \"api.json\"\n[types]\noutput = \"" ++ types ++ "\"\n[operations]\noutput = \"" ++ operations ++
    "\"\nmanifest = \"" ++ manifest ++ "\"\n"
  { files := { tree := .directory [
      ("api.json", .file (Text.Utf8.encode document)), ("oasgo.toml", .file (Text.Utf8.encode config))] } }

theorem apart_outputs_held :
    let world := withOutputs "api/models.go" "api/client.go" "manifest.json"
    (world.run ["generate"]).1 = 0 ∧ ∃ config document outputs,
      Config.load "oasgo.toml" (world.files.read "oasgo.toml") = .ok config ∧
      documentAt world.files config.input = .ok document ∧
      configuredOutputs world config document config.formatter = .ok outputs ∧
      HoldsOutputs (world.run ["generate"]).2.files outputs := by
  intro world
  obtain ⟨_, requested, same⟩ :=
    ok_holds (Request.ofArguments ["generate"]) (· = .generate "oasgo.toml" {}) (by decide +kernel)
  obtain rfl := of_decide_eq_true same
  have done : (world.run ["generate"]).1 = 0 := by decide +kernel
  exact ⟨done, generate_holds_outputs world ["generate"] "oasgo.toml" {} requested rfl done⟩

theorem shared_output_overwritten :
    let world := withOutputs "api.go" "api.go" "manifest.json"
    (world.run ["generate"]).1 = 0 ∧ ∃ config document outputs,
      Config.load "oasgo.toml" (world.files.read "oasgo.toml") = .ok config ∧
      documentAt world.files config.input = .ok document ∧
      configuredOutputs world config document config.formatter = .ok outputs ∧
      ∃ output ∈ outputs, (world.run ["generate"]).2.files.read output.1 ≠ .ok output.2 := by
  intro world
  let lost (output : String × String) : Bool :=
    ((world.run ["generate"]).2.files.read output.1).toOption ≠ some output.2
  let loses (config : Config) (document : Document) : Bool :=
    (configuredOutputs world config document config.formatter).toOption.any fun outputs => outputs.any lost
  obtain ⟨done, found⟩ : (world.run ["generate"]).1 = 0 ∧
      (Config.load "oasgo.toml" (world.files.read "oasgo.toml")).toOption.any
        (fun config => (documentAt world.files config.input).toOption.any (loses config)) := by
    decide +kernel
  obtain ⟨config, loads, found⟩ := ok_holds _ _ found
  obtain ⟨document, loaded, found⟩ := ok_holds _ _ found
  obtain ⟨outputs, made, found⟩ := ok_holds _ _ found
  obtain ⟨output, mem, found⟩ := List.any_eq_true.mp found
  refine ⟨done, config, document, outputs, loads, loaded, made, output, mem, fun held => ?_⟩
  have differs := of_decide_eq_true found
  rw [held] at differs
  exact differs rfl

end ApiBindings.Command
