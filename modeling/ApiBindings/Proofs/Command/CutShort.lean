import ApiBindings.Proofs.Command.Perform
import ApiBindings.Proofs.Files.Access
set_option autoImplicit false

namespace ApiBindings.Command

def unitOf (package : String) (result : Except Failure Generated) : Except Error Generated :=
  if isPackageName package then result.mapError .failure else .error (.package package)

-- The one way in which a run ends with code two and leaves other files: the unit
-- of component types was made and written, and then the unit of client methods
-- is refused.
inductive CutShort (world : World) (path : String) (options : RunOptions) (files : Files) : Prop where
  | atOperations {config : Config} {document : Document} {types : TypesConfig} {operations : OperationsConfig}
      {unit : Generated} {error : Error} (writes : options.check = false)
      (configured : Config.load path (world.files.read path) = .ok config)
      (loaded : documentAt world.files config.input = .ok document) (first : config.types = some types)
      (made : unitOf (types.package.getD defaultPackage) (generateTypes document
        (world.options (types.package.getD defaultPackage) (options.formatter.getD config.formatter))) = .ok unit)
      (stale : world.files.read types.output ≠ .ok unit.source)
      (saved : world.files.save types.output unit.source = (files, .ok ()))
      (second : config.operations = some operations)
      (refused : unitOf (operationsPackage config operations) (generateOperations document
        (world.options (operationsPackage config operations) (options.formatter.getD config.formatter))) = .error error)
      (code : error.exitCode = 2) : CutShort world path options files

def NeverTwo (action : Action (StateM World) Status) : Prop :=
  ∀ world error after, perform action world = (.error error, after) → error.exitCode ≠ 2

theorem access_not_two (path : String) (cause : AccessError) : (Error.failure (.access path cause)).exitCode ≠ 2 := by
  change 3 ≠ 2
  decide

theorem synced_not_two (check : Bool) (path text : String) (world after : World) (error : Error)
    (synced : Synced check path text world (.error error) after) : error.exitCode ≠ 2 := by
  cases synced with
  | unreadable => exact access_not_two path _
  | unwritable => exact access_not_two path _

theorem sync_unit_never_two (check : Bool) (unit : Generated) (path : String) : NeverTwo (syncUnit check unit path) := by
  intro world error after failed
  have synced := sync_unit_synced check unit path world
  rw [failed] at synced
  exact synced_not_two check path unit.source world after error synced

theorem sync_manifest_never_two (check : Bool) (unit : Generated) (path : String) :
    NeverTwo (syncManifest check unit path) := by
  intro world error after failed
  have synced := sync_synced check path unit.manifestText "" world
  rw [← syncManifest, failed] at synced
  exact synced_not_two check path unit.manifestText world after error synced

def syncOperations (check : Bool) (output : String) (manifest : Option String) (unit : Generated) :
    Action (StateM World) Status := do
  let status ← syncUnit check unit output
  match manifest with
  | some path => return status.and (← syncManifest check unit path)
  | none => return status

theorem sync_operations_never_two (check : Bool) (output : String) (manifest : Option String) (unit : Generated) :
    NeverTwo (syncOperations check output manifest unit) := by
  intro world error after failed
  rcases perform_bind_failed _ _ error world after failed with first | ⟨status, middle, _, failed⟩
  · exact sync_unit_never_two check unit output world error after first
  · cases manifest with
    | none => exact (perform_pure_failed _ error middle after failed).elim
    | some path =>
        rcases perform_bind_failed _ _ error middle after failed with last | ⟨_, late, _, failed⟩
        · exact sync_manifest_never_two check unit path middle error after last
        · exact (perform_pure_failed _ error late after failed).elim

def prepared (package : String) (formatter : FormatterKind) (generate : UnitOptions → Except Failure Generated)
    (rest : Generated → Action (StateM World) Status) : Action (StateM World) Status := do
  let options ← unitOptions package formatter
  let unit ← generated (generate options)
  rest unit

section

variable (package : String) (formatter : FormatterKind) (generate : UnitOptions → Except Failure Generated)
  (rest : Generated → Action (StateM World) Status) (world : World)

theorem prepared_performs :
    perform (prepared package formatter generate rest) world =
      match unitOf package (generate (world.options package formatter)) with
      | .ok unit => perform (rest unit) world
      | .error error => (.error error, world) := by
  unfold prepared unitOf
  rw [perform_bind, unit_options_performs]
  by_cases valid : isPackageName package = true
  · simp only [if_pos valid]
    rw [perform_bind, generated_performs]
    cases generate (world.options package formatter) <;> rfl
  · simp only [if_neg valid]

theorem prepared_two (steady : ∀ unit, NeverTwo (rest unit)) (error : Error) (after : World)
    (code : error.exitCode = 2) (failed : perform (prepared package formatter generate rest) world = (.error error, after)) :
    after = world ∧ unitOf package (generate (world.options package formatter)) = .error error := by
  rw [prepared_performs] at failed
  cases made : unitOf package (generate (world.options package formatter)) with
  | ok unit =>
      rw [made] at failed
      exact absurd code (steady unit world error after failed)
  | error cause =>
      rw [made] at failed
      cases failed
      exact ⟨rfl, rfl⟩

end

theorem loaded_failed (path : String) (next : Document → Action (StateM World) Status) (error : Error)
    (world after : World) (failed : perform (loadDocument path >>= next) world = (.error error, after)) :
    after = world ∨ ∃ document, perform (next document) world = (.error error, after) := by
  rcases perform_bind_failed _ _ error world after failed with first | ⟨document, middle, loaded, failed⟩
  · rw [load_document_performs] at first
    exact Or.inl (Prod.mk.inj first).2.symm
  · rw [load_document_performs] at loaded
    obtain rfl := (Prod.mk.inj loaded).2
    exact Or.inr ⟨document, failed⟩

theorem run_types_two (request : UnitRequest) (error : Error) (world after : World) (code : error.exitCode = 2)
    (failed : perform (runTypes request) world = (.error error, after)) : after = world := by
  rcases loaded_failed _ _ error world after failed with same | ⟨document, failed⟩
  · exact same
  · exact (prepared_two _ _ _ _ world (fun unit => sync_unit_never_two request.run.check unit request.output) error after
      code failed).1

theorem run_operations_two (request : UnitRequest) (manifest : Option String) (error : Error) (world after : World)
    (code : error.exitCode = 2) (failed : perform (runOperations request manifest) world = (.error error, after)) :
    after = world := by
  rcases loaded_failed _ _ error world after failed with same | ⟨document, failed⟩
  · exact same
  · exact (prepared_two _ _ _ _ world (sync_operations_never_two request.run.check request.output manifest) error after
      code failed).1

def generateUnits (config : Config) (document : Document) (formatter : FormatterKind) (check : Bool) :
    Action (StateM World) Status := do
  let status ← generateConfiguredTypes config document formatter check
  return status.and (← generateConfiguredOperations config document formatter check)

theorem run_generate_performs (path : String) (options : RunOptions) (world : World) :
    perform (runGenerate path options) world =
      match Config.load path (world.files.read path) with
      | .error cause => (.error (.config cause), world)
      | .ok config =>
        match documentAt world.files config.input with
        | .error error => (.error error, world)
        | .ok document =>
          perform (generateUnits config document (options.formatter.getD config.formatter) options.check) world := by
  unfold runGenerate
  rw [perform_bind_ok _ _ _ world world (read_performs path world)]
  cases Config.load path (world.files.read path) with
  | error cause => rfl
  | ok config =>
      dsimp only
      rw [perform_bind, load_document_performs]
      cases documentAt world.files config.input <;> rfl

section

variable (config : Config) (document : Document) (formatter : FormatterKind) (check : Bool) (world : World)

theorem types_prepared (types : TypesConfig) (first : config.types = some types) :
    generateConfiguredTypes config document formatter check =
      prepared (types.package.getD defaultPackage) formatter (generateTypes document)
        fun unit => syncUnit check unit types.output := by
  unfold generateConfiguredTypes
  rw [first]
  rfl

theorem operations_prepared (operations : OperationsConfig) (second : config.operations = some operations) :
    generateConfiguredOperations config document formatter check =
      prepared (operationsPackage config operations) formatter (generateOperations document)
        (syncOperations check operations.output operations.manifest) := by
  unfold generateConfiguredOperations
  rw [second]
  rfl

theorem configured_types_two (error : Error) (after : World) (code : error.exitCode = 2)
    (failed : perform (generateConfiguredTypes config document formatter check) world = (.error error, after)) :
    after = world := by
  cases first : config.types with
  | none =>
      unfold generateConfiguredTypes at failed
      rw [first] at failed
      exact (perform_pure_failed _ error world after failed).elim
  | some types =>
      rw [types_prepared config document formatter check types first] at failed
      have steady := fun unit => sync_unit_never_two check unit types.output
      exact (prepared_two _ _ _ _ world steady error after code failed).1

theorem configured_types_ok (status : Status) (after : World)
    (done : perform (generateConfiguredTypes config document formatter check) world = (.ok status, after)) :
    after.Alike world ∨ check = false ∧ after.tool = world.tool ∧ ∃ types unit, config.types = some types ∧
      unitOf (types.package.getD defaultPackage)
        (generateTypes document (world.options (types.package.getD defaultPackage) formatter)) = .ok unit ∧
      world.files.read types.output ≠ .ok unit.source ∧
      world.files.save types.output unit.source = (after.files, .ok ()) := by
  cases first : config.types with
  | none =>
      unfold generateConfiguredTypes at done
      rw [first] at done
      cases done
      exact Or.inl ⟨rfl, rfl⟩
  | some types =>
      rw [types_prepared config document formatter check types first, prepared_performs] at done
      cases made : unitOf (types.package.getD defaultPackage)
          (generateTypes document (world.options (types.package.getD defaultPackage) formatter)) with
      | error cause =>
          rw [made] at done
          cases done
      | ok unit =>
          rw [made] at done
          have synced := sync_unit_synced check unit types.output world
          rw [show perform (syncUnit check unit types.output) world = _ from done] at synced
          cases synced with
          | compared _ same => exact Or.inl same
          | upToDate _ _ same => exact Or.inl same
          | written writes stale saved same => exact Or.inr ⟨writes, same, types, unit, rfl, made, stale, saved⟩

theorem configured_operations_two (error : Error) (after : World) (code : error.exitCode = 2)
    (failed : perform (generateConfiguredOperations config document formatter check) world = (.error error, after)) :
    after = world ∧ ∃ operations, config.operations = some operations ∧
      unitOf (operationsPackage config operations) (generateOperations document
        (world.options (operationsPackage config operations) formatter)) = .error error := by
  cases second : config.operations with
  | none =>
      unfold generateConfiguredOperations at failed
      rw [second] at failed
      exact (perform_pure_failed _ error world after failed).elim
  | some operations =>
      rw [operations_prepared config document formatter check operations second] at failed
      have steady := sync_operations_never_two check operations.output operations.manifest
      obtain ⟨same, refused⟩ := prepared_two _ _ _ _ world steady error after code failed
      exact ⟨same, operations, rfl, refused⟩

end

theorem same_tool_options {a b : World} (same : a.tool = b.tool) (package : String) (formatter : FormatterKind) :
    a.options package formatter = b.options package formatter := by
  rw [World.options, World.options, same]

theorem generate_units_two (path : String) (options : RunOptions) (config : Config) (document : Document) (error : Error)
    (world after : World) (configured : Config.load path (world.files.read path) = .ok config)
    (loaded : documentAt world.files config.input = .ok document) (code : error.exitCode = 2)
    (failed : perform (generateUnits config document (options.formatter.getD config.formatter) options.check) world =
      (.error error, after)) : after.files = world.files ∨ CutShort world path options after.files := by
  rcases perform_bind_failed _ _ error world after failed with types | ⟨status, middle, types, failed⟩
  · exact Or.inl (congrArg World.files (configured_types_two config document _ _ world error after code types))
  rcases perform_bind_failed _ _ error middle after failed with operations | ⟨_, late, _, failed⟩
  · obtain ⟨rfl, operations, second, refused⟩ :=
      configured_operations_two config document _ _ middle error after code operations
    rcases configured_types_ok config document _ _ world status after types with
      alike | ⟨writes, tool, configuredTypes, unit, first, made, stale, saved⟩
    · exact Or.inl alike.files
    · rw [same_tool_options tool] at refused
      exact Or.inr (.atOperations writes configured loaded first made stale saved second refused code)
  · exact (perform_pure_failed _ error late after failed).elim

theorem run_generate_two (path : String) (options : RunOptions) (error : Error) (world after : World)
    (code : error.exitCode = 2) (failed : perform (runGenerate path options) world = (.error error, after)) :
    after.files = world.files ∨ CutShort world path options after.files := by
  rw [run_generate_performs] at failed
  cases configured : Config.load path (world.files.read path) with
  | error cause =>
      rw [configured] at failed
      cases failed
      exact Or.inl rfl
  | ok config =>
      rw [configured] at failed
      dsimp only at failed
      cases loaded : documentAt world.files config.input with
      | error cause =>
          rw [loaded] at failed
          cases failed
          exact Or.inl rfl
      | ok document =>
          rw [loaded] at failed
          exact generate_units_two path options config document error world after configured loaded code failed

theorem run_request_two (request : Request) (error : Error) (world after : World) (code : error.exitCode = 2)
    (failed : perform (runRequest request) world = (.error error, after)) :
    after.files = world.files ∨ ∃ path options, request = .generate path options ∧
      CutShort world path options after.files := by
  cases request with
  | types request => exact Or.inl (congrArg World.files (run_types_two request error world after code failed))
  | operations request manifest =>
      exact Or.inl (congrArg World.files (run_operations_two request manifest error world after code failed))
  | generate path options =>
      rcases run_generate_two path options error world after code failed with same | cut
      · exact Or.inl same
      · exact Or.inr ⟨path, options, rfl, cut⟩

theorem synced_written (path text : String) (world after : World) (files : Files) (result : Except Error Status)
    (stale : world.files.read path ≠ .ok text) (saved : world.files.save path text = (files, .ok ()))
    (synced : Synced false path text world result after) :
    result = .ok .clean ∧ after.files = files ∧ after.tool = world.tool := by
  cases synced with
  | compared checked => cases checked
  | unreadable checked => cases checked
  | upToDate _ held => exact absurd held stale
  | written _ _ put same =>
      rw [saved] at put
      exact ⟨rfl, (Prod.mk.inj put).1.symm, same⟩
  | unwritable _ _ failed =>
      rw [saved] at failed
      cases failed

theorem sync_unit_written (unit : Generated) (path : String) (world : World) (files : Files)
    (stale : world.files.read path ≠ .ok unit.source) (saved : world.files.save path unit.source = (files, .ok ())) :
    ∃ after, perform (syncUnit false unit path) world = (.ok .clean, after) ∧ after.files = files ∧
      after.tool = world.tool := by
  have synced := sync_unit_synced false unit path world
  obtain ⟨clean, put, same⟩ := synced_written path unit.source world _ files _ stale saved synced
  exact ⟨_, Prod.ext clean rfl, put, same⟩

-- The converse replays the run: every condition of `CutShort` decides one branch.
theorem cut_short_performs (world : World) (path : String) (options : RunOptions) (files : Files)
    (cut : CutShort world path options files) :
    ∃ error after, perform (runGenerate path options) world = (.error error, after) ∧ error.exitCode = 2 ∧
      after.files = files := by
  obtain @⟨config, document, types, operations, unit, error, writes, configured, loaded, first, made, stale, saved, second,
    refused, code⟩ := cut
  obtain ⟨middle, written, put, tool⟩ := sync_unit_written unit types.output world files stale saved
  have typesDone : perform (generateConfiguredTypes config document (options.formatter.getD config.formatter) false) world =
      (.ok .clean, middle) := by
    rw [types_prepared config document _ false types first, prepared_performs, made]
    exact written
  have operationsFail : perform (generateConfiguredOperations config document
      (options.formatter.getD config.formatter) false) middle = (.error error, middle) := by
    rw [operations_prepared config document _ false operations second, prepared_performs, same_tool_options tool, refused]
  refine ⟨error, middle, ?_, code, put⟩
  rw [run_generate_performs, configured, writes]
  dsimp only
  rw [loaded]
  dsimp only
  rw [generateUnits, perform_bind_ok _ _ _ world middle typesDone, perform_bind, operationsFail]

theorem run_interrupted (world : World) (arguments : List String) (cause : Interruption)
    (interrupted : Request.ofArguments arguments = .error cause) : (world.run arguments).2.files = world.files := by
  unfold World.run runArguments
  rw [interrupted]
  cases cause <;> rfl

theorem run_request (world after : World) (arguments : List String) (request : Request)
    (result : Except Error Status) (requested : Request.ofArguments arguments = .ok request)
    (done : perform (runRequest request) world = (result, after)) :
    (world.run arguments).2.files = after.files ∧
      (world.run arguments).1 = (match result with
        | .ok status => status.exitCode
        | .error error => error.exitCode) := by
  have ran : world.run arguments = StateT.run (m := Id) (finish result : StateM World Nat) after := by
    unfold World.run runArguments
    rw [requested]
    change StateT.run (m := Id) (finish (perform (runRequest request) world).1 : StateM World Nat)
      (perform (runRequest request) world).2 = _
    rw [done]
  rw [ran]
  cases result <;> exact ⟨rfl, rfl⟩

-- From left to right, every failure with code two comes before its own unit is
-- written, so what has changed is the unit written before it.
theorem exit_two_changes_files_iff (world : World) (arguments : List String) (files : Files) :
    ((world.run arguments).1 = 2 ∧ (world.run arguments).2.files = files ∧ files ≠ world.files) ↔
      ∃ path options, Request.ofArguments arguments = .ok (.generate path options) ∧
        CutShort world path options files := by
  refine ⟨?_, ?_⟩
  · rintro ⟨two, rfl, changed⟩
    cases requested : Request.ofArguments arguments with
    | error cause => exact absurd (run_interrupted world arguments cause requested) changed
    | ok request =>
        cases done : perform (runRequest request) world with
        | mk result after =>
            obtain ⟨left, code⟩ := run_request world after arguments request result requested done
            rw [left] at changed ⊢
            rw [code] at two
            cases result with
            | ok status => cases status <;> cases two
            | error error =>
                rcases run_request_two request error world after two done with same | ⟨path, options, rfl, cut⟩
                · exact absurd same changed
                · exact ⟨path, options, rfl, cut⟩
  · rintro ⟨path, options, requested, cut⟩
    obtain ⟨error, after, done, two, rfl⟩ := cut_short_performs world path options files cut
    obtain ⟨left, code⟩ := run_request world after arguments _ _ requested done
    obtain ⟨_, _, _, _, _, stale, saved, _, _, _⟩ := cut
    exact ⟨code.trans two, left, Files.save_changes world.files after.files _ _ stale saved⟩

-- A configuration in which the package of the client methods is no package
-- name.
def misnamed : World :=
  let config := "input = \"api.json\"\n[types]\noutput = \"models.go\"\n" ++
    "[operations]\noutput = \"client.go\"\npackage = \"Client\"\n"
  { files := { tree := .directory [
      ("api.json", .file (Text.Utf8.encode "\x7b\x7d")), ("oasgo.toml", .file (Text.Utf8.encode config))] } }

theorem misnamed_run_leaves_a_file :
    (misnamed.run ["generate"]).1 = 2 ∧ (misnamed.run ["generate"]).2.files ≠ misnamed.files := by
  have before : (misnamed.files.find "models.go").isOk = false := by decide +kernel
  have ran : (misnamed.run ["generate"]).1 = 2 ∧ ((misnamed.run ["generate"]).2.files.find "models.go").isOk = true := by
    decide +kernel
  refine ⟨ran.1, fun same => ?_⟩
  rw [same, before] at ran
  exact Bool.false_ne_true ran.2

end ApiBindings.Command
