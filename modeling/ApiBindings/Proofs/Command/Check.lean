import ApiBindings.Proofs.Command.Arguments
import ApiBindings.Proofs.Command.CutShort
import ApiBindings.Proofs.Files.Content
set_option autoImplicit false

namespace ApiBindings.Command

def ending : Except Error Status → Nat
  | .ok status => status.exitCode
  | .error error => error.exitCode

theorem sync_unit_compares (unit : Generated) (path : String) (world : World) :
    ∃ after, perform (syncUnit true unit path) world = (compared path unit.source (world.files.read path), after) ∧
      after.Alike world := by
  obtain ⟨middle, reported, same⟩ := report_skipped_performs unit.skipped world
  obtain ⟨after, done, later⟩ := compare_performs path unit.source middle
  refine ⟨after, ?_, later.trans same⟩
  unfold syncUnit
  rw [perform_bind_ok _ _ _ world middle reported]
  exact same.files ▸ done

def runUnit (generate : Document → UnitOptions → Except Failure Generated) (request : UnitRequest) :
    Action (StateM World) Status := do
  let document ← loadDocument request.input
  prepared request.package (request.run.formatter.getD .auto) (generate document)
    fun unit => syncUnit request.run.check unit request.output

def unitMade (generate : Document → UnitOptions → Except Failure Generated) (request : UnitRequest) (world : World) :
    Except Error Generated :=
  (documentAt world.files request.input).bind fun document =>
    unitOf request.package (generate document (world.options request.package (request.run.formatter.getD .auto)))

theorem run_unit_performs (generate : Document → UnitOptions → Except Failure Generated) (request : UnitRequest)
    (world : World) :
    perform (runUnit generate request) world =
      match unitMade generate request world with
      | .ok unit => perform (syncUnit request.run.check unit request.output) world
      | .error error => (.error error, world) := by
  unfold runUnit unitMade
  rw [perform_bind, load_document_performs]
  cases documentAt world.files request.input with
  | error => rfl
  | ok document => exact prepared_performs _ _ _ _ world

theorem sync_operations_alone (check : Bool) (output : String) :
    syncOperations check output none = fun unit => syncUnit check unit output := funext fun _ => bind_pure _

theorem for_unit_runs (request : Request) (generate : Document → UnitOptions → Except Failure Generated)
    (unit : UnitRequest) (single : request.ForUnit generate unit) :
    (runRequest request : Action (StateM World) Status) = runUnit generate unit := by
  cases single with
  | types => rfl
  | operations =>
      change (do
        let document ← loadDocument unit.input
        prepared unit.package (unit.run.formatter.getD .auto) (generateOperations document)
          (syncOperations unit.run.check unit.output none)) = _
      rw [sync_operations_alone]
      rfl

inductive Foretold (before after : Files) (path text : String) : Nat → Prop where
  | upToDate (held : before.read path = .ok text) (same : before.SameContents after) : Foretold before after path text 0
  | stale {current : String} (held : before.read path = .ok current) (differs : current ≠ text)
      (changed : ¬ before.SameContents after) : Foretold before after path text 1
  | noText (held : before.read path = .error .notText) (changed : ¬ before.SameContents after) :
      Foretold before after path text 3
  | missing (held : before.read path = .error .notFound)
      (changed : ".." ∉ Path.names path → ¬ before.SameContents after) :
      Foretold before after path text (if text = "" then 0 else 1)

structure Foretells (before after : Files) (code : Nat) : Prop where
  clean : before.SameContents after → code = 0
  drift : ¬ before.SameContents after → code = 1

theorem foretold_foretells (before after : Files) (path text : String) (code : Nat)
    (foretold : Foretold before after path text code) :
    Foretells before after code ↔ before.read path ≠ .error .notText ∧
      (before.read path = .error .notFound → (text = "" ↔ before.SameContents after)) := by
  cases foretold with
  | upToDate held same =>
      rw [held]
      exact ⟨fun _ => ⟨by simp, by simp⟩, fun _ => ⟨fun _ => rfl, fun changed => absurd same changed⟩⟩
  | stale held differs changed =>
      rw [held]
      exact ⟨fun _ => ⟨by simp, by simp⟩, fun _ => ⟨fun same => absurd same changed, fun _ => rfl⟩⟩
  | noText held changed =>
      refine ⟨fun foretells => ?_, fun text => absurd held text.1⟩
      cases foretells.drift changed
  | missing held =>
      rw [held]
      by_cases empty : text = ""
      · rw [if_pos empty]
        refine ⟨fun foretells => ⟨by simp, fun _ => ⟨fun _ => ?_, fun _ => empty⟩⟩, fun agrees => ?_⟩
        · refine Classical.byContradiction fun changed => ?_
          cases foretells.drift changed
        · exact ⟨fun _ => rfl, fun changed => absurd ((agrees.2 rfl).mp empty) changed⟩
      · rw [if_neg empty]
        refine ⟨fun foretells => ⟨by simp, fun _ => ⟨fun same => absurd same empty, fun same => ?_⟩⟩, fun agrees => ?_⟩
        · cases foretells.clean same
        · exact ⟨fun same => absurd ((agrees.2 rfl).mpr same) empty, fun _ => rfl⟩

theorem saved_foretold (before after : Files) (path text : String) (stale : before.read path ≠ .ok text)
    (saved : before.save path text = (after, .ok ())) :
    ∃ code, Foretold before after path text code ∧
      ending (compared path text (before.read path)) = code := by
  obtain ⟨place, led, content⟩ := Files.save_content before after path text saved
  have written : after.tree.content? place = some (Text.Utf8.encode text) := by rw [content, if_pos rfl]
  cases led with
  | file stood read =>
      rename_i bytes
      have changed : ¬ before.SameContents after := by
        intro same
        rw [same place, written] at stood
        rw [← Option.some.inj stood, Files.text_of_encode] at read
        exact stale read
      unfold Files.textOf at read
      split at read
      next current decoded =>
        have differs : current ≠ text := fun same => stale (same ▸ read)
        refine ⟨1, .stale read differs changed, ?_⟩
        rw [read, compared, if_neg differs]
        rfl
      next =>
        refine ⟨3, .noText read changed, ?_⟩
        rw [read]
        rfl
  | nowhere read straight =>
      refine ⟨_, .missing read fun forward same => ?_, ?_⟩
      · cases (straight forward).symm.trans ((same place).trans written)
      · rw [read, compared]
        by_cases empty : text = ""
        · rw [if_pos empty.symm, if_pos empty]
          rfl
        · rw [if_neg (Ne.symm empty), if_neg empty]
          rfl

theorem error_code_positive (error : Error) : error.exitCode ≠ 0 := by
  cases error with
  | failure cause => cases cause <;> exact Nat.succ_ne_zero _
  | config cause => cases cause <;> exact Nat.succ_ne_zero _
  | package => exact Nat.succ_ne_zero _

theorem run_unit_succeeds (generate : Document → UnitOptions → Except Failure Generated) (request : UnitRequest)
    (world after : World) (status : Status) (done : perform (runUnit generate request) world = (.ok status, after)) :
    ∃ unit, unitMade generate request world = .ok unit ∧
      perform (syncUnit request.run.check unit request.output) world = (.ok status, after) := by
  rw [run_unit_performs] at done
  cases made : unitMade generate request world with
  | error error =>
      rw [made] at done
      cases done
  | ok unit =>
      rw [made] at done
      exact ⟨unit, rfl, done⟩

theorem check_foretold (generate : Document → UnitOptions → Except Failure Generated) (request : UnitRequest)
    (world after : World) (status : Status) (writes : request.run.check = false)
    (done : perform (runUnit generate request) world = (.ok status, after)) :
    ∃ unit result checked, unitMade generate request world = .ok unit ∧
      perform (runUnit generate request.checking) world = (result, checked) ∧ checked.files = world.files ∧
      after.files.read request.output = .ok unit.source ∧
      (∃ place, ∀ other ≠ place, after.files.tree.content? other = world.files.tree.content? other) ∧
      Foretold world.files after.files request.output unit.source (ending result) := by
  obtain ⟨unit, made, synced⟩ := run_unit_succeeds generate request world after status done
  obtain ⟨checked, compares, alike⟩ := sync_unit_compares unit request.output world
  have again : perform (runUnit generate request.checking) world =
      (compared request.output unit.source (world.files.read request.output), checked) := by
    rw [run_unit_performs, show unitMade generate request.checking world = .ok unit from made]
    exact compares
  refine ⟨unit, _, checked, made, again, alike.files, ?_⟩
  have outcome := sync_unit_synced request.run.check unit request.output world
  rw [synced, writes] at outcome
  cases outcome with
  | compared impossible => cases impossible
  | upToDate _ held same =>
      rw [same.files, held, compared, if_pos rfl]
      exact ⟨rfl, ⟨[], fun _ _ => rfl⟩, .upToDate held fun _ => rfl⟩
  | written _ stale saved _ =>
      obtain ⟨code, foretold, ends⟩ := saved_foretold world.files after.files _ _ stale saved
      obtain ⟨place, _, content⟩ := Files.save_content world.files after.files _ _ saved
      refine ⟨Files.save_read _ _ _ _ saved, ⟨place, fun other apart => ?_⟩, ends ▸ foretold⟩
      rw [content, if_neg apart]

theorem run_ends (world after : World) (arguments : List String) (request : Request) (result : Except Error Status)
    (requested : Request.ofArguments arguments = .ok request)
    (done : perform (runRequest request) world = (result, after)) :
    (world.run arguments).2.files = after.files ∧ (world.run arguments).1 = ending result := by
  cases result <;> exact run_request world after arguments request _ requested done

theorem check_foretells_iff (world : World) (arguments checked : List String) (request other : Request)
    (generate : Document → UnitOptions → Except Failure Generated) (unit : UnitRequest)
    (requested : Request.ofArguments arguments = .ok request) (single : request.ForUnit generate unit)
    (writes : unit.run.check = false) (repeated : Request.ofArguments checked = .ok other)
    (same : other.ForUnit generate unit.checking) (done : (world.run arguments).1 = 0) :
    (world.run checked).2.files = world.files ∧
    ∃ made, unitMade generate unit world = .ok made ∧
      (world.run arguments).2.files.read unit.output = .ok made.source ∧
      (∃ place, ∀ other ≠ place,
        (world.run arguments).2.files.tree.content? other = world.files.tree.content? other) ∧
      Foretold world.files (world.run arguments).2.files unit.output made.source (world.run checked).1 ∧
      (Foretells world.files (world.run arguments).2.files (world.run checked).1 ↔
        world.files.read unit.output ≠ .error .notText ∧
          (world.files.read unit.output = .error .notFound →
            (made.source = "" ↔ world.files.SameContents (world.run arguments).2.files))) := by
  have runs := for_unit_runs request generate unit single
  have checks := for_unit_runs other generate unit.checking same
  cases ran : perform (runRequest request) world with
  | mk result after =>
      obtain ⟨left, code⟩ := run_ends world after arguments request result requested ran
      cases result with
      | error error => exact absurd (code.symm.trans done) (error_code_positive error)
      | ok status =>
          obtain ⟨made, result, later, source, compares, kept, read, elsewhere, foretold⟩ :=
            check_foretold generate unit world after status writes (runs ▸ ran)
          obtain ⟨leaves, ends⟩ := run_ends world later checked other result repeated (checks ▸ compares)
          rw [left, leaves, ends]
          exact ⟨kept, made, source, read, elsewhere, foretold, foretold_foretells _ _ _ _ _ foretold⟩

def outdated (content : Text.Utf8.Bytes) : World :=
  { files := { tree := .directory [
      ("api.json", .file (Text.Utf8.encode "\x7b\x7d")), ("models.go", .file content)] } }

def outdatedTypes : UnitRequest := { input := "api.json", output := "models.go", package := defaultPackage }

theorem outdated_text_foretold :
    let arguments := ["types", "-i", "api.json", "-o", "models.go"]
    let world := outdated (Text.Utf8.encode "package old\n")
    (world.run arguments).1 = 0 ∧ (world.run ("types" :: "--check" :: arguments.tail)).2.files = world.files ∧
      Foretells world.files (world.run arguments).2.files (world.run ("types" :: "--check" :: arguments.tail)).1 := by
  intro arguments world
  obtain ⟨_, requested, same⟩ := ok_holds (Request.ofArguments arguments) (· = .types outdatedTypes) (by decide +kernel)
  obtain rfl := of_decide_eq_true same
  obtain ⟨other, repeated, same⟩ :=
    check_named "types" arguments.tail _ generateTypes outdatedTypes requested (.types _) rfl
  have done : (world.run arguments).1 = 0 := by decide +kernel
  have held : world.files.read "models.go" = .ok "package old\n" := by
    obtain ⟨text, read, holds⟩ := ok_holds (world.files.read "models.go") (· = "package old\n") (by decide +kernel)
    rw [read, of_decide_eq_true holds]
  obtain ⟨kept, made, _, _, _, _, exact⟩ := check_foretells_iff world arguments _ _ other generateTypes outdatedTypes requested
    (.types _) rfl repeated same done
  refine ⟨done, kept, exact.mpr ⟨fun noText => ?_, fun missing => ?_⟩⟩
  · cases held.symm.trans noText
  · cases held.symm.trans missing

-- A file that is no text is replaced where the check fails on it. An empty unit
-- makes a file where the check sees no difference.
theorem garbled_output_not_foretold :
    let arguments := ["types", "-i", "api.json", "-o", "models.go"]
    let garbled := outdated [0xff]
    let silent : World := {
      files := { tree := .directory [("api.json", .file (Text.Utf8.encode "\x7b\x7d"))] }
      tool := some fun _ => { exit := 0, output := [], errors := [] } }
    ((garbled.run arguments).1 = 0 ∧ ¬ garbled.files.SameContents (garbled.run arguments).2.files ∧
      (garbled.run (arguments ++ ["--check"])).1 = 3) ∧
    ((silent.run arguments).1 = 0 ∧ ¬ silent.files.SameContents (silent.run arguments).2.files ∧
      (silent.run (arguments ++ ["--check"])).1 = 0) := by
  intro arguments garbled silent
  have garbledRuns : (garbled.run arguments).1 = 0 ∧ (garbled.run (arguments ++ ["--check"])).1 = 3 ∧
      garbled.files.tree.content? ["models.go"] ≠ (garbled.run arguments).2.files.tree.content? ["models.go"] := by
    decide +kernel
  have silentRuns : (silent.run arguments).1 = 0 ∧ (silent.run (arguments ++ ["--check"])).1 = 0 ∧
      silent.files.tree.content? ["models.go"] ≠ (silent.run arguments).2.files.tree.content? ["models.go"] := by
    decide +kernel
  exact ⟨⟨garbledRuns.1, fun same => garbledRuns.2.2 (same _), garbledRuns.2.1⟩,
    silentRuns.1, fun same => silentRuns.2.2 (same _), silentRuns.2.1⟩

end ApiBindings.Command
