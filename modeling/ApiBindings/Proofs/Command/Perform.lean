import ApiBindings.Command.Line
set_option autoImplicit false

namespace ApiBindings.Command

variable {α β : Type}

def perform (action : Action (StateM World) α) (world : World) : Except Error α × World :=
  StateT.run (m := Id) (ExceptT.run action) world

theorem perform_bind (x : Action (StateM World) α) (f : α → Action (StateM World) β) (world : World) :
    perform (x >>= f) world =
      match perform x world with
      | (.ok a, next) => perform (f a) next
      | (.error error, next) => (.error error, next) := by
  change ExceptT.bindCont f (perform x world).1 (perform x world).2 = _
  cases outcome : perform x world with
  | mk result next => cases result <;> rfl

theorem perform_bind_ok (x : Action (StateM World) α) (f : α → Action (StateM World) β) (a : α) (world next : World)
    (done : perform x world = (.ok a, next)) : perform (x >>= f) world = perform (f a) next := by
  rw [perform_bind, done]

theorem perform_bind_failed (x : Action (StateM World) α) (f : α → Action (StateM World) β) (error : Error)
    (world after : World) (failed : perform (x >>= f) world = (.error error, after)) :
    perform x world = (.error error, after) ∨
      ∃ a middle, perform x world = (.ok a, middle) ∧ perform (f a) middle = (.error error, after) := by
  rw [perform_bind] at failed
  cases outcome : perform x world with
  | mk result middle =>
      rw [outcome] at failed
      cases result with
      | ok a => exact Or.inr ⟨a, middle, rfl, failed⟩
      | error cause =>
          cases failed
          exact Or.inl rfl

theorem perform_pure_failed (a : α) (error : Error) (world after : World)
    (failed : perform (pure a : Action (StateM World) α) world = (.error error, after)) : False := by
  cases failed

theorem read_performs (path : String) (world : World) :
    perform (liftM (Host.readText path : StateM World (Except AccessError String))) world =
      (.ok (world.files.read path), world) := rfl

def documentAt (files : Files) (path : String) : Except Error Document :=
  match files.read path with
  | .error cause => .error (.failure (.access path cause))
  | .ok text => (Document.read (formatOf path) text).mapError .failure

theorem load_document_performs (path : String) (world : World) :
    perform (loadDocument path) world = (documentAt world.files path, world) := by
  unfold loadDocument documentAt
  rw [perform_bind_ok _ _ _ world world (read_performs path world)]
  cases world.files.read path with
  | error cause => rfl
  | ok text =>
      dsimp only
      cases Document.read (formatOf path) text <;> rfl

def World.options (world : World) (package : String) (formatter : FormatterKind) : UnitOptions :=
  { package, formatter, installed := world.tool }

theorem unit_options_performs (package : String) (formatter : FormatterKind) (world : World) :
    perform (unitOptions package formatter) world =
      (if isPackageName package then .ok (world.options package formatter) else .error (.package package), world) := by
  unfold unitOptions
  split <;> rfl

theorem generated_performs (result : Except Failure Generated) (world : World) :
    perform (generated result) world = (result.mapError .failure, world) := by
  cases result <;> rfl

structure World.Alike (a b : World) : Prop where
  files : a.files = b.files
  tool : a.tool = b.tool

-- How a text is put into the file at its path, or compared with it. Each rule
-- keeps what was read or saved; what was printed is of no concern.
inductive Synced (check : Bool) (path text : String) (world : World) : Except Error Status → World → Prop where
  | compared {status : Status} {after : World} (checked : check = true) (same : after.Alike world) :
      Synced check path text world (.ok status) after
  | unreadable {cause : AccessError} {after : World} (checked : check = true) (same : after.Alike world) :
      Synced check path text world (.error (.failure (.access path cause))) after
  | upToDate {after : World} (writes : check = false) (held : world.files.read path = .ok text)
      (same : after.Alike world) : Synced check path text world (.ok .clean) after
  | written {after : World} (writes : check = false) (stale : world.files.read path ≠ .ok text)
      (saved : world.files.save path text = (after.files, .ok ())) (same : after.tool = world.tool) :
      Synced check path text world (.ok .clean) after
  | unwritable {cause : AccessError} {after : World} (writes : check = false)
      (stale : world.files.read path ≠ .ok text) (failed : world.files.save path text = (after.files, .error cause)) :
      Synced check path text world (.error (.failure (.access path cause))) after

def compared (path text : String) : Except AccessError String → Except Error Status
  | .ok current => .ok (if current = text then .clean else .drift)
  | .error .notFound => .ok (if "" = text then .clean else .drift)
  | .error cause => .error (.failure (.access path cause))

theorem compare_performs (path text : String) (world : World) :
    ∃ after, perform (compare path text) world = (compared path text (world.files.read path), after) ∧
      after.Alike world := by
  have said (current : String) : ∃ after, perform (if current = text then do
        say (StateM World) s!"{path} is up to date\n"
        return Status.clean
      else do
        say (StateM World) (Text.Diff.report path current text)
        return Status.drift) world = (.ok (if current = text then .clean else .drift), after) ∧ after.Alike world := by
    split
    next => exact ⟨_, rfl, rfl, rfl⟩
    next => exact ⟨_, rfl, rfl, rfl⟩
  unfold compare
  rw [perform_bind_ok _ _ _ world world (read_performs path world)]
  cases world.files.read path with
  | ok current => exact said current
  | error cause =>
      cases cause with
      | notFound => exact said ""
      | _ => exact ⟨world, rfl, rfl, rfl⟩

theorem compare_synced (path text : String) (world : World) :
    Synced true path text world (perform (compare path text) world).1 (perform (compare path text) world).2 := by
  obtain ⟨after, done, same⟩ := compare_performs path text world
  rw [done]
  unfold compared
  split
  · exact .compared rfl same
  · exact .compared rfl same
  · exact .unreadable rfl same

theorem put_performs (path text written : String) (world : World) :
    perform (save.put path text written) world =
      match world.files.save path text with
      | (files, .ok ()) => (.ok .clean, { world with files, output := world.output ++ s!"Wrote {written}{path}\n" })
      | (files, .error cause) => (.error (.failure (.access path cause)), { world with files }) := by
  unfold save.put
  have saved : perform (liftM (Host.saveText path text : StateM World (Except AccessError Unit))) world =
      (.ok (world.files.save path text).2, { world with files := (world.files.save path text).1 }) := rfl
  rw [perform_bind_ok _ _ _ world _ saved]
  cases world.files.save path text with
  | mk files result => cases result <;> rfl

theorem save_synced (path text written : String) (world : World) :
    Synced false path text world (perform (save path text written) world).1
      (perform (save path text written) world).2 := by
  unfold save
  rw [perform_bind_ok _ _ _ world world (read_performs path world)]
  have put (stale : world.files.read path ≠ .ok text) :
      Synced false path text world (perform (save.put path text written) world).1
        (perform (save.put path text written) world).2 := by
    rw [put_performs]
    cases saved : world.files.save path text with
    | mk files result =>
        cases result with
        | ok => exact .written rfl stale saved rfl
        | error cause => exact .unwritable rfl stale saved
  split
  next current held =>
    by_cases same : current = text
    · simp only [if_pos same]
      exact .upToDate rfl (same ▸ held) ⟨rfl, rfl⟩
    · simp only [if_neg same]
      exact put fun holds => same (Except.ok.inj (held.symm.trans holds))
  next cause missing => exact put fun holds => by cases missing.symm.trans holds

theorem sync_synced (check : Bool) (path text written : String) (world : World) :
    Synced check path text world (perform (sync check path text written) world).1
      (perform (sync check path text written) world).2 := by
  cases check with
  | true => exact compare_synced path text world
  | false => exact save_synced path text written world

theorem World.Alike.trans {a b c : World} (first : a.Alike b) (last : b.Alike c) : a.Alike c :=
  ⟨first.files.trans last.files, first.tool.trans last.tool⟩

theorem Synced.before {check : Bool} {path text : String} {world middle after : World} {result : Except Error Status}
    (synced : Synced check path text middle result after) (same : middle.Alike world) :
    Synced check path text world result after := by
  cases synced with
  | compared checked later => exact .compared checked (later.trans same)
  | unreadable checked later => exact .unreadable checked (later.trans same)
  | upToDate writes held later => exact .upToDate writes (same.files ▸ held) (later.trans same)
  | written writes stale saved later => exact .written writes (same.files ▸ stale) (same.files ▸ saved) (later.trans same.tool)
  | unwritable writes stale failed => exact .unwritable writes (same.files ▸ stale) (same.files ▸ failed)

theorem report_skipped_performs (skipped : List SkippedOperation) (world : World) :
    ∃ after, perform (forIn skipped PUnit.unit fun operation _ => do
        liftM (Host.printError (SkippedOperation.line operation) : StateM World Unit)
        pure (ForInStep.yield PUnit.unit)) world = (.ok PUnit.unit, after) ∧ after.Alike world := by
  induction skipped generalizing world with
  | nil => exact ⟨world, rfl, rfl, rfl⟩
  | cons operation rest ih =>
      obtain ⟨after, reported, same⟩ := ih { world with errors := world.errors ++ SkippedOperation.line operation }
      refine ⟨after, ?_, same.files, same.tool⟩
      rw [List.forIn_cons]
      exact reported

theorem sync_unit_synced (check : Bool) (unit : Generated) (path : String) (world : World) :
    Synced check path unit.source world (perform (syncUnit check unit path) world).1
      (perform (syncUnit check unit path) world).2 := by
  obtain ⟨middle, reported, same⟩ := report_skipped_performs unit.skipped world
  unfold syncUnit
  rw [perform_bind_ok _ _ _ world middle reported]
  exact (sync_synced check path unit.source _ middle).before same

end ApiBindings.Command
