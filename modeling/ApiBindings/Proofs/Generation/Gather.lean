import ApiBindings.Generation
import ApiBindings.Proofs.Rendering.Result
import ApiBindings.Proofs.Unit.Growth
set_option autoImplicit false

namespace ApiBindings

variable {α β : Type}

inductive Steps (step : β → Build α) : List β → SourceUnit → List α → SourceUnit → Prop where
  | none {unit : SourceUnit} : Steps step [] unit [] unit
  | next {entry : β} {rest : List β} {a : α} {results : List α} {before middle after : SourceUnit}
      (ran : (step entry).result before = (.ok a, middle)) (others : Steps step rest middle results after) :
      Steps step (entry :: rest) before (a :: results) after

theorem gather_result (step : β → Build α) (entry : β) (rest : List β) (unit : SourceUnit) :
    (gather step (entry :: rest)).result unit =
      match (step entry).result unit with
      | (.ok a, next) =>
        ((gather step rest).result next).map (·.map fun others => { others with results := a :: others.results }) id
      | (.error (.unsupported name shape), next) =>
        ((gather step rest).result next).map
          (·.map fun others => { others with unsupported := (name, shape) :: others.unsupported }) id
      | (.error failure, next) => (.error failure, next) := by
  have stored (next : SourceUnit) : (set next : Build PUnit).result unit = (.ok (), next) := rfl
  rw [gather, Build.result_get_bind]
  cases (step entry).result unit with
  | mk result next =>
      dsimp only
      rw [Build.result_bind, stored]
      have added (f : Gathered α → Gathered α) :
          (gather step rest >>= fun others => pure (f others)).result next =
            ((gather step rest).result next).map (·.map f) id := by
        rw [Build.result_bind]
        rcases (gather step rest).result next with ⟨_ | _, _⟩ <;> rfl
      cases result with
      | ok a => exact added _
      | error failure =>
          cases failure
          case unsupported => exact added _
          all_goals rfl

theorem added_ok (f : Gathered α → Gathered α) (ran : Except Failure (Gathered α) × SourceUnit) (gathered : Gathered α)
    (after : SourceUnit) (done : ran.map (·.map f) id = (.ok gathered, after)) :
    ∃ others, ran = (.ok others, after) ∧ f others = gathered := by
  rcases ran with ⟨_ | others, last⟩
  · cases done
  · cases done
    exact ⟨others, rfl, rfl⟩

theorem added_error (f : Gathered α → Gathered α) (ran : Except Failure (Gathered α) × SourceUnit) (failure : Failure)
    (after : SourceUnit) (done : ran.map (·.map f) id = (.error failure, after)) : ran = (.error failure, after) := by
  rcases ran with ⟨_ | others, last⟩
  · cases done
    rfl
  · cases done

theorem gather_steps (step : β → Build α) (entries : List β) (before after : SourceUnit) (gathered : Gathered α)
    (complete : gathered.unsupported = []) (done : (gather step entries).result before = (.ok gathered, after)) :
    Steps step entries before gathered.results after := by
  induction entries generalizing before gathered with
  | nil =>
      obtain ⟨rfl, rfl⟩ := Build.pure_ok _ _ _ _ done
      exact .none
  | cons entry rest ih =>
      rw [gather_result] at done
      cases ran : (step entry).result before with
      | mk result middle =>
          rw [ran] at done
          cases result with
          | ok a =>
              obtain ⟨others, later, rfl⟩ := added_ok _ _ _ _ done
              exact .next ran (ih _ others complete later)
          | error failure =>
              cases failure
              case unsupported name shape =>
                  obtain ⟨others, _, rfl⟩ := added_ok _ _ _ _ done
                  exact absurd complete (List.cons_ne_nil _ _)
              all_goals cases done

theorem gather_all_steps (step : β → Build α) (entries : List β) (before after : SourceUnit) (results : List α)
    (done : (gatherAll step entries).result before = (.ok results, after)) :
    Steps step entries before results after := by
  obtain ⟨gathered, middle, ran, returned⟩ := Build.bind_ok _ _ _ _ _ done
  split at returned
  next complete =>
    obtain ⟨rfl, rfl⟩ := Build.pure_ok _ _ _ _ returned
    exact gather_steps step entries before middle gathered (List.isEmpty_iff.mp complete) ran
  next => exact (Build.throw_ok _ _ _ _ returned).elim

-- A run that failed got as far as some entry. The entries before it count too,
-- those whose shape was set aside among them.
theorem gather_failed (step : β → Build α) (entries : List β) (before after : SourceUnit) (failure : Failure)
    (done : (gather step entries).result before = (.error failure, after)) :
    ∃ first entry last, entries = first ++ entry :: last ∧
      (step entry).result (first.foldl (fun unit entry => ((step entry).result unit).2) before) =
        (.error failure, after) := by
  induction entries generalizing before with
  | nil => cases done
  | cons entry rest ih =>
      have later (middle : SourceUnit) (left : ((step entry).result before).2 = middle)
          (ran : (gather step rest).result middle = (.error failure, after)) :
          ∃ first current last, entry :: rest = first ++ current :: last ∧
            (step current).result (first.foldl (fun unit entry => ((step entry).result unit).2) before) =
              (.error failure, after) := by
        obtain ⟨first, current, last, rfl, failed⟩ := ih middle ran
        exact ⟨entry :: first, current, last, rfl, by rw [List.foldl_cons, left]; exact failed⟩
      rw [gather_result] at done
      cases ran : (step entry).result before with
      | mk result middle =>
          rw [ran] at done later
          cases result with
          | ok a => exact later _ rfl (added_error _ _ _ _ done)
          | error other =>
              cases other
              case unsupported name shape => exact later _ rfl (added_error _ _ _ _ done)
              all_goals
                cases done
                exact ⟨[], entry, rest, rfl, ran⟩

theorem gather_all_failed (step : β → Build α) (entries : List β) (before after : SourceUnit) (failure : Failure)
    (done : (gatherAll step entries).result before = (.error failure, after)) :
    (∃ shapes, failure = .unsupportedShapes shapes) ∨
      ∃ first entry last, entries = first ++ entry :: last ∧
        (step entry).result (first.foldl (fun unit entry => ((step entry).result unit).2) before) =
          (.error failure, after) := by
  unfold gatherAll at done
  rcases Build.bind_error _ _ _ _ _ done with failed | ⟨gathered, middle, ran, returned⟩
  · exact Or.inr (gather_failed step entries before after failure failed)
  · split at returned
    · cases returned
    · cases returned
      exact Or.inl ⟨_, rfl⟩

theorem steps_grow (step : β → Build α) (entries : List β) (before after : SourceUnit) (results : List α)
    (given : List String) (steps : Steps step entries before results after)
    (grow : ∀ entry ∈ entries, ∀ a unit next, (step entry).result unit = (.ok a, next) → unit.Grows given next) :
    before.Grows given after := by
  induction steps with
  | none => exact SourceUnit.Grows.refl given _
  | next ran _ ih =>
      exact (grow _ List.mem_cons_self _ _ _ ran).trans
        (ih fun entry member => grow entry (List.mem_cons_of_mem _ member))

-- What every step keeps holds in the end. A step may count on its declarations
-- being there in the end, since nothing is ever taken out of a unit.
theorem steps_keep (step : β → Build α) (entries : List β) (before after : SourceUnit) (results : List α)
    (given : List String) (holds : SourceUnit → Prop) (steps : Steps step entries before results after)
    (grow : ∀ entry ∈ entries, ∀ a unit next, (step entry).result unit = (.ok a, next) → unit.Grows given next)
    (kept : ∀ entry ∈ entries, ∀ a unit next, (step entry).result unit = (.ok a, next) →
      (∀ d ∈ next.declarations, d ∈ after.declarations) → holds unit → holds next)
    (start : holds before) : holds after := by
  induction steps with
  | none => exact start
  | next ran others ih =>
      have later := fun entry member => grow entry (List.mem_cons_of_mem _ member)
      have below := (steps_grow step _ _ _ _ given others later).keep
      exact ih later (fun entry member => kept entry (List.mem_cons_of_mem _ member))
        (kept _ List.mem_cons_self _ _ _ ran below start)

theorem steps_append (step : β → Build α) (first last : List β) (before after : SourceUnit) (results : List α)
    (steps : Steps step (first ++ last) before results after) :
    ∃ earlier later middle, Steps step first before earlier middle ∧ Steps step last middle later after := by
  induction first generalizing before results with
  | nil => exact ⟨[], results, before, .none, steps⟩
  | cons entry rest ih =>
      cases steps with
      | next ran others =>
          obtain ⟨earlier, later, middle, front, back⟩ := ih _ _ others
          exact ⟨_ :: earlier, later, middle, .next ran front, back⟩

theorem steps_entry (step : β → Build α) (entries : List β) (before after : SourceUnit) (results : List α)
    (entry : β) (steps : Steps step entries before results after) (member : entry ∈ entries) :
    ∃ first last a earlier later unit next, entries = first ++ entry :: last ∧ results = earlier ++ a :: later ∧
      Steps step first before earlier unit ∧ (step entry).result unit = (.ok a, next) ∧
      Steps step last next later after := by
  induction steps with
  | none => exact absurd member List.not_mem_nil
  | @next current rest a results before middle after ran others ih =>
      rcases List.mem_cons.mp member with rfl | later
      · exact ⟨[], rest, a, [], results, before, middle, rfl, rfl, .none, ran, others⟩
      · obtain ⟨first, last, b, earlier, following, unit, next, rfl, rfl, start, found, finish⟩ := ih later
        exact ⟨current :: first, last, b, a :: earlier, following, unit, next, rfl, rfl, .next ran start, found, finish⟩

theorem steps_result (step : β → Build α) (entries : List β) (before after : SourceUnit) (results : List α) (a : α)
    (steps : Steps step entries before results after) (member : a ∈ results) :
    ∃ entry ∈ entries, ∃ unit next, (step entry).result unit = (.ok a, next) := by
  induction steps with
  | none => exact absurd member List.not_mem_nil
  | next ran _ ih =>
      rcases List.mem_cons.mp member with rfl | later
      · exact ⟨_, List.mem_cons_self, _, _, ran⟩
      · obtain ⟨entry, listed, found⟩ := ih later
        exact ⟨entry, List.mem_cons_of_mem _ listed, found⟩

end ApiBindings
