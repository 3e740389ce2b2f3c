import ApiBindings.Rendering.Guard
import Mathlib.Data.Finset.Card
import Mathlib.Data.Finset.Dedup
set_option autoImplicit false

namespace ApiBindings

inductive ScopeStep (κ : Type) where
  | enter (key : κ) (name : String)
  | exit

structure Scopes (κ : Type) where
  guard : Guard κ := {}
  opened : List (Expansion κ) := []

inductive WellNested {κ : Type} : List (ScopeStep κ) → Prop where
  | nil : WellNested []
  | scope {key : κ} {name : String} {inside after : List (ScopeStep κ)} (nested : WellNested inside)
      (more : WellNested after) : WellNested (.enter key name :: (inside ++ .exit :: after))

-- What a caller does with a guard. A scope is left with whatever its body ends, and the
-- caller may go on after a failure or pass it on.
inductive Expanding (κ ε α : Type) where
  | done (result : Except ε α)
  | ask (key : κ) (next : Option String → Expanding κ ε α)
  | scope (key : κ) (name : String) (body : Expanding κ ε α) (next : Except ε α → Expanding κ ε α)

section

variable {κ : Type}

def openStep (scopes : List (κ × String)) : ScopeStep κ → List (κ × String)
  | .enter key name => (key, name) :: scopes
  | .exit => scopes.tail

def openScopes (steps : List (ScopeStep κ)) : List (κ × String) := steps.foldl openStep []

theorem well_nested_append (first last : List (ScopeStep κ)) (before : WellNested first) (after : WellNested last) :
    WellNested (first ++ last) := by
  induction before with
  | nil => exact after
  | @scope key name inside more nested _ _ ih =>
      rw [List.cons_append, List.append_assoc, List.cons_append]
      exact .scope nested ih

theorem well_nested_open (steps : List (ScopeStep κ)) (nested : WellNested steps) (scopes : List (κ × String)) :
    steps.foldl openStep scopes = scopes := by
  induction nested generalizing scopes with
  | nil => rfl
  | @scope key name inside after _ _ ih more =>
      rw [List.foldl_cons, List.foldl_append, ih, List.foldl_cons]
      exact more scopes

theorem innermost_opened (steps : List (ScopeStep κ)) (key : κ) (name : String) (outer : List (κ × String))
    (innermost : openScopes steps = (key, name) :: outer) :
    ∃ before inside, steps = before ++ .enter key name :: inside ∧ WellNested inside ∧ openScopes before = outer := by
  rcases List.eq_nil_or_concat steps with rfl | ⟨earlier, last, same⟩
  · cases innermost
  · rw [List.concat_eq_append] at same
    rw [same, openScopes, List.foldl_append] at innermost
    cases last with
    | enter other named =>
        obtain ⟨entry, outside⟩ := List.cons.inj innermost
        obtain ⟨rfl, rfl⟩ := Prod.mk.inj entry
        exact ⟨earlier, [], same, .nil, outside⟩
    | exit =>
        cases left : openScopes earlier with
        | nil =>
            rw [show earlier.foldl openStep [] = [] from left] at innermost
            cases innermost
        | cons scope others =>
            rw [show earlier.foldl openStep [] = scope :: others from left] at innermost
            obtain ⟨front, body, parts, closed, outside⟩ := innermost_opened earlier scope.1 scope.2 others left
            have shorter : front.length < steps.length := by
              rw [same, parts]
              simp
            obtain ⟨before, inside, opening, nested, remains⟩ :=
              innermost_opened front key name outer (outside.trans innermost)
            refine ⟨before, inside ++ .enter scope.1 scope.2 :: (body ++ [.exit]), ?_, ?_, remains⟩
            · rw [same, parts, opening]
              simp
            · exact well_nested_append _ _ nested (.scope closed .nil)
termination_by steps.length
decreasing_by
  · rw [same, List.length_append]
    exact Nat.lt_succ_self _
  · exact shorter

end

section

variable {κ : Type} [DecidableEq κ]

def Scopes.step (scopes : Scopes κ) : ScopeStep κ → Scopes κ
  | .enter key name => ⟨scopes.guard.enter key name, scopes.guard.expansion key :: scopes.opened⟩
  | .exit =>
    match scopes.opened with
    | [] => scopes
    | innermost :: outer => ⟨scopes.guard.leave innermost, outer⟩

def Scopes.run (steps : List (ScopeStep κ)) : Scopes κ := steps.foldl Scopes.step {}

def Expanding.run {ε α : Type} (guard : Guard κ) : Expanding κ ε α → Except ε α × Guard κ
  | .done result => (result, guard)
  | .ask key next => (next (guard.inProgress key)).run guard
  | .scope key name body next =>
    let left := body.run (guard.enter key name)
    (next left.1).run (left.2.leave (guard.expansion key))

theorem enter_in_progress (guard : Guard κ) (key other : κ) (name : String) :
    (guard.enter key name).inProgress other = (guard.inProgress other).or (if other = key then some name else none) := by
  unfold Guard.enter Guard.isActive
  by_cases same : other = key
  · subst other
    cases found : guard.inProgress key with
    | none => simp [Guard.inProgress]
    | some owner => simp [found]
  · rw [if_neg same, Option.or_none]
    split
    next => rfl
    next => simp [Guard.inProgress, List.lookup_cons, beq_false_of_ne same]

theorem enter_leave (guard : Guard κ) (key : κ) (name : String) :
    (guard.enter key name).leave (guard.expansion key) = guard := by
  unfold Guard.enter Guard.leave Guard.expansion
  cases active : guard.isActive key with
  | true => rfl
  | false =>
      have absent : ∀ entry ∈ guard.active, entry.1 ≠ key := by
        rw [Guard.isActive, Option.isSome_eq_false_iff, Option.isNone_iff_eq_none] at active
        intro entry member same
        simpa [same] using List.lookup_eq_none_iff.mp active entry member
      have kept : guard.active.filter (·.1 ≠ key) = guard.active :=
        List.filter_eq_self.mpr fun entry member => decide_eq_true (absent entry member)
      have dropped : ((key, name) :: guard.active).filter (·.1 ≠ key) = guard.active.filter (·.1 ≠ key) :=
        List.filter_cons_of_neg (by simp)
      exact congrArg Guard.mk (dropped.trans kept)

theorem enter_size (guard : Guard κ) (key : κ) (name : String) :
    (guard.enter key name).size = if guard.isActive key then guard.size else guard.size + 1 := by
  unfold Guard.enter
  split <;> rfl

def Scopes.ofOpen : List (κ × String) → Scopes κ
  | [] => {}
  | (key, name) :: outer => (Scopes.ofOpen outer).step (.enter key name)

theorem open_step (scopes : List (κ × String)) (step : ScopeStep κ) :
    (Scopes.ofOpen scopes).step step = Scopes.ofOpen (openStep scopes step) := by
  cases step with
  | enter key name => rfl
  | exit =>
      cases scopes with
      | nil => rfl
      | cons scope outer =>
          have left := enter_leave (Scopes.ofOpen outer).guard scope.1 scope.2
          exact congrArg (Scopes.mk · _) left

theorem run_open (steps : List (ScopeStep κ)) : Scopes.run steps = Scopes.ofOpen (openScopes steps) := by
  have from_open (scopes : List (κ × String)) :
      steps.foldl Scopes.step (Scopes.ofOpen scopes) = Scopes.ofOpen (steps.foldl openStep scopes) := by
    induction steps generalizing scopes with
    | nil => rfl
    | cons step rest ih => rw [List.foldl_cons, List.foldl_cons, open_step, ih]
  exact from_open []

theorem open_in_progress (scopes : List (κ × String)) (key : κ) :
    (Scopes.ofOpen scopes).guard.inProgress key = scopes.reverse.lookup key := by
  induction scopes with
  | nil => rfl
  | cons scope outer ih =>
      have entered := enter_in_progress (Scopes.ofOpen outer).guard scope.1 key scope.2
      have alone : [scope].lookup key = if key = scope.1 then some scope.2 else none := by
        rw [List.lookup_cons, List.lookup_nil]
        by_cases same : key = scope.1
        · rw [if_pos same, beq_iff_eq.mpr same]
        · rw [if_neg same, beq_false_of_ne same]
      rw [List.reverse_cons, List.lookup_append, ← ih, alone]
      exact entered

theorem open_active (scopes : List (κ × String)) (key : κ) :
    (Scopes.ofOpen scopes).guard.isActive key = true ↔ key ∈ scopes.map Prod.fst := by
  rw [Guard.isActive, open_in_progress, List.lookup_isSome_iff, List.mem_map]
  simp only [List.mem_reverse, beq_iff_eq, @eq_comm κ key]

theorem open_size (scopes : List (κ × String)) :
    (Scopes.ofOpen scopes).guard.size = (scopes.map Prod.fst).toFinset.card := by
  induction scopes with
  | nil => rfl
  | cons scope outer ih =>
      have entered := enter_size (Scopes.ofOpen outer).guard scope.1 scope.2
      rw [List.map_cons, List.toFinset_cons]
      by_cases again : scope.1 ∈ outer.map Prod.fst
      · rw [Finset.insert_eq_of_mem (List.mem_toFinset.mpr again), ← ih]
        rwa [if_pos ((open_active outer scope.1).mpr again)] at entered
      · rw [Finset.card_insert_of_notMem fun member => again (List.mem_toFinset.mp member), ← ih]
        rwa [if_neg fun active => again ((open_active outer scope.1).mp active)] at entered

theorem expanding_restores {ε α : Type} (work : Expanding κ ε α) (guard : Guard κ) : (work.run guard).2 = guard := by
  induction work generalizing guard with
  | done result => rfl
  | ask key next ih => exact ih _ guard
  | scope key name body next within after =>
      dsimp only [Expanding.run]
      rw [within, enter_leave]
      exact after _ guard

theorem scopes_unwind {ε α : Type} (steps : List (ScopeStep κ)) :
    (∀ key, (Scopes.run steps).guard.inProgress key = (openScopes steps).reverse.lookup key) ∧
    (Scopes.run steps).guard.size = ((openScopes steps).map Prod.fst).toFinset.card ∧
    (Scopes.run steps).guard.isEmpty = (openScopes steps).isEmpty ∧
    (openScopes steps ≠ [] → ∃ before key name inside, steps = before ++ .enter key name :: inside ∧ WellNested inside) ∧
    (∀ before key name inside, steps = before ++ .enter key name :: inside → WellNested inside →
      Scopes.run (steps ++ [.exit]) = Scopes.run before) ∧
    ∀ (work : Expanding κ ε α) (guard : Guard κ), (work.run guard).2 = guard := by
  have opened := run_open steps
  refine ⟨fun key => ?_, ?_, ?_, fun some_open => ?_, fun before key name inside parts nested => ?_, expanding_restores⟩
  · rw [opened, open_in_progress]
  · rw [opened, open_size]
  · have sized := open_size (openScopes steps)
    rw [opened]
    cases scopes : openScopes steps with
    | nil => rfl
    | cons scope outer =>
        rw [scopes] at sized
        have some_key : 0 < ((scope :: outer).map Prod.fst).toFinset.card :=
          Finset.card_pos.mpr ⟨scope.1, List.mem_toFinset.mpr List.mem_cons_self⟩
        rw [← sized] at some_key
        exact List.isEmpty_eq_false_iff.mpr (List.ne_nil_of_length_pos some_key)
  · obtain ⟨scope, outer, innermost⟩ := List.exists_cons_of_ne_nil some_open
    obtain ⟨before, inside, parts, nested, _⟩ := innermost_opened steps scope.1 scope.2 outer innermost
    exact ⟨before, scope.1, scope.2, inside, parts, nested⟩
  · have closed : openScopes (steps ++ [.exit]) = openScopes before := by
      have entered : openScopes steps = (key, name) :: openScopes before := by
        rw [parts, openScopes, List.foldl_append, List.foldl_cons]
        exact well_nested_open inside nested _
      rw [openScopes, List.foldl_append, show steps.foldl openStep [] = _ from entered]
      rfl
    rw [run_open, closed, ← run_open before]

theorem reentered_scopes_unwind :
    let steps : List (ScopeStep String) := [.enter "a" "Outer", .enter "b" "Inner", .enter "a" "Again", .exit]
    openScopes steps ≠ [] ∧ steps = [.enter "a" "Outer"] ++ .enter "b" "Inner" :: [.enter "a" "Again", .exit] ∧
      @WellNested String [.enter "a" "Again", .exit] ∧ (Scopes.run steps).guard.inProgress "a" = some "Outer" ∧
      (∃ before key name inside, steps = before ++ .enter key name :: inside ∧ WellNested inside) ∧
      Scopes.run (steps ++ [.exit]) = Scopes.run [.enter "a" "Outer"] := by
  intro steps
  have opened : openScopes steps ≠ [] := by decide
  have nested : @WellNested String [.enter "a" "Again", .exit] := .scope .nil .nil
  obtain ⟨outermost, _, _, entered, restored, _⟩ := @scopes_unwind String _ Unit Unit steps
  exact ⟨opened, rfl, nested, (outermost "a").trans (by decide), entered opened,
    restored [.enter "a" "Outer"] "b" "Inner" [.enter "a" "Again", .exit] rfl nested⟩

end

end ApiBindings
