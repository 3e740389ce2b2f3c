import ApiBindings.Command.Basic
import ApiBindings.Proofs.Except
set_option autoImplicit false

namespace ApiBindings.Command

def UnitRequest.checking (request : UnitRequest) : UnitRequest := { request with run := { request.run with check := true } }

inductive Request.ForUnit : Request → (Document → UnitOptions → Except Failure Generated) → UnitRequest → Prop where
  | types (unit : UnitRequest) : ForUnit (.types unit) generateTypes unit
  | operations (unit : UnitRequest) : ForUnit (.operations unit none) generateOperations unit

namespace Given

def checking (given : Given) : Given := { given with values := given.values ++ [("check", "")] }

def Unchecked (given : Given) : Prop := given.values.lookup "check" = none

theorem lookup_checking (given : Given) (name : String) (other : name ≠ "check") :
    given.checking.values.lookup name = given.values.lookup name := by
  rw [checking, List.lookup_append]
  have absent : List.lookup name [("check", "")] = none := by
    rw [List.lookup_cons, beq_false_of_ne other, List.lookup_nil]
  rw [absent, Option.or_none]

theorem add_checking (given after : Given) (spec : OptionSpec) (value : String) (done : given.add spec value = .ok after)
    (unchecked : after.Unchecked) : given.Unchecked ∧ given.checking.add spec value = .ok after.checking := by
  unfold add misuse at done
  dsimp only at done
  split at done
  next => cases done
  next free =>
    split at done
    next => cases done
    next filled =>
      split at done
      next => cases done
      next fits =>
        obtain rfl := Except.ok.inj done
        have other : spec.name ≠ "check" := by
          intro same
          rw [Unchecked, same, List.lookup_cons, beq_self_eq_true] at unchecked
          cases unchecked
        refine ⟨?_, ?_⟩
        · rwa [Unchecked, List.lookup_cons, beq_false_of_ne (Ne.symm other)] at unchecked
        · unfold add
          dsimp only
          rw [if_neg (lookup_checking given spec.name other ▸ free), if_neg filled, if_neg fits]
          rfl

section

variable (subcommand : Subcommand) (specs : List OptionSpec)

theorem long_checking (given after : Given) (argument : List Char)
    (done : given.long subcommand specs argument = .ok after) (unchecked : after.Unchecked) :
    given.Unchecked ∧ given.checking.long subcommand specs argument = .ok after.checking := by
  unfold long misuse at done ⊢
  dsimp only at done ⊢
  split at done
  next =>
    split at done
    next plain =>
      rw [if_pos plain]
      exact add_checking given after _ "" done unchecked
    next awaits =>
      rw [if_neg awaits]
      obtain rfl := Except.ok.inj done
      exact ⟨unchecked, rfl⟩
  next =>
    split at done
    next => cases done
    next valued =>
      rw [if_neg valued]
      exact add_checking given after _ _ done unchecked
  next =>
    split at done <;> cases done
  next => cases done

theorem short_checking (given after : Given) (letters : List Char)
    (done : given.short subcommand specs letters = .ok after) (unchecked : after.Unchecked) :
    given.Unchecked ∧ given.checking.short subcommand specs letters = .ok after.checking := by
  cases letters with
  | nil =>
      obtain rfl := Except.ok.inj done
      exact ⟨unchecked, rfl⟩
  | cons letter rest =>
      unfold short misuse at done ⊢
      dsimp only at done ⊢
      split at done
      next =>
        obtain rfl := Except.ok.inj done
        exact ⟨unchecked, rfl⟩
      next => exact add_checking given after _ _ done unchecked
      next => exact add_checking given after _ _ done unchecked
      next => split at done <;> cases done

theorem step_checking (given after : Given) (argument : String) (done : step subcommand specs given argument = .ok after)
    (unchecked : after.Unchecked) :
    given.Unchecked ∧ step subcommand specs given.checking argument = .ok after.checking := by
  unfold step misuse at done ⊢
  split at done
  next => cases done
  next going =>
    have still : ¬ given.checking.ended = true := going
    have awaits : given.checking.waiting = given.waiting := rfl
    rw [if_neg still, awaits]
    split at done
    next => cases done
    next => exact add_checking given after _ argument done unchecked
    next =>
      obtain rfl := Except.ok.inj done
      exact ⟨unchecked, rfl⟩
    next => exact long_checking subcommand specs given after _ done unchecked
    next => exact short_checking subcommand specs given after _ done unchecked
    next => cases done

theorem steps_checking (arguments : List String) (given after : Given)
    (done : arguments.foldlM (step subcommand specs) given = .ok after) (unchecked : after.Unchecked) :
    given.Unchecked ∧ arguments.foldlM (step subcommand specs) given.checking = .ok after.checking := by
  induction arguments generalizing given with
  | nil =>
      obtain rfl := Except.ok.inj done
      exact ⟨unchecked, rfl⟩
  | cons argument rest ih =>
      rw [List.foldlM_cons] at done
      obtain ⟨middle, first, done⟩ := except_bind_ok _ _ _ done
      obtain ⟨between, last⟩ := ih middle done
      obtain ⟨before, again⟩ := step_checking subcommand specs given middle argument first between
      refine ⟨before, ?_⟩
      rw [List.foldlM_cons, again]
      exact last

theorem read_checking (required : List String) (other : "check" ∉ required) (arguments : List String) (after : Given)
    (first : step subcommand specs {} "--check" = .ok (checking {}))
    (done : read subcommand specs required arguments = .ok after) (unchecked : after.Unchecked) :
    read subcommand specs required ("--check" :: arguments) = .ok after.checking := by
  unfold read at done ⊢
  obtain ⟨given, ran, done⟩ := except_bind_ok _ _ _ done
  rw [List.foldlM_cons, first]
  cases awaited : given.waiting with
  | some spec =>
      rw [awaited] at done
      cases done
  | none =>
      rw [awaited] at done
      dsimp only at done
      split at done
      next complete =>
        obtain rfl := Except.ok.inj done
        change ((arguments.foldlM (step subcommand specs) (checking {})) >>= _) = _
        rw [(steps_checking subcommand specs arguments {} given ran unchecked).2]
        have present : (required.filter fun name => (given.checking.values.lookup name).isNone) =
            required.filter fun name => (given.values.lookup name).isNone := by
          refine List.filter_congr fun name listed => ?_
          rw [lookup_checking given name fun same => other (same ▸ listed)]
        have still : given.checking.waiting = none := awaited
        simp only [bind, Except.bind, still]
        rw [present, if_pos complete]
        rfl
      next => cases done

end

end Given

theorem unit_checking (given : Given) : given.checking.unit = given.unit.checking := by
  have kept (name : String) (other : name ≠ "check") : given.checking.value? name = given.value? name :=
    given.lookup_checking name other
  have named : (given.checking.value? "check").isSome = true := by
    rw [Given.value?, Given.checking, List.lookup_append]
    cases given.values.lookup "check" <;> rfl
  simp only [Given.unit, Given.run, UnitRequest.checking, kept "input" (by decide), kept "output" (by decide),
    kept "package" (by decide), kept "formatter" (by decide), named]

theorem subcommand_request (first : String) (rest : List String) (request : Request)
    (requested : Request.ofArguments (first :: rest) = .ok request) :
    ∃ subcommand, Subcommand.ofName? first = some subcommand := by
  cases found : Subcommand.ofName? first with
  | some subcommand => exact ⟨subcommand, rfl⟩
  | none =>
      unfold Request.ofArguments misuse at requested
      dsimp only at requested
      rw [found] at requested
      dsimp only at requested
      repeat' split at requested
      all_goals cases requested

theorem check_named (first : String) (rest : List String) (request : Request)
    (generate : Document → UnitOptions → Except Failure Generated) (unit : UnitRequest)
    (requested : Request.ofArguments (first :: rest) = .ok request) (single : request.ForUnit generate unit)
    (writes : unit.run.check = false) :
    ∃ other, Request.ofArguments (first :: "--check" :: rest) = .ok other ∧ other.ForUnit generate unit.checking := by
  obtain ⟨subcommand, found⟩ := subcommand_request first rest request requested
  have chosen (arguments : List String) :
      Request.ofArguments (first :: arguments) = Request.ofSubcommand subcommand arguments := by
    unfold Request.ofArguments
    dsimp only
    rw [found]
  rw [chosen] at requested ⊢
  unfold Request.ofSubcommand at requested ⊢
  obtain ⟨given, read, requested⟩ := except_bind_ok _ _ _ requested
  have unchecked (same : unit = given.unit) : given.Unchecked := by
    rw [same] at writes
    exact Option.not_isSome_iff_eq_none.mp (by rw [show (given.values.lookup "check").isSome = false from writes]; decide)
  cases subcommand with
  | types =>
      obtain rfl := Except.ok.inj requested
      cases single with
      | types =>
      rw [Given.read_checking .types _ _ (by decide) rest given rfl read (unchecked rfl)]
      exact ⟨_, rfl, unit_checking given ▸ .types _⟩
  | operations =>
      obtain rfl := Except.ok.inj requested
      generalize manifest : given.value? "manifest" = named at single
      cases single with
      | operations =>
      rw [Given.read_checking .operations _ _ (by decide) rest given rfl read (unchecked rfl)]
      refine ⟨_, rfl, ?_⟩
      rw [show given.checking.value? "manifest" = none from
        (given.lookup_checking "manifest" (by decide)).trans manifest, unit_checking]
      exact .operations _
  | generate =>
      obtain rfl := Except.ok.inj requested
      cases single

end ApiBindings.Command
