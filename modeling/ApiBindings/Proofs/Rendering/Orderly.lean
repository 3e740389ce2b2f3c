import ApiBindings.Proofs.Rendering.Equations
import ApiBindings.Proofs.Rendering.Result
import ApiBindings.Proofs.Unit.Growth
set_option autoImplicit false

namespace ApiBindings

variable {α β : Type}

def SourceUnit.Registered (unit : SourceUnit) : Prop := ∀ d ∈ unit.declarations, d.name ∈ unit.names.taken

theorem grows_registered (given : List String) (before after : SourceUnit) (grows : before.Grows given after)
    (registered : before.Registered) (taken : ∀ name ∈ given, name ∈ before.names.taken) : after.Registered := by
  intro d member
  rcases grows.fresh d member with old | named | ⟨_, later⟩
  · exact grows.taken d.name (registered d old)
  · exact grows.taken d.name (taken d.name named)
  · exact later

def Clashes (name : String) (result : Except Failure α) : Prop :=
  result = .error (.malformed name .conflictingDeclarations)

namespace Build

-- A failed step counts as well: what it added until then has names of the same
-- kinds.
def Orderly (given : List String) (build : Build α) : Prop :=
  ∀ unit : SourceUnit, unit.Registered → (∀ name ∈ given, name ∈ unit.names.taken) →
    unit.Grows given (build.result unit).2 ∧
      ∀ name, Clashes name (build.result unit).1 → name ∈ given ∧ unit.Declares name

theorem orderly_pure (given : List String) (a : α) : (pure a : Build α).Orderly given :=
  fun unit _ _ => ⟨.refl given unit, fun _ clash => by cases clash⟩

theorem orderly_throw (given : List String) (failure : Failure)
    (never : ∀ name, failure ≠ .malformed name .conflictingDeclarations) :
    (throw failure : Build α).Orderly given :=
  fun unit _ _ => ⟨.refl given unit, fun name clash => absurd (Except.error.inj clash) (never name)⟩

-- A given name that the first step declares was free before, but given names
-- are taken.
theorem orderly_bind (given : List String) (x : Build α) (f : α → Build β) (first : x.Orderly [])
    (next : ∀ a, (f a).Orderly given) : (x >>= f).Orderly given := by
  intro unit registered taken
  obtain ⟨grows, never⟩ := first unit registered (fun name member => absurd member List.not_mem_nil)
  rw [result_bind]
  cases outcome : x.result unit with
  | mk result middle =>
      rw [outcome] at grows never
      cases result with
      | error failure =>
          refine ⟨grows.free given, fun name clash => ?_⟩
          exact absurd (never name (congrArg Except.error (Except.error.inj clash))).1 List.not_mem_nil
      | ok a =>
          have still := grows_registered [] unit middle grows registered fun name member => absurd member List.not_mem_nil
          obtain ⟨last, clashes⟩ := next a middle still fun name member => grows.taken name (taken name member)
          refine ⟨(grows.free given).trans last, fun name clash => ?_⟩
          obtain ⟨named, d, member, rfl⟩ := clashes name clash
          rcases grows.fresh d member with old | none | ⟨free, _⟩
          · exact ⟨named, d, old, rfl⟩
          · exact absurd none List.not_mem_nil
          · exact absurd (taken d.name named) free

theorem orderly_map (given : List String) (f : α → β) (x : Build α) (orderly : x.Orderly given) :
    (f <$> x).Orderly given := by
  intro unit registered taken
  obtain ⟨grows, clashes⟩ := orderly unit registered taken
  have ran : (f <$> x).result unit = (x >>= fun a => pure (f a)).result unit := rfl
  rw [ran, result_bind]
  cases outcome : x.result unit with
  | mk result middle =>
      rw [outcome] at grows clashes
      cases result with
      | error failure => exact ⟨grows, fun name clash => clashes name (congrArg Except.error (Except.error.inj clash))⟩
      | ok a => exact ⟨grows, fun name clash => by cases clash⟩

theorem orderly_declare (d : Declaration) : (declare d).Orderly [d.name] := by
  intro unit _ _
  rw [declare_result]
  cases declared : unit.declare d with
  | ok next => exact ⟨SourceUnit.declare_grows unit next d declared, fun name clash => by cases clash⟩
  | error failure =>
      refine ⟨.refl _ unit, fun name clash => ?_⟩
      obtain ⟨refused, existing, found, _⟩ := SourceUnit.declare_error unit d failure declared
      obtain rfl := (Failure.malformed.inj (refused.symm.trans (Except.error.inj clash))).1
      exact ⟨List.mem_singleton_self _, SourceUnit.find_declares unit d.name (by rw [found]; rfl)⟩

theorem orderly_claim (base : String) (f : String → Build α) (next : ∀ name, (f name).Orderly [name]) :
    (claim base >>= f).Orderly [] := by
  intro unit registered _
  obtain ⟨grows, free, taken⟩ := SourceUnit.claim_grows unit (unit.claim base).2 base (unit.claim base).1 rfl
  have still := grows_registered [] unit _ grows registered fun name member => absurd member List.not_mem_nil
  have ran : (claim base >>= f).result unit = (f (unit.claim base).1).result (unit.claim base).2 := rfl
  obtain ⟨last, clashes⟩ := next (unit.claim base).1 (unit.claim base).2 still fun name member => by
    rwa [List.mem_singleton.mp member]
  rw [ran]
  refine ⟨SourceUnit.claimed_grows unit _ _ base _ rfl last, fun name clash => ?_⟩
  obtain ⟨named, d, member, rfl⟩ := clashes name clash
  have same : (unit.claim base).2.declarations = unit.declarations := rfl
  rw [same] at member
  exact absurd (List.mem_singleton.mp named ▸ registered d member) free

theorem reported_never_clashes (failure : Failure) (reported : failure.OfSchema) (name : String) :
    failure ≠ .malformed name .conflictingDeclarations := by
  rintro rfl
  exact reported rfl

theorem orderly_closed : Closed fun {_} given build => build.Orderly given where
  pure := orderly_pure
  throw given failure reported := orderly_throw given failure (reported_never_clashes failure reported)
  bind := orderly_bind
  map := orderly_map
  claim := orderly_claim
  declare := orderly_declare

end Build

theorem declare_schema_orderly (components : Components) (guard : Guard Schema) (name : String) (s : Schema) :
    (declareSchema components guard name s).Orderly [name] :=
  Build.orderly_closed.declare_schema components guard name s

end ApiBindings
