import ApiBindings.Proofs.Documentation.Related
import ApiBindings.Proofs.Generation.Gather
set_option autoImplicit false

namespace ApiBindings

variable {α β : Type}

def Ended (ends : Failure → Prop) (result : Except Failure α) : Prop :=
  ∃ failure, result = .error failure ∧ ends failure

theorem ended_map (ends : Failure → Prop) (f : α → β) (result : Except Failure α) (ended : Ended ends result) :
    Ended ends (result.map f) := by
  obtain ⟨failure, rfl, final⟩ := ended
  exact ⟨failure, rfl, final⟩

def RunsAgree {γ : Type} (holds : SourceUnit → SourceUnit → Prop) (ends : Failure → Prop) (V : γ → γ → Prop)
    (x y : Except Failure γ × SourceUnit) : Prop :=
  (holds x.2 y.2 ∧ Results V x.1 y.1) ∨ Ended ends x.1 ∨ Ended ends y.1

structure GatheredAgree (V : α → α → Prop) (first second : Gathered α) : Prop where
  results : List.Forall₂ V first.results second.results
  unsupported : first.unsupported = second.unsupported

section

variable {holds : SourceUnit → SourceUnit → Prop} {ends : Failure → Prop} {V : α → α → Prop}

theorem runs_agree_map {γ δ : Type} {W : γ → γ → Prop} {U : δ → δ → Prop} (f g : γ → δ)
    (x y : Except Failure γ × SourceUnit) (agree : RunsAgree holds ends W x y) (next : ∀ a b, W a b → U (f a) (g b)) :
    RunsAgree holds ends U (x.map (·.map f) id) (y.map (·.map g) id) := by
  rcases agree with ⟨held, results⟩ | first | second
  · exact Or.inl ⟨held, results_map f g _ _ results next⟩
  · exact Or.inr (Or.inl (ended_map ends f _ first))
  · exact Or.inr (Or.inr (ended_map ends g _ second))

-- An unsupported shape does not end a run, so the steps do not leave it open.
variable (supported : ∀ name shape, ¬ ends (.unsupported name shape))
include supported

theorem gather_ended (step : β → Build α) (entry : β) (rest : List β) (unit : SourceUnit)
    (ended : Ended ends ((step entry).result unit).1) : Ended ends ((gather step (entry :: rest)).result unit).1 := by
  obtain ⟨failure, failed, final⟩ := ended
  rw [gather_result]
  cases outcome : (step entry).result unit with
  | mk result next =>
      obtain rfl : result = .error failure := by rw [← failed, outcome]
      cases failure
      case unsupported name shape => exact absurd final (supported name shape)
      all_goals exact ⟨_, rfl, final⟩

theorem gather_agrees (first second : β → Build α) (related : β → β → Prop)
    (step : ∀ p q a b, related p q → holds a b → RunsAgree holds ends V ((first p).result a) ((second q).result b))
    (entries others : List β) (agree : List.Forall₂ related entries others) (a b : SourceUnit) (held : holds a b) :
    RunsAgree holds ends (GatheredAgree V) ((gather first entries).result a) ((gather second others).result b) := by
  induction agree generalizing a b with
  | nil => exact Or.inl ⟨held, .ok ⟨.nil, rfl⟩⟩
  | @cons p q rest later head _ ih =>
      rcases step p q a b head held with ⟨still, results⟩ | left | right
      · rw [gather_result, gather_result]
        rcases outcome : (first p).result a with ⟨result, c⟩
        rcases other : (second q).result b with ⟨found, d⟩
        rw [outcome, other] at still results
        cases results with
        | ok same =>
            exact runs_agree_map _ _ _ _ (ih c d still) fun _ _ gathered =>
              ⟨.cons same gathered.results, gathered.unsupported⟩
        | error failure =>
            cases failure
            case unsupported name shape =>
                exact runs_agree_map _ _ _ _ (ih c d still) fun _ _ gathered =>
                  ⟨gathered.results, congrArg (List.cons (name, shape)) gathered.unsupported⟩
            all_goals exact Or.inl ⟨still, .error _⟩
      · exact Or.inr (Or.inl (gather_ended supported first p rest a left))
      · exact Or.inr (Or.inr (gather_ended supported second q later b right))

theorem gather_all_agrees (first second : β → Build α) (related : β → β → Prop)
    (step : ∀ p q a b, related p q → holds a b → RunsAgree holds ends V ((first p).result a) ((second q).result b))
    (entries others : List β) (agree : List.Forall₂ related entries others) (a b : SourceUnit) (held : holds a b) :
    RunsAgree holds ends (List.Forall₂ V) ((gatherAll first entries).result a) ((gatherAll second others).result b) := by
  have gathered := gather_agrees supported first second related step entries others agree a b held
  unfold gatherAll
  rw [Build.result_bind, Build.result_bind]
  rcases outcome : (gather first entries).result a with ⟨result, c⟩
  rcases other : (gather second others).result b with ⟨found, d⟩
  rw [outcome, other] at gathered
  rcases gathered with ⟨still, results⟩ | ⟨failure, failed, final⟩ | ⟨failure, failed, final⟩
  · cases results with
    | error failure => exact Or.inl ⟨still, .error failure⟩
    | @ok x y same =>
        dsimp only
        rw [same.unsupported]
        split
        · exact Or.inl ⟨still, .ok same.results⟩
        · exact Or.inl ⟨still, .error _⟩
  · obtain rfl : result = .error failure := failed
    exact Or.inr (Or.inl ⟨failure, rfl, final⟩)
  · obtain rfl : found = .error failure := failed
    exact Or.inr (Or.inr ⟨failure, rfl, final⟩)

end

end ApiBindings
