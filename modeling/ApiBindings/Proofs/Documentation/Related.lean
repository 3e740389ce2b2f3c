import Mathlib.Data.List.Forall2
import Mathlib.Data.Option.Basic
set_option autoImplicit false

namespace ApiBindings

variable {ε α β γ δ : Type}

inductive Results (related : α → β → Prop) : Except ε α → Except ε β → Prop where
  | ok {a : α} {b : β} (same : related a b) : Results related (.ok a) (.ok b)
  | error (e : ε) : Results related (.error e) (.error e)

section

variable {V : α → β → Prop} {W : γ → δ → Prop}

theorem results_map (f : α → γ) (g : β → δ) (x : Except ε α) (y : Except ε β) (results : Results V x y)
    (next : ∀ a b, V a b → W (f a) (g b)) : Results W (x.map f) (y.map g) := by
  cases results with
  | ok same => exact .ok (next _ _ same)
  | error e => exact .error e

theorem results_bind (x : Except ε α) (y : Except ε β) (f : α → Except ε γ) (g : β → Except ε δ)
    (results : Results V x y) (next : ∀ a b, V a b → Results W (f a) (g b)) : Results W (x >>= f) (y >>= g) := by
  cases results with
  | ok same => exact next _ _ same
  | error e => exact .error e

theorem results_weaken {U : α → β → Prop} (x : Except ε α) (y : Except ε β) (results : Results V x y)
    (next : ∀ a b, V a b → U a b) : Results U x y := by
  cases results with
  | ok same => exact .ok (next _ _ same)
  | error e => exact .error e

theorem results_cases (x : Except ε α) (y : Except ε β) (results : Results V x y) :
    (∃ e, x = .error e ∧ y = .error e) ∨ ∃ a b, x = .ok a ∧ y = .ok b ∧ V a b := by
  cases results with
  | ok same => exact Or.inr ⟨_, _, rfl, rfl, same⟩
  | error e => exact Or.inl ⟨e, rfl, rfl⟩

end

theorem results_same (x : Except ε α) : Results Eq x x := by
  cases x with
  | ok a => exact .ok rfl
  | error e => exact .error e

theorem results_of_map (f : α → γ) (g : β → γ) (x : Except ε α) (y : Except ε β) (same : x.map f = y.map g) :
    Results (fun a b => f a = g b) x y := by
  cases x with
  | ok a =>
      cases y with
      | ok b => exact .ok (Except.ok.inj same)
      | error => cases same
  | error e =>
      cases y with
      | ok => cases same
      | error => exact Except.error.inj same ▸ .error e

theorem forall_of_map (f : α → γ) (g : β → γ) (first : List α) (second : List β)
    (same : first.map f = second.map g) : List.Forall₂ (fun a b => f a = g b) first second := by
  rw [← List.forall₂_eq_eq_eq, List.forall₂_map_left_iff, List.forall₂_map_right_iff] at same
  exact same

theorem forall_members {related : α → β → Prop} (first : List α) (second : List β)
    (all : List.Forall₂ related first second) :
    List.Forall₂ (fun a b => related a b ∧ a ∈ first ∧ b ∈ second) first second := by
  induction all with
  | nil => exact .nil
  | cons head _ ih =>
      refine .cons ⟨head, List.mem_cons_self, List.mem_cons_self⟩ (ih.imp fun _ _ held => ⟨held.1, ?_, ?_⟩)
      · exact List.mem_cons_of_mem _ held.2.1
      · exact List.mem_cons_of_mem _ held.2.2

theorem forall_partner {related : α → β → Prop} (first : List α) (second : List β)
    (all : List.Forall₂ related first second) (a : α) (listed : a ∈ first) : ∃ b ∈ second, related a b := by
  induction all with
  | nil => cases listed
  | @cons _ b _ _ head _ ih =>
      rcases List.mem_cons.mp listed with rfl | later
      · exact ⟨b, List.mem_cons_self, head⟩
      · obtain ⟨partner, present, both⟩ := ih later
        exact ⟨partner, List.mem_cons_of_mem _ present, both⟩

theorem find_related {related : α → β → Prop} (p : α → Bool) (q : β → Bool) (same : ∀ a b, related a b → p a = q b)
    (first : List α) (second : List β) (all : List.Forall₂ related first second) :
    Option.Rel related (first.find? p) (second.find? q) := by
  induction all with
  | nil => exact .none
  | @cons a b _ _ head _ ih =>
      rw [List.find?_cons, List.find?_cons, same a b head]
      split
      · exact .some head
      · exact ih

theorem option_cases {related : α → β → Prop} (x : Option α) (y : Option β) (both : Option.Rel related x y) :
    (x = none ∧ y = none) ∨ ∃ a b, x = some a ∧ y = some b ∧ related a b := by
  cases both with
  | none => exact Or.inl ⟨rfl, rfl⟩
  | some head => exact Or.inr ⟨_, _, rfl, rfl, head⟩

theorem option_of_map (f : α → γ) (g : β → γ) (x : Option α) (y : Option β) (same : x.map f = y.map g) :
    Option.Rel (fun a b => f a = g b) x y := by
  cases x <;> cases y
  case none.none => exact .none
  case some.some => exact .some (Option.some.inj same)
  all_goals cases same

theorem option_members {related : α → β → Prop} (x : Option α) (y : Option β) (both : Option.Rel related x y) :
    Option.Rel (fun a b => related a b ∧ a ∈ x ∧ b ∈ y) x y := by
  cases both with
  | none => exact .none
  | some head => exact .some ⟨head, rfl, rfl⟩

theorem map_m_related {V : α → β → Prop} {W : γ → δ → Prop} (f : α → Except ε γ) (g : β → Except ε δ)
    (next : ∀ a b, V a b → Results W (f a) (g b)) (first : List α) (second : List β)
    (all : List.Forall₂ V first second) : Results (List.Forall₂ W) (first.mapM f) (second.mapM g) := by
  induction all with
  | nil => exact .ok .nil
  | cons head _ ih =>
      rw [List.mapM_cons, List.mapM_cons]
      refine results_bind _ _ _ _ (next _ _ head) fun a b one => ?_
      exact results_bind _ _ _ _ ih fun _ _ others => .ok (.cons one others)

end ApiBindings
