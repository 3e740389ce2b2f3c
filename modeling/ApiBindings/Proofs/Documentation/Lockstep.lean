import ApiBindings.Proofs.Documentation.Related
import ApiBindings.Proofs.Documentation.Unit
import ApiBindings.Proofs.Rendering.Orderly
set_option autoImplicit false

namespace ApiBindings

variable {α β γ δ : Type}

namespace SourceUnit

-- All but the error of a look-up is declared under a name that is taken, so a
-- name that is free is free for declarations.
def TagsRegistered (unit : SourceUnit) : Prop :=
  ∀ d ∈ unit.declarations, d.shape.Tagged → d.name ∈ unit.names.taken

-- A name that was claimed and waits for its declaration. The error may have it
-- already; then the declaration is refused.
structure Awaits (unit : SourceUnit) (name : String) : Prop where
  taken : name ∈ unit.names.taken
  undeclared : ∀ d ∈ unit.declarations, d.name = name → ¬ d.shape.Tagged

structure Leaves (given : List String) (before after : SourceUnit) : Prop where
  registered : after.TagsRegistered
  taken : ∀ name ∈ before.names.taken, name ∈ after.names.taken
  awaits : ∀ name, name ∉ given → before.Awaits name → after.Awaits name

theorem Leaves.refl (given : List String) (unit : SourceUnit) (registered : unit.TagsRegistered) :
    unit.Leaves given unit := ⟨registered, fun _ member => member, fun _ _ awaits => awaits⟩

theorem Leaves.trans {early late : List String} {a b c : SourceUnit} (first : a.Leaves early b) (last : b.Leaves late c) :
    a.Leaves (early ++ late) c := by
  refine ⟨last.registered, fun name member => last.taken name (first.taken name member), fun name other awaits => ?_⟩
  rw [List.mem_append, not_or] at other
  exact last.awaits name other.2 (first.awaits name other.1 awaits)

theorem claim_leaves (unit : SourceUnit) (base : String) (registered : unit.TagsRegistered) :
    unit.Leaves [] (unit.claim base).2 ∧ (unit.claim base).1 ∉ unit.names.taken ∧
      (unit.claim base).2.Awaits (unit.claim base).1 := by
  obtain ⟨grows, free, taken⟩ := claim_grows unit (unit.claim base).2 base (unit.claim base).1 rfl
  refine ⟨⟨fun d member tagged => grows.taken _ (registered d member tagged), grows.taken, ?_⟩, free, taken, ?_⟩
  · exact fun name _ awaits => ⟨grows.taken name awaits.taken, awaits.undeclared⟩
  · rintro d member named tagged
    exact free (named ▸ registered d member tagged)

theorem append_leaves (unit : SourceUnit) (d : Declaration) (given : List String) (registered : unit.TagsRegistered)
    (settled : d.shape.Tagged → d.name ∈ unit.names.taken ∧ d.name ∈ given) :
    unit.Leaves given { unit with declarations := unit.declarations ++ [d] } := by
  refine ⟨fun other member tagged => ?_, fun _ member => member, fun name other awaits => ⟨awaits.taken, ?_⟩⟩
  · rcases List.mem_append.mp member with old | new
    · exact registered other old tagged
    · obtain rfl := List.mem_singleton.mp new
      exact (settled tagged).1
  · rintro e member rfl
    rcases List.mem_append.mp member with old | new
    · exact awaits.undeclared e old rfl
    · obtain rfl := List.mem_singleton.mp new
      exact fun tagged => other (settled tagged).2

end SourceUnit

namespace Build

variable {loose : Prop} {given : List String} {V : α → β → Prop} {W : γ → δ → Prop}

def LockstepFrom (loose : Prop) (given : List String) (V : α → β → Prop) (x : Build α) (y : Build β)
    (a b : SourceUnit) : Prop :=
  a.Agrees loose b → a.TagsRegistered → (∀ name ∈ given, a.Awaits name) →
    (x.result a).2.Agrees loose (y.result b).2 ∧ Results V (x.result a).1 (y.result b).1 ∧
      a.Leaves given (x.result a).2

-- The names in `given` wait for the step to declare them. Every other name that
-- waits goes on to wait.
def Lockstep (loose : Prop) (given : List String) (V : α → β → Prop) (x : Build α) (y : Build β) : Prop :=
  ∀ a b, LockstepFrom loose given V x y a b

theorem lockstep_pure (v : α) (w : β) (related : V v w) : Lockstep loose given V (pure v) (pure w) :=
  fun a _ agree registered _ => ⟨agree, .ok related, .refl given a registered⟩

theorem lockstep_throw (failure : Failure) : Lockstep loose given V (throw failure) (throw failure) :=
  fun a _ agree registered _ => ⟨agree, .error failure, .refl given a registered⟩

theorem lockstep_check (name : String) (x : Except Defect α) (y : Except Defect β) (results : Results V x y) :
    Lockstep loose given V (check name x) (check name y) := by
  cases results with
  | ok related => exact lockstep_pure _ _ related
  | error defect => exact lockstep_throw _

theorem lockstep_seq (early late : List String) (x : Build α) (y : Build β) (f : α → Build γ) (g : β → Build δ)
    (a b : SourceUnit) (apart : ∀ name ∈ late, name ∉ early) (first : LockstepFrom loose early V x y a b)
    (next : ∀ v w c d, x.result a = (.ok v, c) → y.result b = (.ok w, d) → V v w →
      LockstepFrom loose late W (f v) (g w) c d) :
    LockstepFrom loose (early ++ late) W (x >>= f) (y >>= g) a b := by
  intro agree registered awaits
  obtain ⟨later, results, leaves⟩ := first agree registered fun name member => awaits name (List.mem_append_left _ member)
  rw [result_bind, result_bind]
  cases ran : x.result a with
  | mk v c =>
      cases other : y.result b with
      | mk w d =>
          rw [ran, other] at later results
          rw [ran] at leaves
          cases results with
          | ok related =>
              obtain ⟨last, results, left⟩ := next _ _ c d ran other related later leaves.registered fun name member =>
                leaves.awaits name (apart name member) (awaits name (List.mem_append_right _ member))
              exact ⟨last, results, leaves.trans left⟩
          | error failure => exact ⟨later, .error failure, leaves.trans (.refl late c leaves.registered)⟩

theorem lockstep_bind_from (x : Build α) (y : Build β) (f : α → Build γ) (g : β → Build δ) (a b : SourceUnit)
    (first : LockstepFrom loose [] V x y a b)
    (next : ∀ v w c d, x.result a = (.ok v, c) → y.result b = (.ok w, d) → V v w →
      LockstepFrom loose given W (f v) (g w) c d) :
    LockstepFrom loose given W (x >>= f) (y >>= g) a b :=
  lockstep_seq [] given x y f g a b (fun _ _ => List.not_mem_nil) first next

theorem lockstep_then_from (x : Build α) (y : Build β) (f : α → Build γ) (g : β → Build δ) (a b : SourceUnit)
    (first : LockstepFrom loose given V x y a b)
    (next : ∀ v w c d, x.result a = (.ok v, c) → y.result b = (.ok w, d) → V v w →
      LockstepFrom loose [] W (f v) (g w) c d) :
    LockstepFrom loose given W (x >>= f) (y >>= g) a b := by
  have both := lockstep_seq given [] x y f g a b (List.forall_mem_nil _) first next
  rwa [List.append_nil] at both

theorem lockstep_bind (x : Build α) (y : Build β) (f : α → Build γ) (g : β → Build δ)
    (first : Lockstep loose [] V x y) (next : ∀ v w, V v w → Lockstep loose given W (f v) (g w)) :
    Lockstep loose given W (x >>= f) (y >>= g) :=
  fun a b => lockstep_bind_from x y f g a b (first a b) fun v w c d _ _ related => next v w related c d

theorem lockstep_then (x : Build α) (y : Build β) (f : α → Build γ) (g : β → Build δ)
    (first : Lockstep loose given V x y) (next : ∀ v w, V v w → Lockstep loose [] W (f v) (g w)) :
    Lockstep loose given W (x >>= f) (y >>= g) :=
  fun a b => lockstep_then_from x y f g a b (first a b) fun v w c d _ _ related => next v w related c d

theorem lockstep_map (f : α → γ) (g : β → δ) (x : Build α) (y : Build β) (lockstep : Lockstep loose given V x y)
    (next : ∀ v w, V v w → W (f v) (g w)) : Lockstep loose given W (f <$> x) (g <$> y) :=
  lockstep_then x y (fun v => pure (f v)) (fun w => pure (g w)) lockstep fun v w related =>
    lockstep_pure _ _ (next v w related)

theorem lockstep_get (f : SourceUnit → Build γ) (g : SourceUnit → Build δ) (a b : SourceUnit)
    (next : a.Agrees loose b → LockstepFrom loose given W (f a) (g b) a b) :
    LockstepFrom loose given W (get >>= f) (get >>= g) a b := fun agree => next agree agree

theorem lockstep_claim (base : String) (f : String → Build γ) (g : String → Build δ)
    (next : ∀ name, Lockstep loose (name :: given) W (f name) (g name)) :
    Lockstep loose given W (claim base >>= f) (claim base >>= g) := by
  intro a b agree registered awaits
  obtain ⟨same, later⟩ := SourceUnit.agrees_claim a b agree base
  obtain ⟨leaves, free, waiting⟩ := SourceUnit.claim_leaves a base registered
  have first : (claim base >>= f).result a = (f (a.claim base).1).result (a.claim base).2 := rfl
  have second : (claim base >>= g).result b = (g (b.claim base).1).result (b.claim base).2 := rfl
  rw [first, second, ← same]
  obtain ⟨last, results, left⟩ := next (a.claim base).1 _ _ later leaves.registered fun name member => by
    rcases List.mem_cons.mp member with rfl | earlier
    · exact waiting
    · exact leaves.awaits name List.not_mem_nil (awaits name earlier)
  refine ⟨last, results, left.registered, fun name member => left.taken name (leaves.taken name member), ?_⟩
  intro name other waits
  refine left.awaits name (fun member => ?_) (leaves.awaits name List.not_mem_nil waits)
  rcases List.mem_cons.mp member with rfl | earlier
  · exact free waits.taken
  · exact other earlier

theorem lockstep_push (f g : Function) (same : f.undocumented = g.undocumented) :
    Lockstep loose given (fun _ _ => True) (push f) (push g) := by
  intro a b agree registered _
  refine ⟨SourceUnit.agrees_push a b agree f g same, .ok trivial, registered, fun _ member => member, ?_⟩
  exact fun _ _ awaits => ⟨awaits.taken, awaits.undeclared⟩

-- Whatever has the name already is the error, which no declaration with tags is the same as.
theorem lockstep_declare (d e : Declaration) (own : d.Agrees loose e) (tagged : d.shape.Tagged) :
    Lockstep loose [d.name] (fun _ _ => True) (declare d) (declare e) := by
  intro a b agree registered awaits
  obtain ⟨taken, undeclared⟩ := awaits d.name (List.mem_singleton_self _)
  rw [declare_result, declare_result, SourceUnit.declare, SourceUnit.declare, ← own.name]
  rcases SourceUnit.agrees_find a b agree d.name with ⟨none, other⟩ | ⟨existing, stored, found, other, kept⟩
  · rw [none, other]
    exact ⟨SourceUnit.agrees_append a b agree d e own, .ok trivial,
      SourceUnit.append_leaves a d [d.name] registered fun _ => ⟨taken, List.mem_singleton_self _⟩⟩
  · have untagged := undeclared existing (SourceUnit.find_some a d.name existing found).1
      (SourceUnit.find_some a d.name existing found).2
    have refused := untagged_differs existing d untagged tagged
    have both := untagged_differs stored e
      (fun holds => untagged ((shapes_agree_tagged _ _ kept.shape).mpr holds))
      ((shapes_agree_tagged _ _ own.shape).mp tagged)
    rw [found, other]
    simp only [refused, both, Bool.false_eq_true, if_false]
    exact ⟨agree, .error _, .refl _ a registered⟩

theorem lockstep_append (d : Declaration) (untagged : ¬ d.shape.Tagged) (a b : SourceUnit)
    (absent : a.find? d.name = none) : LockstepFrom loose [] (fun _ _ => True) (declare d) (declare d) a b := by
  intro agree registered _
  rw [declare_result, declare_result, SourceUnit.declare, SourceUnit.declare]
  rcases SourceUnit.agrees_find a b agree d.name with ⟨none, other⟩ | ⟨_, _, found, _⟩
  · rw [none, other]
    exact ⟨SourceUnit.agrees_append a b agree d d ⟨rfl, .same _⟩, .ok trivial,
      SourceUnit.append_leaves a d [] registered fun tagged => absurd tagged untagged⟩
  · rw [absent] at found
    cases found

-- The same where the name may have been declared for another schema. If one of
-- the two is refused, what was declared stays the same in both.
theorem declare_agrees (d e : Declaration) (own : d.Agrees loose e) (a b : SourceUnit) (agree : a.Agrees loose b)
    (registered : a.TagsRegistered) (taken : d.name ∈ a.names.taken) :
    ((declare d).result a).2.Agrees loose ((declare e).result b).2 ∧ a.Leaves [d.name] ((declare d).result a).2 ∧
      (Results (fun _ _ => True) ((declare d).result a).1 ((declare e).result b).1 ∨
        Clashes d.name ((declare d).result a).1 ∨ Clashes d.name ((declare e).result b).1) := by
  have refl := SourceUnit.Leaves.refl [d.name] a registered
  rw [declare_result, declare_result, SourceUnit.declare, SourceUnit.declare, ← own.name]
  rcases SourceUnit.agrees_find a b agree d.name with ⟨none, other⟩ | ⟨existing, stored, found, other, _⟩
  · rw [none, other]
    exact ⟨SourceUnit.agrees_append a b agree d e own, SourceUnit.append_leaves a d [d.name] registered
      fun _ => ⟨taken, List.mem_singleton_self _⟩, Or.inl (.ok trivial)⟩
  · rw [found, other]
    dsimp only
    by_cases same : (existing == d) = true
    · by_cases again : (stored == e) = true
      · rw [if_pos same, if_pos again]
        exact ⟨agree, refl, Or.inl (.ok trivial)⟩
      · rw [if_pos same, if_neg again]
        exact ⟨agree, refl, Or.inr (Or.inr rfl)⟩
    · by_cases again : (stored == e) = true
      · rw [if_neg same, if_pos again]
        exact ⟨agree, refl, Or.inr (Or.inl rfl)⟩
      · rw [if_neg same, if_neg again]
        exact ⟨agree, refl, Or.inr (Or.inl rfl)⟩

end Build

end ApiBindings
