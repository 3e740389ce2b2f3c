import ApiBindings.Proofs.Rendering.Compound
import ApiBindings.Proofs.Rendering.Equations
import ApiBindings.Proofs.Rendering.Orderly
set_option autoImplicit false

namespace ApiBindings

variable {α β γ δ : Type}

inductive Renumbered : String → String → Prop where
  | refl (name : String) : Renumbered name name
  | append {a b : String} (ending : String) (stems : Renumbered a b) : Renumbered (a ++ ending) (b ++ ending)
  | left {a b : String} (number : Nat) (stems : Renumbered a b) : Renumbered (a ++ toString number) b
  | right {a b : String} (number : Nat) (stems : Renumbered a b) : Renumbered a (b ++ toString number)

inductive Failure.Renumbered : Failure → Failure → Prop where
  | malformed {a b : String} (names : ApiBindings.Renumbered a b) (cause : Malformation) :
      Renumbered (.malformed a cause) (.malformed b cause)
  | unsupported {a b : String} (names : ApiBindings.Renumbered a b) (shape : UnsupportedShape) :
      Renumbered (.unsupported a shape) (.unsupported b shape)

theorem defect_renumbered (defect : Defect) (a b : String) (names : Renumbered a b) :
    (defect.at a).Renumbered (defect.at b) := by
  cases defect with
  | malformed cause => exact .malformed names cause
  | unsupported shape => exact .unsupported names shape

theorem claims_renumbered (first second : Names) (a b : String) (bases : Renumbered a b) :
    Renumbered (first.claim a).1 (second.claim b).1 := by
  rcases first.claim_cases a with plain | ⟨number, numbered⟩ <;>
    rcases second.claim_cases b with alike | ⟨other, counted⟩
  · rwa [plain, alike]
  · rw [plain, counted]
    exact .right other bases
  · rw [numbered, alike]
    exact .left number bases
  · rw [numbered, counted]
    exact .left number (.right other bases)

inductive Fate (V : α → β → Prop) : Except Failure α → Except Failure β → Prop where
  | ok {a : α} {b : β} (related : V a b) : Fate V (.ok a) (.ok b)
  | error {a b : Failure} (failures : a.Renumbered b) : Fate V (.error a) (.error b)

namespace Build

variable {V : α → β → Prop} {W : γ → δ → Prop}

def FreeOfClashes (build : Build α) (unit : SourceUnit) : Prop := ∀ name, ¬ Clashes name (build.result unit).1

-- The two units may hold anything, as long as no two declarations clash.
def Parallel (V : α → β → Prop) (x : Build α) (y : Build β) : Prop :=
  ∀ a b, x.FreeOfClashes a → y.FreeOfClashes b → Fate V (x.result a).1 (y.result b).1

theorem parallel_pure (a : α) (b : β) (related : V a b) : Parallel V (pure a) (pure b) := fun _ _ _ _ => .ok related

theorem parallel_throw (first second : Failure) (failures : first.Renumbered second) :
    Parallel V (throw first) (throw second) := fun _ _ _ _ => .error failures

theorem parallel_check (a b : String) (names : Renumbered a b) (checked : Except Defect α) :
    Parallel Eq (check a checked) (check b checked) := by
  cases checked with
  | ok value => exact parallel_pure value value rfl
  | error defect => exact parallel_throw _ _ (defect_renumbered defect a b names)

theorem first_free (x : Build α) (f : α → Build γ) (unit : SourceUnit) (free : (x >>= f).FreeOfClashes unit) :
    x.FreeOfClashes unit := by
  intro name clash
  refine free name ?_
  rw [result_bind]
  cases ran : x.result unit with
  | mk result middle =>
      rw [ran] at clash
      obtain rfl : result = _ := clash
      rfl

theorem next_free (x : Build α) (f : α → Build γ) (a : α) (unit middle : SourceUnit)
    (free : (x >>= f).FreeOfClashes unit) (ran : x.result unit = (.ok a, middle)) : (f a).FreeOfClashes middle := by
  intro name clash
  refine free name ?_
  rwa [result_bind, ran]

theorem parallel_bind (x : Build α) (y : Build β) (f : α → Build γ) (g : β → Build δ) (first : Parallel V x y)
    (next : ∀ v w, V v w → Parallel W (f v) (g w)) : Parallel W (x >>= f) (y >>= g) := by
  intro a b free other
  have fate := first a b (first_free x f a free) (first_free y g b other)
  cases ran : x.result a with
  | mk v c =>
      cases alike : y.result b with
      | mk w d =>
          rw [ran, alike] at fate
          cases fate with
          | ok related =>
              have later := next _ _ related c d (next_free x f _ a c free ran) (next_free y g _ b d other alike)
              rwa [result_bind, result_bind, ran, alike]
          | error failures =>
              rw [result_bind, result_bind, ran, alike]
              exact .error failures

theorem parallel_map (f : α → γ) (g : β → δ) (x : Build α) (y : Build β) (parallel : Parallel V x y) :
    Parallel (fun _ _ => True) (f <$> x) (g <$> y) :=
  parallel_bind x y (fun v => pure (f v)) (fun w => pure (g w)) parallel fun _ _ _ => parallel_pure _ _ trivial

theorem parallel_claim (a b : String) (bases : Renumbered a b) : Parallel Renumbered (claim a) (claim b) :=
  fun first second _ _ => .ok (claims_renumbered first.names second.names a b bases)

theorem declare_free (d : Declaration) (unit : SourceUnit) (free : (declare d).FreeOfClashes unit) :
    ((declare d).result unit).1 = .ok () := by
  have never := free d.name
  rw [declare_result, SourceUnit.declare] at never ⊢
  cases found : unit.find? d.name with
  | none => rfl
  | some existing =>
      rw [found] at never
      dsimp only at never ⊢
      by_cases same : (existing == d) = true
      · rw [if_pos same]
      · rw [if_neg same] at never
        exact absurd rfl never

theorem parallel_declare (d e : Declaration) : Parallel (fun _ _ => True) (declare d) (declare e) := by
  intro a b free other
  rw [declare_free d a free, declare_free e b other]
  exact .ok trivial

end Build

theorem enum_constants_parallel (type : ScalarType) (a b : String) (first second : Names) (values : List EnumValue) :
    (enumConstants type a first values).map (fun _ => ()) = (enumConstants type b second values).map fun _ => () := by
  induction values generalizing first second with
  | nil => rfl
  | cons value rest ih =>
      unfold enumConstants
      cases value.literal? type with
      | some literal =>
          dsimp only
          have later := ih (first.claim (if value.suffix.isEmpty then a ++ "Empty" else a ++ value.suffix)).2
            (second.claim (if value.suffix.isEmpty then b ++ "Empty" else b ++ value.suffix)).2
          generalize enumConstants type a _ rest = x at later ⊢
          generalize enumConstants type b _ rest = y at later ⊢
          cases x <;> cases y <;> cases later <;> rfl
      | none =>
          dsimp only
          split
          next => exact ih first second
          next => rfl

def GuardsParallel (guard other : Guard Schema) : Prop := ∀ s, guard.isActive s = other.isActive s

theorem guards_parallel_enter (guard other : Guard Schema) (s : Schema) (a b : String)
    (guards : GuardsParallel guard other) : GuardsParallel (guard.enter s a) (other.enter s b) := by
  intro t
  rw [enter_is_active, enter_is_active, guards t]

section

variable (components : Components)

mutual

theorem schema_shape_parallel (guard other : Guard Schema) (a b : String) (s : Schema) (names : Renumbered a b)
    (guards : GuardsParallel guard other) :
    Build.Parallel (fun _ _ => True) (schemaShape components guard a s) (schemaShape components other b s) := by
  unfold schemaShape shapeOf
  split
  next path reference =>
    exact Build.parallel_map _ _ _ _ (Build.parallel_map _ _ _ _ (Build.parallel_check a b names _))
  next inline =>
    split
    next defect failed => exact Build.parallel_throw _ _ (defect_renumbered defect a b names)
    next => exact Build.parallel_pure _ _ trivial
    next type values classified =>
      have same := enum_constants_parallel type a b {} {} values
      unfold enumShape
      generalize enumConstants type a {} values = x at same ⊢
      generalize enumConstants type b {} values = y at same ⊢
      cases x with
      | ok =>
          cases y with
          | ok => exact Build.parallel_pure _ _ trivial
          | error => cases same
      | error cause =>
          cases y with
          | ok => cases same
          | error =>
              obtain rfl := Except.error.inj same
              exact Build.parallel_throw _ _ (.malformed names cause)
    next items classified =>
      have smaller : sizeOf items < sizeOf s := Schema.holds_classify classified
      exact Build.parallel_map _ _ _ _ (element_type_parallel guard other _ _ items (names.append "Item") guards)
    next properties classified =>
      have smaller : sizeOf properties < sizeOf s := Schema.holds_classify classified
      exact Build.parallel_map _ _ _ _ (declare_fields_parallel guard other a b s {} properties names guards)
    next => exact Build.parallel_pure _ _ trivial
    next value classified =>
      have smaller : sizeOf value < sizeOf s := Schema.holds_classify classified
      exact Build.parallel_map _ _ _ _ (element_type_parallel guard other _ _ value (names.append "Value") guards)
termination_by 2 * sizeOf s
decreasing_by all_goals omega

theorem element_type_parallel (guard other : Guard Schema) (a b : String) (s : Schema) (hints : Renumbered a b)
    (guards : GuardsParallel guard other) :
    Build.Parallel (fun _ _ => True) (elementType components guard a s) (elementType components other b s) := by
  rw [element_type_eq, element_type_eq]
  cases stripped : s.effective with
  | error defect => exact Build.parallel_throw _ _ (defect_renumbered defect a b hints)
  | ok target =>
      have bound := Schema.effective_size_le stripped
      have still := Schema.effective_idempotent s target stripped
      have declared (first second : String → Guard Schema)
          (inner : ∀ name twin, GuardsParallel (first name) (second twin)) :
          Build.Parallel (fun _ _ => True)
            (Build.claim a >>= fun name => declareSchema components (first name) name target >>= fun _ =>
              pure (TypeExpr.named name))
            (Build.claim b >>= fun name => declareSchema components (second name) name target >>= fun _ =>
              pure (TypeExpr.named name)) := by
        refine Build.parallel_bind _ _ _ _ (Build.parallel_claim a b hints) fun name twin names => ?_
        have parallel : Build.Parallel (fun _ _ => True) (declareSchema components (first name) name target)
            (declareSchema components (second twin) twin target) := by
          rw [declare_schema_eq, declare_schema_eq, still]
          exact Build.parallel_bind _ _ _ _ (schema_shape_parallel _ _ name twin target names (inner name twin))
            fun _ _ _ => Build.parallel_declare _ _
        exact Build.parallel_map (fun _ => TypeExpr.named name) (fun _ => TypeExpr.named twin) _ _ parallel
      dsimp only [elementOf]
      split
      next path reference => exact Build.parallel_map _ _ _ _ (Build.parallel_check a b hints _)
      next inline =>
        split
        next defect failed => exact Build.parallel_throw _ _ (defect_renumbered defect a b hints)
        next => exact Build.parallel_pure _ _ trivial
        next => exact declared (fun _ => guard) (fun _ => other) fun _ _ => guards
        next items classified =>
          have smaller : sizeOf items < sizeOf target := Schema.holds_classify classified
          exact Build.parallel_map _ _ _ _ (element_type_parallel guard other _ _ items (hints.append "Item") guards)
        next => exact Build.parallel_pure _ _ trivial
        next value classified =>
          have smaller : sizeOf value < sizeOf target := Schema.holds_classify classified
          exact Build.parallel_map _ _ _ _ (element_type_parallel guard other _ _ value (hints.append "Value") guards)
        next =>
          have active := guards target
          unfold Guard.isActive at active
          cases held : guard.inProgress target <;> cases kept : other.inProgress target <;> rw [held, kept] at active
          case some.some => exact Build.parallel_pure _ _ trivial
          case some.none | none.some => cases active
          case none.none =>
              exact declared (guard.enter target) (other.enter target) fun name twin =>
                guards_parallel_enter guard other target name twin guards
termination_by 2 * sizeOf s + 1
decreasing_by all_goals omega

theorem declare_fields_parallel (guard other : Guard Schema) (a b : String) (object : Schema) (names : Names)
    (properties : List (String × Schema)) (parents : Renumbered a b) (guards : GuardsParallel guard other) :
    Build.Parallel (fun _ _ => True) (declareFields components guard a object names properties)
      (declareFields components other b object names properties) := by
  cases properties with
  | nil =>
      rw [declare_fields_nil, declare_fields_nil]
      exact Build.parallel_pure _ _ trivial
  | cons entry rest =>
      obtain ⟨wire, property⟩ := entry
      have cell : sizeOf ((wire, property) :: rest) = 1 + (1 + sizeOf wire + sizeOf property) + sizeOf rest := rfl
      rw [declare_fields_eq, declare_fields_eq]
      cases wire.toList.find? (!isTagSafe ·) with
      | some bad => exact Build.parallel_throw _ _ (.malformed parents _)
      | none =>
          dsimp only
          have hints := parents.append (names.claim (Naming.exported wire)).1
          cases stripped : property.effective with
          | error defect => exact Build.parallel_throw _ _ (defect_renumbered defect _ _ hints)
          | ok target =>
              have bound := Schema.effective_size_le stripped
              dsimp only
              refine Build.parallel_bind _ _ _ _ (Build.parallel_check _ _ hints _) fun collection _ _ => ?_
              refine Build.parallel_bind _ _ _ _ (element_type_parallel guard other _ _ target hints guards)
                fun type found _ => ?_
              exact Build.parallel_map _ _ _ _
                (declare_fields_parallel guard other a b object _ rest parents guards)
termination_by 2 * sizeOf properties
decreasing_by all_goals omega

end

theorem render_parallel (name : String) (s : Schema) :
    Build.Parallel (fun _ _ => True) (render components name s) (render components name s) := by
  unfold render
  rw [declare_schema_eq]
  cases s.effective with
  | error defect => exact Build.parallel_throw _ _ (defect_renumbered defect name name (.refl name))
  | ok target =>
      exact Build.parallel_bind _ _ _ _ (schema_shape_parallel components _ _ name name target (.refl name) fun _ => rfl)
        fun _ _ _ => Build.parallel_declare _ _

end

end ApiBindings
