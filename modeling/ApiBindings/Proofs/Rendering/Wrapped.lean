import ApiBindings.Proofs.Rendering.Equations
import ApiBindings.Proofs.Rendering.Reach
import ApiBindings.Proofs.Rendering.Result
import ApiBindings.Proofs.Rendering.Rules
set_option autoImplicit false

namespace ApiBindings

namespace Schema

def Silent (s : Schema) : Prop := s = { anyOf := s.anyOf, oneOf := s.oneOf, allOf := s.allOf }

inductive Wraps : Schema → Schema → Prop where
  | here {t : Schema} (bare : t.Bare) : Wraps t t
  | nullable {s inner t : Schema} (silent : s.Silent) (partner : s.nullablePartner = some inner)
      (inside : Wraps inner t) : Wraps s t
  | single {s only t : Schema} (silent : s.Silent) (alone : s.nullablePartner = none) (composed : s.allOf = some [only])
      (inside : Wraps only t) : Wraps s t

def constrained (s : Schema) : Schema := s.nullablePartner.getD s

theorem wraps_bare (s t : Schema) (wraps : s.Wraps t) : t.Bare := by
  induction wraps with
  | here bare => exact bare
  | nullable _ _ _ ih => exact ih
  | single _ _ _ _ ih => exact ih

theorem wraps_effective (s t : Schema) (wraps : s.Wraps t) : s.effective = .ok t := by
  induction wraps with
  | here bare => exact bare_effective _ bare
  | nullable _ partner _ ih =>
      unfold effective
      split
      next other wrapped =>
        obtain rfl := Option.some.inj (partner.symm.trans wrapped)
        exact ih
      next alone => cases partner.symm.trans alone
  | @single s only t silent alone composed _ ih =>
      have bare : s.properties = none := by rw [silent]
      unfold effective
      split
      next other wrapped => cases alone.symm.trans wrapped
      next =>
        split
        next same =>
          obtain ⟨rfl, _⟩ := List.cons.inj (Option.some.inj (composed.symm.trans same))
          rw [bare, Option.isNone_none, if_pos rfl]
          exact ih
        next members several same =>
          obtain rfl := Option.some.inj (composed.symm.trans same)
          exact (several only rfl).elim
        next absent => cases composed.symm.trans absent

theorem silent_rules (s : Schema) (silent : s.Silent) : s.limits.rules = [] := by
  rw [silent]
  rfl

theorem wraps_constrained (s t : Schema) (wraps : s.Wraps t) :
    s.constrained = t ∨ s.constrained.limits.rules = [] := by
  have wrapper (inner : Schema) (inside : inner.Wraps t) : inner = t ∨ inner.limits.rules = [] := by
    cases inside with
    | here => exact Or.inl rfl
    | nullable silent => exact Or.inr (silent_rules inner silent)
    | single silent => exact Or.inr (silent_rules inner silent)
  cases wraps with
  | here bare => exact Or.inl (by rw [constrained, bare.1, Option.getD_none])
  | nullable _ partner inside =>
      rw [constrained, partner, Option.getD_some]
      exact wrapper _ inside
  | single silent alone =>
      rw [constrained, alone, Option.getD_none]
      exact Or.inr (silent_rules s silent)

theorem wraps_rules_iff (s t : Schema) (required : Bool) (wraps : s.Wraps t) :
    s.constrained.validationRules required = t.constrained.validationRules required ↔
      s.constrained = t ∨ t.limits.rules = [] := by
  have own : t.constrained = t := by rw [constrained, (wraps_bare s t wraps).1, Option.getD_none]
  rw [own]
  rcases wraps_constrained s t wraps with same | silent
  · rw [same]
    exact ⟨fun _ => Or.inl rfl, fun _ => rfl⟩
  · have lost := (validation_rules_none_iff _ required).mpr silent
    rw [lost, eq_comm, validation_rules_none_iff]
    refine ⟨Or.inr, fun kept => kept.elim (fun same => ?_) id⟩
    rwa [same] at silent

end Schema

theorem closes_cycle_effective (components : Components) (guard : Guard Schema) (s t : Schema)
    (stripped : s.effective = .ok t) (idle : guard.isActive s = false) :
    components.closesCycle guard s = components.closesCycle guard t := by
  unfold Components.closesCycle
  rw [Cycle.reaches_active_eq, Cycle.reaches_active_eq, stripped, Schema.effective_idempotent s t stripped]
  simp only [idle, Bool.false_or, Bool.or_self]

def DifferAt (place : Nat) (differ : Field → Field → Prop) (a b : Except Failure (List Field) × SourceUnit) : Prop :=
  (∃ failure after, a = (.error failure, after) ∧ b = (.error failure, after)) ∨
    ∃ earlier f g later after, earlier.length = place ∧ differ f g ∧ a = (.ok (earlier ++ f :: later), after) ∧
      b = (.ok (earlier ++ g :: later), after)

theorem differ_bind {α : Type} (place : Nat) (differ : Field → Field → Prop) (x : Build α) (f g : α → Build (List Field))
    (unit : SourceUnit) (next : ∀ a unit, DifferAt place differ ((f a).result unit) ((g a).result unit)) :
    DifferAt place differ ((x >>= f).result unit) ((x >>= g).result unit) := by
  rw [Build.result_bind, Build.result_bind]
  cases x.result unit with
  | mk result after =>
      cases result with
      | ok a => exact next a after
      | error failure => exact Or.inl ⟨failure, after, rfl, rfl⟩

theorem differ_later (place : Nat) (differ : Field → Field → Prop) (x y : Build (List Field)) (field : Field)
    (unit : SourceUnit) (inside : DifferAt place differ (x.result unit) (y.result unit)) :
    DifferAt (place + 1) differ ((x >>= fun others => pure (field :: others)).result unit)
      ((y >>= fun others => pure (field :: others)).result unit) := by
  rw [Build.result_bind, Build.result_bind]
  rcases inside with ⟨failure, after, failed, refused⟩ | ⟨earlier, f, g, later, after, counted, differs, made, other⟩
  · rw [failed, refused]
    exact Or.inl ⟨failure, after, rfl, rfl⟩
  · rw [made, other]
    exact Or.inr ⟨field :: earlier, f, g, later, after, congrArg Nat.succ counted, differs, rfl, rfl⟩

theorem differ_here (differ : Field → Field → Prop) (x : Build (List Field)) (f g : Field) (unit : SourceUnit)
    (differs : differ f g) :
    DifferAt 0 differ ((x >>= fun others => pure (f :: others)).result unit)
      ((x >>= fun others => pure (g :: others)).result unit) := by
  rw [Build.result_bind, Build.result_bind]
  cases x.result unit with
  | mk result after =>
      cases result with
      | ok others => exact Or.inr ⟨[], f, g, others, after, rfl, differs, rfl, rfl⟩
      | error failure => exact Or.inl ⟨failure, after, rfl, rfl⟩

section

variable (components : Components) (guard : Guard Schema) (parent : String)

theorem declare_fields_required (object other : Schema) (same : object.required = other.required) (names : Names)
    (properties : List (String × Schema)) :
    declareFields components guard parent object names properties =
      declareFields components guard parent other names properties := by
  have requires (wire : String) : object.requires wire = other.requires wire := by
    rw [Schema.requires, Schema.requires, same]
  induction properties generalizing names with
  | nil => rw [declare_fields_nil, declare_fields_nil]
  | cons entry rest ih =>
      obtain ⟨wire, property⟩ := entry
      rw [declare_fields_eq, declare_fields_eq]
      simp only [ih, propertyField, requires]

structure FieldUnwraps (p t : Schema) (f g : Field) : Prop where
  name : f.name = g.name
  type : f.type = g.type
  required : f.required = g.required
  rules : f.tag.bind FieldTag.rules = g.tag.bind FieldTag.rules ↔ p.constrained = t ∨ t.limits.rules = []

theorem property_field_unwraps (object : Schema) (name wire : String) (p t : Schema) (type : TypeExpr)
    (collection : Bool) (wraps : p.Wraps t) (idle : guard.isActive p = false) :
    FieldUnwraps p t (propertyField components guard object name wire p type collection)
      (propertyField components guard object name wire t type collection) := by
  refine ⟨rfl, ?_, rfl, p.wraps_rules_iff t (object.requires wire) wraps⟩
  rw [property_field_type, property_field_type,
    closes_cycle_effective components guard p t (p.wraps_effective t wraps) idle]

theorem wrapped_property_agrees (object : Schema) (names : Names) (front back : List (String × Schema))
    (wire : String) (p t : Schema) (unit : SourceUnit) (wraps : p.Wraps t) (idle : guard.isActive p = false) :
    DifferAt front.length (FieldUnwraps p t)
      ((declareFields components guard parent object names (front ++ (wire, p) :: back)).result unit)
      ((declareFields components guard parent { object with properties := some (front ++ (wire, t) :: back) } names
        (front ++ (wire, t) :: back)).result unit) := by
  rw [declare_fields_required components guard parent { object with properties := some (front ++ (wire, t) :: back) }
    object rfl]
  induction front generalizing names unit with
  | nil =>
      have bare := Schema.effective_idempotent p t (p.wraps_effective t wraps)
      rw [List.nil_append, List.nil_append, declare_fields_eq, declare_fields_eq, p.wraps_effective t wraps, bare]
      split
      next => exact Or.inl ⟨_, unit, rfl, rfl⟩
      next =>
        refine differ_bind _ _ _ _ _ _ fun collection _ => differ_bind _ _ _ _ _ _ fun type _ => ?_
        exact differ_here _ _ _ _ _
          (property_field_unwraps components guard object _ wire p t type collection wraps idle)
  | cons entry front ih =>
      obtain ⟨key, property⟩ := entry
      rw [List.cons_append, List.cons_append, declare_fields_eq, declare_fields_eq]
      split
      next => exact Or.inl ⟨_, unit, rfl, rfl⟩
      next =>
        dsimp only
        split
        next => exact Or.inl ⟨_, unit, rfl, rfl⟩
        next =>
          refine differ_bind _ _ _ _ _ _ fun collection _ => differ_bind _ _ _ _ _ _ fun type unit => ?_
          exact differ_later _ _ _ _ _ unit (ih _ unit)

end

def shortText : Schema := { type := some (.single "string"), limits := { maxLength := some 9 } }

def orNull (s : Schema) : Schema := { anyOf := some [{ type := some (.single "null") }, s] }

def composed (s : Schema) : Schema := { allOf := some [s] }

def labelled (label : Schema) : Schema := {
  type := some (.single "object")
  properties := some [("id", { type := some (.single "integer") }), ("label", label)]
  required := some ["label"] }

theorem or_null_wraps (s t : Schema) (inside : s.Wraps t) (value : s.isNull = false) : (orNull s).Wraps t := by
  refine .nullable rfl ?_ inside
  change (if s.isNull = true then _ else some s) = some s
  rw [value, if_neg Bool.false_ne_true]

theorem composed_wraps (s t : Schema) (inside : s.Wraps t) : (composed s).Wraps t := .single rfl rfl rfl inside

theorem nullable_label_agrees :
    let guard := Guard.enter {} (labelled (orNull shortText)) "Thing"
    let id : Schema := { type := some (.single "integer") }
    let unit : SourceUnit := { package := "models" }
    (orNull shortText).Wraps shortText ∧ guard.isActive (orNull shortText) = false ∧
      ((declareFields {} guard "Thing" (labelled (orNull shortText)) {}
        [("id", id), ("label", orNull shortText)]).result unit).1.isOk = true ∧
      DifferAt 1 (FieldUnwraps (orNull shortText) shortText)
        ((declareFields {} guard "Thing" (labelled (orNull shortText)) {}
          [("id", id), ("label", orNull shortText)]).result unit)
        ((declareFields {} guard "Thing" (labelled shortText) {} [("id", id), ("label", shortText)]).result unit) := by
  intro guard id unit
  have wraps : (orNull shortText).Wraps shortText := or_null_wraps shortText shortText (.here ⟨rfl, rfl, rfl⟩) (by decide)
  have idle : guard.isActive (orNull shortText) = false := by decide +kernel
  exact ⟨wraps, idle, by decide +kernel, wrapped_property_agrees {} guard "Thing" (labelled (orNull shortText)) {}
    [("id", id)] [] "label" (orNull shortText) shortText unit wraps idle⟩

-- The limit of a text in a composition, or in two unions, is lost.
theorem wrapped_rules_lost :
    let rules (label : Schema) : Option (List (Option String)) :=
      ((declareFields {} {} "Thing" (labelled label) {} ((labelled label).properties.getD [])).result
        { package := "models" }).1.toOption.map fun fields => fields.map fun field => field.tag.bind FieldTag.rules
    (composed shortText).Wraps shortText ∧ (orNull (orNull shortText)).Wraps shortText ∧
      rules shortText = some [none, some "max=9"] ∧ rules (composed shortText) = some [none, none] ∧
      rules (orNull (orNull shortText)) = some [none, none] := by
  have inside : shortText.Wraps shortText := .here ⟨rfl, rfl, rfl⟩
  refine ⟨composed_wraps shortText shortText inside,
    or_null_wraps _ shortText (or_null_wraps shortText shortText inside (by decide)) (by decide), ?_⟩
  decide +kernel

end ApiBindings
