import ApiBindings.Proofs.Generation.Gather
import ApiBindings.Proofs.Rendering.Origin
set_option autoImplicit false

namespace ApiBindings

theorem component_schemas (doc : Document) : doc.componentsOrNone.schemas = doc.schemas := by
  unfold Document.componentsOrNone Document.schemas
  cases doc.components <;> rfl

theorem generate_types_unit (doc : Document) (options : UnitOptions) (generated : Generated)
    (done : generateTypes doc options = .ok generated) :
    ∃ unit, buildTypes doc options.package = .ok unit ∧
      formatUnit options .types unit.render = .ok generated.source := by
  unfold generateTypes at done
  obtain ⟨unit, built, done⟩ := except_bind_ok _ _ _ done
  obtain ⟨source, formatted, done⟩ := except_bind_ok _ _ _ done
  obtain rfl := Except.ok.inj done
  exact ⟨unit, built, formatted⟩

theorem reserve_all_grows (names : List String) (unit : SourceUnit) (given : List String) :
    unit.Grows given (names.foldl SourceUnit.reserve unit) := by
  induction names generalizing unit with
  | nil => exact SourceUnit.Grows.refl given unit
  | cons name rest ih => exact (SourceUnit.reserve_grows unit given name).trans (ih (unit.reserve name))

theorem reserve_all_taken (names : List String) (unit : SourceUnit) :
    ∀ name ∈ names, name ∈ (names.foldl SourceUnit.reserve unit).names.taken := by
  induction names generalizing unit with
  | nil => exact fun name member => absurd member List.not_mem_nil
  | cons first rest ih =>
      intro name member
      rcases List.mem_cons.mp member with same | later
      · have taken := (Names.reserve_mem unit.names first name).mpr (Or.inl same)
        exact (reserve_all_grows rest (unit.reserve first) []).taken name taken
      · exact ih (unit.reserve first) name later

theorem reserve_all_declarations (names : List String) (unit : SourceUnit) :
    (names.foldl SourceUnit.reserve unit).declarations = unit.declarations ∧
      (names.foldl SourceUnit.reserve unit).functions = unit.functions := by
  induction names generalizing unit with
  | nil => exact ⟨rfl, rfl⟩
  | cons name rest ih => exact ih (unit.reserve name)

theorem component_rendered (doc : Document) (entry : String × Schema) (before after : SourceUnit)
    (done : (renderComponent doc entry).result before = (.ok (), after)) :
    Rendered doc.componentsOrNone
      (.declaration (Guard.enter {} entry.2 (Naming.exported entry.1)) (Naming.exported entry.1) entry.2) before after :=
  render_rendered doc.componentsOrNone _ entry.2 before after done

theorem build_types_steps (doc : Document) (package : String) (unit : SourceUnit)
    (built : buildTypes doc package = .ok unit) :
    ∃ results, Steps (renderComponent doc) doc.schemas (reserveComponents doc { package }) results unit := by
  unfold buildTypes at built
  cases outcome : (gatherAll (renderComponent doc) doc.schemas).result (reserveComponents doc { package }) with
  | mk result last =>
      cases result with
      | error failure => simp [outcome, Except.map] at built
      | ok results =>
          simp only [outcome, Except.map, Except.ok.injEq] at built
          subst last
          exact ⟨results, gather_all_steps _ _ _ _ _ outcome⟩

-- What is known of the finished unit. Later proofs start here and look at no
-- unit in between.
structure Complete (components : Components) (unit : SourceUnit) : Prop where
  distinct : unit.Distinct
  capital : ∀ d ∈ unit.declarations, Naming.Capital d.name
  component : ∀ entry ∈ components.schemas, Origin components unit (Naming.exported entry.1) entry.2
  record : ∀ d ∈ unit.declarations, d.shape.isRecord = true → ∃ s, Origin components unit d.name s

theorem component_grows (doc : Document) (entries : List (String × Schema)) (entry : String × Schema)
    (member : entry ∈ entries) (a : Unit) (before after : SourceUnit)
    (done : (renderComponent doc entry).result before = (.ok a, after)) :
    before.Grows (entries.map fun entry => Naming.exported entry.1) after := by
  refine (rendered_grows _ _ _ _ (component_rendered doc entry before after done)).weaken fun name named => ?_
  rw [List.mem_singleton.mp named]
  exact List.mem_map_of_mem member

theorem components_grow (doc : Document) (entries : List (String × Schema)) (before after : SourceUnit)
    (results : List Unit) (steps : Steps (renderComponent doc) entries before results after) :
    before.Grows (entries.map fun entry => Naming.exported entry.1) after :=
  steps_grow _ entries before after results _ steps (component_grows doc entries)

-- Induction over the components, for properties that every rendering keeps. The
-- declarations of a part are known to be in the finished unit.
theorem build_types_keep (doc : Document) (package : String) (unit : SourceUnit) (holds : SourceUnit → Prop)
    (built : buildTypes doc package = .ok unit)
    (start : ∀ empty : SourceUnit, empty.declarations = [] → empty.functions = [] → holds empty)
    (kept : ∀ name s before after,
      Rendered doc.componentsOrNone (.declaration (Guard.enter {} s (Naming.exported name)) (Naming.exported name) s)
        before after →
      (∀ d ∈ after.declarations, d ∈ unit.declarations) → holds before → holds after) : holds unit := by
  obtain ⟨results, steps⟩ := build_types_steps doc package unit built
  obtain ⟨noDeclarations, noFunctions⟩ := reserve_all_declarations doc.typeNames { package }
  refine steps_keep _ _ _ _ _ _ holds steps (component_grows doc doc.schemas) ?_ (start _ noDeclarations noFunctions)
  intro entry _ _ before after ran below held
  exact kept entry.1 entry.2 before after (component_rendered doc entry before after ran) below held

theorem build_types_listed (doc : Document) (package : String) (unit : SourceUnit) (holds : Declaration → Prop)
    (built : buildTypes doc package = .ok unit)
    (added : ∀ entry ∈ doc.schemas, ∀ before after,
      Rendered doc.componentsOrNone
        (.declaration (Guard.enter {} entry.2 (Naming.exported entry.1)) (Naming.exported entry.1) entry.2) before after →
      before.Adds holds after) : ∀ d ∈ unit.declarations, holds d := by
  obtain ⟨results, steps⟩ := build_types_steps doc package unit built
  have start : ∀ d ∈ (reserveComponents doc { package }).declarations, holds d := by
    intro d member
    rw [reserveComponents, (reserve_all_declarations doc.typeNames { package }).1] at member
    exact absurd member List.not_mem_nil
  refine steps_keep _ _ _ _ _ _ (fun part => ∀ d ∈ part.declarations, holds d) steps (component_grows doc doc.schemas)
    ?_ start
  intro entry listed _ before after ran _ held d member
  exact (added entry listed before after (component_rendered doc entry before after ran) d member).elim (held d) id

theorem build_types_adds (doc : Document) (package : String) (unit : SourceUnit) (holds : Declaration → Prop)
    (built : buildTypes doc package = .ok unit)
    (added : ∀ name s before after,
      Rendered doc.componentsOrNone (.declaration (Guard.enter {} s (Naming.exported name)) (Naming.exported name) s)
        before after → before.Adds holds after) : ∀ d ∈ unit.declarations, holds d :=
  build_types_listed doc package unit holds built fun entry _ => added entry.1 entry.2

theorem types_unit_functions (doc : Document) (package : String) (unit : SourceUnit)
    (built : buildTypes doc package = .ok unit) : unit.functions = [] := by
  refine build_types_keep doc package unit (fun part => part.functions = []) built (fun _ _ none => none) ?_
  intro name s before after rendered _ none
  rw [rendered_functions _ _ before after rendered, none]

theorem build_types_component (doc : Document) (package : String) (unit : SourceUnit)
    (built : buildTypes doc package = .ok unit) (entry : String × Schema) (listed : entry ∈ doc.schemas) :
    ∃ before after, Rendered doc.componentsOrNone
        (.declaration (Guard.enter {} entry.2 (Naming.exported entry.1)) (Naming.exported entry.1) entry.2) before after ∧
      ∀ d ∈ after.declarations, d ∈ unit.declarations := by
  obtain ⟨results, steps⟩ := build_types_steps doc package unit built
  obtain ⟨_, last, _, _, later, before, after, _, _, _, ran, others⟩ := steps_entry _ _ _ _ _ entry steps listed
  exact ⟨before, after, component_rendered doc entry before after ran,
    (components_grow doc last after unit later others).keep⟩

theorem build_types_complete (doc : Document) (package : String) (unit : SourceUnit)
    (built : buildTypes doc package = .ok unit) : Complete doc.componentsOrNone unit := by
  refine ⟨?_, ?_, ?_, ?_⟩
  · refine build_types_keep doc package unit SourceUnit.Distinct built ?_ ?_
    · intro empty noDeclarations _
      rw [SourceUnit.Distinct, noDeclarations]
      exact List.nodup_nil
    · intro name s before after rendered _ distinct
      exact (rendered_grows _ _ before after rendered).distinct distinct
  · refine build_types_adds doc package unit (fun d => Naming.Capital d.name) built fun name s before after rendered => ?_
    exact rendered_names _ _ before after rendered Naming.Capital Naming.capital_append (Naming.exported_capital name)
  · intro entry listed
    obtain ⟨before, after, rendered, kept⟩ :=
      build_types_component doc package unit built entry (component_schemas doc ▸ listed)
    exact ⟨_, before, after, enter_active _ _ _, rendered, kept⟩
  · refine build_types_keep doc package unit (fun part => ∀ d ∈ part.declarations, d.shape.isRecord = true →
      ∃ s, Origin doc.componentsOrNone unit d.name s) built ?_ ?_
    · intro empty noDeclarations _ d member
      rw [noDeclarations] at member
      exact absurd member List.not_mem_nil
    · intro name s before after rendered below origins d member record
      rcases rendered_origin _ unit _ before after rendered (enter_active _ _ _) below d member record with old | origin
      · exact origins d old record
      · exact origin

end ApiBindings
