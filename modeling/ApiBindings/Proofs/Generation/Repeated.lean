import ApiBindings.Proofs.Generation.Components
import ApiBindings.Proofs.Rendering.Repeated
set_option autoImplicit false

namespace ApiBindings

section

variable (doc : Document)

-- Two components of one exported name are rendered one after the other, and what the first one declared is still there
-- when it is the second one's turn.
theorem namesakes_rendered (package : String) (unit : SourceUnit) (built : buildTypes doc package = .ok unit)
    (a b : String × Schema) (both : [a, b].Sublist doc.schemas) :
    ∃ before after later last,
      (renderComponent doc a).result before = (.ok (), after) ∧ (renderComponent doc b).result later = (.ok (), last) ∧
      after.Grows (doc.schemas.map fun entry => Naming.exported entry.1) later ∧
      ∀ d ∈ after.declarations, d ∈ unit.declarations := by
  obtain ⟨results, steps⟩ := build_types_steps doc package unit built
  obtain ⟨front, back, split, first, second⟩ := List.cons_sublist_iff.mp both
  rw [split] at steps
  obtain ⟨earlier, later, middle, before, after⟩ := steps_append _ _ _ _ _ _ steps
  have grow (part : List (String × Schema)) (start next : SourceUnit) (results : List Unit)
      (inside : ∀ entry ∈ part, entry ∈ front ++ back) (ran : Steps (renderComponent doc) part start results next) :
      start.Grows (doc.schemas.map fun entry => Naming.exported entry.1) next :=
    steps_grow _ part start next results _ ran fun entry member => component_grows doc doc.schemas entry
      (split ▸ inside entry member)
  obtain ⟨_, following, _, _, _, start, next, rfl, _, _, ran, others⟩ := steps_entry _ _ _ _ _ a before first
  obtain ⟨preceding, rest, _, _, _, turn, last, rfl, _, between, again, remaining⟩ :=
    steps_entry _ _ _ _ _ b after (List.singleton_sublist.mp second)
  have toMiddle := grow following next middle _ (fun entry member => by simp [member]) others
  have toTurn := grow preceding middle turn _ (fun entry member => by simp [member]) between
  refine ⟨start, next, turn, last, ran, again, toMiddle.trans toTurn, fun d member => ?_⟩
  have fromMiddle := grow _ middle unit _ (fun entry member => List.mem_append_right _ member) after
  exact fromMiddle.keep d (toMiddle.keep d member)

theorem namesakes_alike (name : String) (s : Schema) (d : Declaration) (same : (d == d) = true)
    (declares : ∀ unit, (render doc.componentsOrNone name s).result unit = (Build.declare d).result unit)
    (entries : List (String × Schema)) (before : SourceUnit) (listed : ∀ entry ∈ entries, entry ∈ doc.schemas)
    (equal : ∀ entry ∈ entries, Naming.exported entry.1 = name → entry.2 = s) (prepared : doc.Prepared before)
    (known : name ∈ doc.typeNames) (start : ∀ e ∈ before.declarations, e.name = name → (e == d) = true) :
    ∀ e ∈ (entries.foldl (fun unit entry => ((renderComponent doc entry).result unit).2) before).declarations,
      e.name = name → (e == d) = true := by
  refine (components_keep doc entries before (fun unit => ∀ e ∈ unit.declarations, e.name = name → (e == d) = true)
    listed prepared (fun entry member unit ready grows kept e inside called => ?_) start).2
  by_cases own : Naming.exported entry.1 = name
  · have adds : unit.Adds (fun e => (e == d) = true) ((Build.declare d).result unit).2 := by
      rw [Build.declare_result]
      cases declared : unit.declare d with
      | ok next => exact SourceUnit.declare_adds _ _ _ _ declared same
      | error failure => exact SourceUnit.same_adds _ _ _ rfl
    unfold renderComponent at inside
    rw [equal entry member own, own, declares] at inside
    exact (adds e inside).elim (fun old => kept e old called) id
  · rcases grows.fresh e inside with old | given | ⟨free, _⟩
    · exact kept e old called
    · exact absurd ((List.mem_singleton.mp given).symm.trans called) own
    · exact absurd (called ▸ ready.reserved name known) free

theorem build_types_conflict (package name : String)
    (failed : buildTypes doc package = .error (.malformed name .conflictingDeclarations)) :
    ∃ a b, [a, b].Sublist doc.schemas ∧ Naming.exported a.1 = name ∧ Naming.exported b.1 = name ∧
      ¬ (a.2 = b.2 ∧ a.2.Repeatable) := by
  obtain ⟨first, entry, last, split, rfl, ⟨other, earlier, shared⟩, clash⟩ :=
    build_types_clash_entry doc package name failed
  have pair (a : String × Schema) (member : a ∈ first) : [a, entry].Sublist doc.schemas := by
    rw [split]
    exact (List.singleton_sublist.mpr member).append (List.cons_sublist_cons.mpr (List.nil_sublist _))
  by_contra none
  have alike (a : String × Schema) (member : a ∈ first) (named : Naming.exported a.1 = Naming.exported entry.1) :
      a.2 = entry.2 ∧ a.2.Repeatable := by
    by_contra different
    exact none ⟨a, entry, pair a member, named, rfl, different⟩
  obtain ⟨equal, repeatable⟩ := alike other earlier shared
  rw [equal] at repeatable
  obtain ⟨noDeclarations, _⟩ := components_start doc package
  have prepared := prepared_start doc package
  have present : entry ∈ doc.schemas := split ▸ List.mem_append_right _ List.mem_cons_self
  have known : Naming.exported entry.1 ∈ doc.typeNames := List.mem_map_of_mem present
  rcases render_settled doc.componentsOrNone _ entry.2 repeatable with ⟨failure, fails⟩ | ⟨d, named, same, declares⟩
  · have start : Clashes (Naming.exported entry.1)
        ((renderComponent doc entry).result (reserveComponents doc { package })).1 := by
      unfold renderComponent at clash ⊢
      rw [fails] at clash ⊢
      exact clash
    obtain ⟨_, d, member, _⟩ := prepared_clash doc entry _ _ prepared present start
    rw [noDeclarations] at member
    exact List.not_mem_nil member
  · unfold renderComponent at clash
    rw [declares, Build.declare_result] at clash
    have listed : ∀ a ∈ first, a ∈ doc.schemas := fun a member => split ▸ List.mem_append_left _ member
    have all := namesakes_alike doc _ entry.2 d same declares first (reserveComponents doc { package }) listed
      (fun a member shared => (alike a member shared).1) prepared known fun e member => by
        rw [noDeclarations] at member
        exact absurd member List.not_mem_nil
    split at clash
    next => cases clash
    next failure declared =>
      obtain ⟨_, e, found, different⟩ := SourceUnit.declare_error _ d failure declared
      obtain ⟨member, called⟩ := SourceUnit.find_some _ _ _ found
      exact Bool.false_ne_true (different.symm.trans (all e member (called.trans named)))

theorem rendering_repeats_iff :
    (∀ name s before after, (render doc.componentsOrNone name s).result before = (.ok (), after) →
      (s.Repeatable ∧ (render doc.componentsOrNone name s).result after = (.ok (), after)) ∨
        (¬ s.Repeatable ∧ ∃ other, Clashes other ((render doc.componentsOrNone name s).result after).1)) ∧
    (∀ options generated, generateTypes doc options = .ok generated →
      ∃ unit, buildTypes doc options.package = .ok unit ∧
        formatUnit options .types unit.render = .ok generated.source ∧
        ∀ a b, [a, b].Sublist doc.schemas → Naming.exported a.1 = Naming.exported b.1 → a.2 = b.2 →
          a.2.Repeatable ∧ ∃ d, unit.declarations.filter (·.name = Naming.exported a.1) = [d]) ∧
    ∀ options name, generateTypes doc options = .error (.malformed name .conflictingDeclarations) →
      ∃ a b, [a, b].Sublist doc.schemas ∧ Naming.exported a.1 = name ∧ Naming.exported b.1 = name ∧
        ¬ (a.2 = b.2 ∧ a.2.Repeatable) := by
  refine ⟨fun name s before after done => ?_, fun options generated done => ?_, fun options name failed => ?_⟩
  · exact render_again doc.componentsOrNone name s before after after done (fun _ used => used) rfl
  · obtain ⟨unit, built, formatted⟩ := generate_types_unit doc options generated done
    refine ⟨unit, built, formatted, fun a b both shared equal => ?_⟩
    obtain ⟨before, after, later, last, ran, again, grows, kept⟩ :=
      namesakes_rendered doc options.package unit built a b both
    obtain ⟨target, shape, middle, _, _, declared⟩ := render_shape _ _ _ _ _ ran
    obtain ⟨d, found, _⟩ := SourceUnit.declare_find _ _ _ declared
    obtain ⟨member, named⟩ := SourceUnit.find_some _ _ _ found
    dsimp only at named
    have distinct := (build_types_complete doc options.package unit built).distinct
    refine ⟨?_, d, named ▸ named_once unit.declarations d distinct (kept d member)⟩
    unfold renderComponent at again
    rw [← shared, ← equal] at again
    exact render_again_repeatable _ _ _ before after later last ran again grows.taken
      ((SourceUnit.grows_find _ _ _ grows _ d found).trans found.symm)
  · unfold generateTypes at failed
    rcases except_bind_error _ _ _ failed with clash | ⟨unit, _, failed⟩
    · exact build_types_conflict doc options.package name clash
    · rcases except_bind_error _ _ _ failed with refused | ⟨source, _, returned⟩
      · exact absurd refused (format_never_clashes options .types unit.render name)
      · cases returned

end

def spelledTwice : Document :=
  let size : Schema := { type := some (.single "string"), enumValues := some [.text "small", .text "large"] }
  let sizes : Schema := { type := some (.single "array"), items := some { ref := some "#/components/schemas/Size" } }
  { components := some { schemas := [("Size", size), ("Sizes", sizes), ("size", size), ("sizes", sizes)] } }

def ownedWidget : Schema :=
  let object (properties : List (String × Schema)) : Schema :=
    { type := some (.single "object"), properties := some properties }
  object [("owner", object [("id", { type := some (.single "string") })])]

def ownedTwice : Document := { components := some { schemas := [("Widget", ownedWidget), ("widget", ownedWidget)] } }

theorem owned_widget_refused :
    (∃ after, (render ownedTwice.componentsOrNone "Widget" ownedWidget).result { package := "models" } = (.ok (), after) ∧
      Clashes "Widget" ((render ownedTwice.componentsOrNone "Widget" ownedWidget).result after).1) ∧
    Naming.exported "Widget" = Naming.exported "widget" ∧
    generateTypes ownedTwice {} = .error (.malformed "Widget" .conflictingDeclarations) := by
  obtain ⟨_, done⟩ := ok_exists
    ((render ownedTwice.componentsOrNone "Widget" ownedWidget).result { package := "models" }).1 (by decide +kernel)
  obtain ⟨_, again, same⟩ := error_holds ((render ownedTwice.componentsOrNone "Widget" ownedWidget).result
      ((render ownedTwice.componentsOrNone "Widget" ownedWidget).result { package := "models" }).2).1
    (· = .malformed "Widget" .conflictingDeclarations) (by decide +kernel)
  obtain rfl := of_decide_eq_true same
  obtain ⟨_, failed, clash⟩ := error_holds (generateTypes ownedTwice {})
    (· = .malformed "Widget" .conflictingDeclarations) (by decide +kernel)
  obtain rfl := of_decide_eq_true clash
  exact ⟨⟨_, Prod.ext done rfl, again⟩, by decide +kernel, failed⟩

theorem owned_widgets_clash :
    (∃ after, (render ownedTwice.componentsOrNone "Widget" ownedWidget).result { package := "models" } = (.ok (), after) ∧
      Clashes "Widget" ((render ownedTwice.componentsOrNone "Widget" ownedWidget).result after).1) ∧
    ownedTwice.schemas = [("Widget", ownedWidget), ("widget", ownedWidget)] ∧
    Naming.exported "Widget" = Naming.exported "widget" ∧
    generateTypes ownedTwice {} = .error (.malformed "Widget" .conflictingDeclarations) :=
  ⟨owned_widget_refused.1, rfl, owned_widget_refused.2⟩

theorem sizes_rendered_again :
    (∃ after, (render ownedTwice.componentsOrNone "Widget" ownedWidget).result { package := "models" } = (.ok (), after) ∧
      ((ownedWidget.Repeatable ∧
          (render ownedTwice.componentsOrNone "Widget" ownedWidget).result after = (.ok (), after)) ∨
        (¬ ownedWidget.Repeatable ∧
          ∃ other, Clashes other ((render ownedTwice.componentsOrNone "Widget" ownedWidget).result after).1))) ∧
    (∃ generated, generateTypes spelledTwice { installed := some unchanging } = .ok generated ∧
      ∃ unit, buildTypes spelledTwice "models" = .ok unit ∧
        formatUnit { installed := some unchanging } .types unit.render = .ok generated.source ∧
        ∀ a b, [a, b].Sublist spelledTwice.schemas → Naming.exported a.1 = Naming.exported b.1 → a.2 = b.2 →
          a.2.Repeatable ∧ ∃ d, unit.declarations.filter (·.name = Naming.exported a.1) = [d]) ∧
    generateTypes ownedTwice {} = .error (.malformed "Widget" .conflictingDeclarations) ∧
    ∃ a b, [a, b].Sublist ownedTwice.schemas ∧ Naming.exported a.1 = "Widget" ∧ Naming.exported b.1 = "Widget" ∧
      ¬ (a.2 = b.2 ∧ a.2.Repeatable) := by
  obtain ⟨⟨after, done, _⟩, _, refused⟩ := owned_widget_refused
  obtain ⟨unit, built⟩ := ok_exists (buildTypes spelledTwice "models") (by decide +kernel)
  have generated := generate_types_unchanging spelledTwice "models" unit built
  exact ⟨⟨after, done, (rendering_repeats_iff ownedTwice).1 "Widget" ownedWidget _ after done⟩,
    ⟨_, generated, (rendering_repeats_iff spelledTwice).2.1 { installed := some unchanging } _ generated⟩,
    refused, (rendering_repeats_iff ownedTwice).2.2 {} "Widget" refused⟩

end ApiBindings
