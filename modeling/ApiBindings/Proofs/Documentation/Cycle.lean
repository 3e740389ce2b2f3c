import ApiBindings.Proofs.Documentation.Agreement
import ApiBindings.Proofs.Rendering.Compound
set_option autoImplicit false

namespace ApiBindings

inductive Within (roots : List Schema) : Schema → Prop where
  | root {s : Schema} (listed : s ∈ roots) : Within roots s
  | stripped {s t : Schema} (outer : Within roots s) (bare : s.effective = .ok t) : Within roots t
  | part {s t : Schema} {shape : Shape} (outer : Within roots s) (classified : s.classify = .ok shape)
      (inner : t ∈ shape.parts) : Within roots t

-- Two arrays, maps or objects that differ in their documentation only.
def Twins (roots : List Schema) : Prop :=
  ∃ s t, Within roots s ∧ Within roots t ∧ s.Compound ∧ s.Agrees t ∧ s ≠ t

structure Paired (loose : Prop) (first second : Components) (roots others : List Schema) : Prop where
  agree : first.Agrees second
  listed : ∀ entry ∈ first.schemas, entry.2 ∈ roots
  kept : ∀ entry ∈ second.schemas, entry.2 ∈ others
  twins : Twins roots ∨ Twins others → loose

structure Partners (roots others : List Schema) (s t : Schema) : Prop where
  agree : s.Agrees t
  held : Within roots s
  kept : Within others t

theorem Partners.symm {roots others : List Schema} {s t : Schema} (partners : Partners roots others s t) :
    Partners others roots t s := ⟨partners.agree.symm, partners.kept, partners.held⟩

theorem partners_related (roots others : List Schema) (first second : List (String × Schema))
    (agree : List.Forall₂ (EntryRelated Schema.Agrees) first second) (held : ∀ s ∈ first.map Prod.snd, Within roots s)
    (kept : ∀ t ∈ second.map Prod.snd, Within others t) :
    List.Forall₂ (EntryRelated (Partners roots others)) first second := by
  induction agree with
  | nil => exact .nil
  | cons entry _ ih =>
      rw [List.map_cons, List.forall_mem_cons] at held kept
      exact .cons ⟨entry.name, entry.schema, held.1, kept.1⟩ (ih held.2 kept.2)

section

variable {roots others : List Schema} {s t : Schema} (partners : Partners roots others s t)
include partners

theorem partners_effective : Results (Partners roots others) s.effective t.effective := by
  rcases results_cases _ _ (s.agrees_effective t partners.agree) with ⟨defect, first, second⟩ | ⟨u, v, first, second, agree⟩
  · rw [first, second]
    exact .error defect
  · have both : Partners roots others u v := ⟨agree, .stripped partners.held first, .stripped partners.kept second⟩
    rw [first, second]
    exact .ok both

theorem partners_stripped (target : Schema) (stripped : s.effective = .ok target) :
    ∃ other, t.effective = .ok other ∧ Partners roots others target other := by
  rcases results_cases _ _ (partners_effective partners) with ⟨_, failed, _⟩ | ⟨_, other, found, bare, inner⟩
  · cases failed.symm.trans stripped
  · obtain rfl := Except.ok.inj (stripped.symm.trans found)
    exact ⟨other, bare, inner⟩

theorem partners_classify : Results (Shape.Related (Partners roots others)) s.classify t.classify := by
  rcases results_cases _ _ (s.agrees_classify t partners.agree) with ⟨defect, first, second⟩ | ⟨a, b, first, second, agree⟩
  · rw [first, second]
    exact .error defect
  have held : ∀ u ∈ a.parts, Within roots u := fun u inner => .part partners.held first inner
  have kept : ∀ u ∈ b.parts, Within others u := fun u inner => .part partners.kept second inner
  rw [first, second]
  refine .ok ?_
  cases agree with
  | scalar type => exact .scalar type
  | enumeration type values => exact .enumeration type values
  | array items => exact .array ⟨items, held _ (List.mem_singleton_self _), kept _ (List.mem_singleton_self _)⟩
  | object properties => exact .object (partners_related roots others _ _ properties held kept)
  | openMap => exact .openMap
  | map value => exact .map ⟨value, held _ (List.mem_singleton_self _), kept _ (List.mem_singleton_self _)⟩

end

theorem shapes_related_simple (related : Schema → Schema → Prop) (a b : Shape) (agree : a.Related related b) :
    a.isSimple = b.isSimple := by
  cases agree <;> rfl

theorem agrees_compound (s t : Schema) (agree : s.Agrees t) (compound : s.Compound) : t.Compound := by
  obtain ⟨target, stripped, inline, shape, classified, composed⟩ := compound
  have outer := s.agrees_effective t agree
  rw [stripped] at outer
  rcases results_cases _ _ outer with ⟨_, failed, _⟩ | ⟨_, other, same, found, alike⟩
  · cases failed
  obtain rfl := Except.ok.inj same
  have inner := target.agrees_classify other alike
  rw [classified] at inner
  rcases results_cases _ _ inner with ⟨_, failed, _⟩ | ⟨_, kind, same, known, shapes⟩
  · cases failed
  obtain rfl := Except.ok.inj same
  exact ⟨other, found, by rw [← target.agrees_ref other alike, inline], kind, known,
    (shapes_related_simple _ shape kind shapes).symm.trans composed⟩

-- What is in progress in one run is in progress in the other, unless
-- documentation told schemas apart.
def GuardsAgree (loose : Prop) (roots others : List Schema) (guard other : Guard Schema) : Prop :=
  loose ∨ ∀ s t, Partners roots others s t → guard.isActive s = other.isActive t

namespace Cycle

section

variable {first second : Components} {roots others : List Schema}
  (components : List.Forall₂ (EntryRelated (Partners roots others)) first.schemas second.schemas)
include components

theorem located_partners (path name : String) (u : Schema) (located : first.schema? path = some (name, u)) :
    ∃ v, second.schema? path = some (name, v) ∧ Partners roots others u v := by
  obtain ⟨wanted, named, found⟩ := Option.bind_eq_some_iff.mp located
  have both := find_related (fun entry => decide (entry.1 = wanted)) (fun entry => decide (entry.1 = wanted))
    (fun p q entry => by rw [entry.name]) first.schemas second.schemas components
  rw [found] at both
  rcases option_cases _ _ both with ⟨absent, _⟩ | ⟨_, other, same, located, entry⟩
  · cases absent
  obtain rfl := Option.some.inj same
  obtain ⟨key, v⟩ := other
  obtain rfl : name = key := entry.name
  refine ⟨v, ?_, entry.schema⟩
  rw [Components.schema?, named]
  exact located

theorem step_partners (s t u : Schema) (partners : Partners roots others s t) (step : Step first s u) :
    ∃ v, Step second t v ∧ Partners roots others u v := by
  cases step with
  | strip stripped =>
      obtain ⟨v, bare, inner⟩ := partners_stripped partners u stripped
      exact ⟨v, .strip bare, inner⟩
  | @reference target _ path name stripped refers located =>
      obtain ⟨other, bare, inner⟩ := partners_stripped partners target stripped
      obtain ⟨v, found, entered⟩ := located_partners components path name u located
      exact ⟨v, .reference bare (by rw [← target.agrees_ref other inner.agree, refers]) found, entered⟩
  | @property target properties entry stripped inline classified member =>
      obtain ⟨other, bare, inner⟩ := partners_stripped partners target stripped
      have shapes := partners_classify inner
      rw [classified] at shapes
      rcases results_cases _ _ shapes with ⟨_, failed, _⟩ | ⟨_, shape, same, known, parts⟩
      · cases failed
      obtain rfl := Except.ok.inj same
      cases parts with
      | object both =>
          obtain ⟨partner, listed, held⟩ := forall_partner _ _ both entry member
          exact ⟨partner.2, .property bare (by rw [← target.agrees_ref other inner.agree, inline]) known listed, held.schema⟩

theorem reaches_partners (s t u : Schema) (partners : Partners roots others s t) (reached : Reaches first s u) :
    ∃ v, Reaches second t v ∧ Partners roots others u v := by
  induction reached with
  | refl => exact ⟨t, .refl, partners⟩
  | tail _ step ih =>
      obtain ⟨v, before, both⟩ := ih
      obtain ⟨w, next, after⟩ := step_partners components _ v _ both step
      exact ⟨w, before.tail next, after⟩

theorem closes_partners (guard other : Guard Schema)
    (same : ∀ s t, Partners roots others s t → guard.isActive s = other.isActive t)
    (s t : Schema) (partners : Partners roots others s t) (closes : first.closesCycle guard s = true) :
    second.closesCycle other t = true := by
  obtain ⟨u, reached, active, bare, stripped⟩ := (closes_cycle_found_iff first guard s).mp closes
  obtain ⟨v, found, both⟩ := reaches_partners components s t u partners reached
  obtain ⟨left, bared, _⟩ := partners_stripped both bare stripped
  exact (closes_cycle_found_iff second other t).mpr ⟨v, found, (same u v both).symm.trans active, left, bared⟩

end

end Cycle

section

variable {loose : Prop} {first second : Components} {roots others : List Schema}
  (paired : Paired loose first second roots others)
include paired

theorem guards_enter (guard other : Guard Schema) (s t : Schema) (name : String)
    (agree : GuardsAgree loose roots others guard other) (partners : Partners roots others s t)
    (compound : s.Compound) :
    GuardsAgree loose roots others (guard.enter s name) (other.enter t name) := by
  rcases agree with admitted | agree
  · exact Or.inl admitted
  by_cases admitted : loose
  · exact Or.inl admitted
  have partner := agrees_compound s t partners.agree compound
  -- Without twins a schema of one run has one partner in the other.
  have apart : ¬ (Twins roots ∨ Twins others) := fun twins => admitted (paired.twins twins)
  refine Or.inr fun u v both => ?_
  have equal : u = s ↔ v = t := by
    constructor
    · rintro rfl
      by_contra different
      exact apart (Or.inr ⟨t, v, partners.kept, both.kept, partner, partners.agree.symm.trans both.agree,
        Ne.symm different⟩)
    · rintro rfl
      by_contra different
      exact apart (Or.inl ⟨s, u, partners.held, both.held, compound, partners.agree.trans both.agree.symm,
        Ne.symm different⟩)
  rw [enter_is_active, enter_is_active, agree u v both, decide_eq_decide.mpr equal]

theorem partners_components : List.Forall₂ (EntryRelated (Partners roots others)) first.schemas second.schemas := by
  refine partners_related roots others _ _ (first.agrees_schemas second paired.agree) (fun s member => ?_) fun t member => ?_
  · obtain ⟨entry, listed, rfl⟩ := List.mem_map.mp member
    exact .root (paired.listed entry listed)
  · obtain ⟨entry, listed, rfl⟩ := List.mem_map.mp member
    exact .root (paired.kept entry listed)

theorem closes_cycle_agrees (guard other : Guard Schema) (s t : Schema) (agree : GuardsAgree loose roots others guard other)
    (partners : Partners roots others s t) : loose ∨ first.closesCycle guard s = second.closesCycle other t := by
  refine agree.imp_right fun same => Bool.eq_iff_iff.mpr ⟨?_, ?_⟩
  · exact Cycle.closes_partners (partners_components paired) guard other same s t partners
  · have back : List.Forall₂ (EntryRelated (Partners others roots)) second.schemas first.schemas :=
      (partners_components paired).flip.imp fun _ _ entry => ⟨entry.name.symm, entry.schema.symm⟩
    exact Cycle.closes_partners back other guard (fun u v both => (same v u both.symm).symm) t s partners.symm

end

end ApiBindings
