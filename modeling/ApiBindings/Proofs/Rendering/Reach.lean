import ApiBindings.Proofs.Rendering.Search
import Mathlib.Logic.Relation
set_option autoImplicit false

namespace ApiBindings

namespace Cycle

inductive Step (components : Components) : Schema → Schema → Prop where
  | strip {s target : Schema} (stripped : s.effective = .ok target) : Step components s target
  | reference {s target t : Schema} {path name : String} (stripped : s.effective = .ok target)
      (reference : target.ref = some path) (found : components.schema? path = some (name, t)) : Step components s t
  | property {s target : Schema} {properties : List (String × Schema)} {entry : String × Schema}
      (stripped : s.effective = .ok target) (inline : target.ref = none)
      (classified : target.classify = .ok (.object properties)) (member : entry ∈ properties) :
      Step components s entry.2

def Reaches (components : Components) : Schema → Schema → Prop := Relation.ReflTransGen (Step components)

variable {components : Components} {active : Schema → Bool}

def Look.Leads (components : Components) (t : Schema) : Look → Prop
  | .schema s => Reaches components s t
  | .target bare => ∀ s, s.effective = .ok bare → Reaches components s t
  | .held properties => ∃ entry ∈ properties, Reaches components entry.2 t

theorem runs_lead {look : Look} {seen later : List Visit} {n : Nat} {found : Bool}
    (runs : Runs components active look seen n found later) (hit : found = true) :
    ∃ t, look.Leads components t ∧ active t = true ∧ ∃ bare, t.effective = .ok bare := by
  induction runs with
  | unsupported | again | unresolved | leaf | expanded | exhausted => cases hit
  | @met _ s target stripped met =>
      rcases Bool.or_eq_true_iff.mp met with own | inner
      · exact ⟨s, .refl, own, target, stripped⟩
      · exact ⟨target, .single (.strip stripped), inner, target, Schema.effective_idempotent s target stripped⟩
  | @bare _ _ s _ _ _ stripped _ _ ih =>
      obtain ⟨t, leads, own⟩ := ih hit
      exact ⟨t, leads s stripped, own⟩
  | reference refers _ located _ ih =>
      obtain ⟨t, reached, own⟩ := ih hit
      exact ⟨t, fun s stripped => .head (.reference stripped refers located) reached, own⟩
  | object inline classified _ _ ih =>
      obtain ⟨t, ⟨entry, member, reached⟩, own⟩ := ih hit
      exact ⟨t, fun s stripped => .head (.property stripped inline classified member) reached, own⟩
  | found _ ih =>
      obtain ⟨t, reached, own⟩ := ih hit
      exact ⟨t, ⟨_, List.mem_cons_self, reached⟩, own⟩
  | next _ _ _ others =>
      obtain ⟨t, ⟨entry, member, reached⟩, own⟩ := others hit
      exact ⟨t, ⟨entry, List.mem_cons_of_mem _ member, reached⟩, own⟩

structure Arrived (visited : List Visit) (target : Schema) : Prop where
  reference : ∀ path, target.ref = some path → .reference path ∈ visited
  object : target.ref = none → ∀ properties, target.classify = .ok (.object properties) →
    ∀ entry ∈ properties, .content target ∈ visited

def Passed (active : Schema → Bool) (visited : List Visit) (s : Schema) : Prop :=
  ∀ target, s.effective = .ok target → active s = false ∧ active target = false ∧ Arrived visited target

def Look.Passed (active : Schema → Bool) (visited : List Visit) : Look → Prop
  | .schema s => Cycle.Passed active visited s
  | .target bare => Arrived visited bare
  | .held properties => ∀ entry ∈ properties, Cycle.Passed active visited entry.2

def Visit.Explored (components : Components) (active : Schema → Bool) (visited : List Visit) : Visit → Prop
  | .reference path => ∀ name s, components.schema? path = some (name, s) → Passed active visited s
  | .content s => ∀ properties, s.classify = .ok (.object properties) →
      ∀ entry ∈ properties, Passed active visited entry.2

theorem passed_later {visited later : List Visit} {s : Schema} (kept : visited ⊆ later)
    (passed : Passed active visited s) : Passed active later s := by
  intro target stripped
  obtain ⟨own, inner, arrived⟩ := passed target stripped
  exact ⟨own, inner, fun path refers => kept (arrived.reference path refers),
    fun inline properties classified entry member => kept (arrived.object inline properties classified entry member)⟩

theorem explored_later {visited later : List Visit} {visit : Visit} (kept : visited ⊆ later)
    (explored : visit.Explored components active visited) : visit.Explored components active later := by
  cases visit with
  | reference path => exact fun name s located => passed_later kept (explored name s located)
  | content s => exact fun properties classified entry member => passed_later kept (explored properties classified entry member)

theorem arrived_reference {visited : List Visit} {target : Schema} {path : String} (refers : target.ref = some path)
    (known : .reference path ∈ visited) : Arrived visited target := by
  refine ⟨fun other again => ?_, fun inline => ?_⟩
  · rwa [← Option.some.inj (refers.symm.trans again)]
  · cases refers.symm.trans inline

theorem arrived_inline {visited : List Visit} {target : Schema} (inline : target.ref = none)
    (known : ∀ property others, target.classify = .ok (.object (property :: others)) → .content target ∈ visited) :
    Arrived visited target := by
  refine ⟨fun path refers => ?_, fun _ properties classified entry member => ?_⟩
  · cases inline.symm.trans refers
  · cases properties with
    | nil => cases member
    | cons property others => exact known property others classified

theorem explored_join {seen later : List Visit} {first : Visit} (own : first.Explored components active later)
    (explored : ∀ visit ∈ later, visit ∈ first :: seen ∨ visit.Explored components active later) :
    ∀ visit ∈ later, visit ∈ seen ∨ visit.Explored components active later := by
  intro visit member
  rcases explored visit member with earlier | behind
  · rcases List.mem_cons.mp earlier with rfl | before
    · exact Or.inr own
    · exact Or.inl before
  · exact Or.inr behind

-- What is visited during a run is explored at its end; what was visited before may still be in progress.
theorem runs_passed {look : Look} {seen later : List Visit} {n : Nat} {found : Bool}
    (runs : Runs components active look seen n found later) (missed : found = false) :
    look.Passed active later ∧ ∀ visit ∈ later, visit ∈ seen ∨ visit.Explored components active later := by
  induction runs with
  | unsupported failed =>
      refine ⟨fun target stripped => ?_, fun _ => Or.inl⟩
      cases failed.symm.trans stripped
  | met | found => cases missed
  | bare stripped unmet _ ih =>
      obtain ⟨arrived, explored⟩ := ih missed
      refine ⟨fun target again => ?_, explored⟩
      obtain rfl := Except.ok.inj (stripped.symm.trans again)
      rw [Bool.not_eq_true, Bool.or_eq_false_iff] at unmet
      exact ⟨unmet.1, unmet.2, arrived⟩
  | again refers known => exact ⟨arrived_reference refers known, fun _ => Or.inl⟩
  | unresolved refers _ absent =>
      refine ⟨arrived_reference refers List.mem_cons_self, explored_join ?_ fun _ => Or.inl⟩
      intro name s located
      cases absent.symm.trans located
  | reference refers _ located onward ih =>
      obtain ⟨passed, explored⟩ := ih missed
      refine ⟨arrived_reference refers (runs_kept onward List.mem_cons_self), explored_join ?_ explored⟩
      intro name s again
      obtain ⟨-, rfl⟩ := Prod.mk.inj (Option.some.inj (located.symm.trans again))
      exact passed
  | leaf inline closed =>
      exact ⟨arrived_inline inline fun property others classified => absurd classified (closed property others),
        fun _ => Or.inl⟩
  | expanded inline _ known => exact ⟨arrived_inline inline fun _ _ _ => known, fun _ => Or.inl⟩
  | object inline classified _ inside ih =>
      obtain ⟨passed, explored⟩ := ih missed
      refine ⟨arrived_inline inline fun _ _ _ => runs_kept inside List.mem_cons_self, explored_join ?_ explored⟩
      intro properties again
      rwa [← Shape.object.inj (Except.ok.inj (classified.symm.trans again))]
  | exhausted => exact ⟨List.forall_mem_nil _, fun _ => Or.inl⟩
  | next _ others ih onward =>
      obtain ⟨passed, explored⟩ := ih rfl
      obtain ⟨rest, behind⟩ := onward missed
      have kept := runs_kept others
      refine ⟨List.forall_mem_cons.mpr ⟨passed_later kept passed, rest⟩, fun visit member => ?_⟩
      rcases behind visit member with between | done
      · exact (explored visit between).imp_right (explored_later kept)
      · exact Or.inr done

theorem reaches_passed {visited : List Visit} {s t : Schema}
    (explored : ∀ visit ∈ visited, visit.Explored components active visited) (passed : Passed active visited s)
    (reached : Reaches components s t) : Passed active visited t := by
  induction reached with
  | refl => exact passed
  | tail _ step ih =>
      cases step with
      | strip stripped =>
          obtain ⟨-, inner, arrived⟩ := ih _ stripped
          intro other again
          obtain rfl := Except.ok.inj ((Schema.effective_idempotent _ _ stripped).symm.trans again)
          exact ⟨inner, inner, arrived⟩
      | reference stripped refers found =>
          obtain ⟨-, -, arrived⟩ := ih _ stripped
          exact explored _ (arrived.reference _ refers) _ _ found
      | property stripped inline classified member =>
          obtain ⟨-, -, arrived⟩ := ih _ stripped
          exact explored _ (arrived.object inline _ classified _ member) _ classified _ member

-- A schema with an unsupported wrapper is passed over, even if it is in progress.
theorem closes_cycle_found_iff (components : Components) (guard : Guard Schema) (s : Schema) :
    components.closesCycle guard s = true ↔
      ∃ t, Reaches components s t ∧ guard.isActive t = true ∧ ∃ bare, t.effective = .ok bare := by
  obtain ⟨n, runs⟩ := reaches_active_searched components guard.isActive [] s
  refine ⟨runs_lead runs, fun ⟨t, reached, active, bare, stripped⟩ => ?_⟩
  rw [← Bool.not_eq_false]
  intro missed
  obtain ⟨passed, explored⟩ := runs_passed runs missed
  have inactive := reaches_passed (fun visit member => (explored visit member).resolve_left List.not_mem_nil) passed
    reached bare stripped
  exact Bool.false_ne_true (inactive.1.symm.trans active)

def successors (components : Components) (s : Schema) : List Schema :=
  match s.effective with
  | .error _ => []
  | .ok target =>
    target :: match target.ref with
      | some path => ((components.schema? path).map Prod.snd).toList
      | none =>
        match target.classify with
        | .ok (.object properties) => properties.map Prod.snd
        | _ => []

theorem step_successor (components : Components) (s t : Schema) (step : Step components s t) :
    t ∈ successors components s := by
  unfold successors
  cases step with
  | strip stripped =>
      rw [stripped]
      exact List.mem_cons_self
  | reference stripped refers found =>
      rw [stripped]
      simp only [refers, found]
      exact List.mem_cons_of_mem _ (List.mem_singleton_self t)
  | property stripped inline classified member =>
      rw [stripped]
      simp only [inline, classified]
      exact List.mem_cons_of_mem _ (List.mem_map_of_mem member)

theorem reaches_listed (components : Components) (all : List Schema) (s t : Schema)
    (closed : ∀ a ∈ all, ∀ b ∈ successors components a, b ∈ all) (listed : s ∈ all)
    (reached : Reaches components s t) : t ∈ all := by
  induction reached with
  | refl => exact listed
  | tail _ step ih => exact closed _ ih _ (step_successor components _ _ step)

end Cycle

theorem closes_cycle_iff_reaches (components : Components) (guard : Guard Schema) (s : Schema) :
    ((∀ t, Cycle.Reaches components s t → ∃ target, t.effective = .ok target) →
      (components.closesCycle guard s = true ↔ ∃ t, Cycle.Reaches components s t ∧ guard.isActive t = true)) ∧
      (∃ n visited, Cycle.Runs components guard.isActive (.schema s) [] n (components.closesCycle guard s) visited) ∧
      ∀ n found visited, Cycle.Runs components guard.isActive (.schema s) [] n found visited →
        n ≤ sizeOf components.schemas + sizeOf s := by
  refine ⟨fun supported => ?_, ?_, fun n found visited runs => ?_⟩
  · rw [Cycle.closes_cycle_found_iff]
    exact ⟨fun ⟨t, reached, active, _⟩ => ⟨t, reached, active⟩,
      fun ⟨t, reached, active⟩ => ⟨t, reached, active, supported t reached⟩⟩
  · obtain ⟨n, runs⟩ := Cycle.reaches_active_searched components guard.isActive [] s
    exact ⟨n, _, runs⟩
  · have bound := Cycle.runs_bounded runs
    have whole := Cycle.unmet_size_le [] components.schemas
    simp only [Cycle.Look.cost] at bound
    omega

def loopReference : Schema := { ref := some "#/components/schemas/loop" }

def parcelReference : Schema := { ref := some "#/components/schemas/parcel" }

def label : Schema := { properties := some [("on", { allOf := some [parcelReference] })] }

def parcel : Schema :=
  { properties := some [("label", { ref := some "#/components/schemas/label" }), ("loop", loopReference)] }

def parcels : Components :=
  { schemas := [
      ("label", label), ("loop", { ref := some "#/components/schemas/round" }), ("parcel", parcel),
      ("round", loopReference)] }

theorem parcels_lead_back :
    (∀ s ∈ [parcelReference, loopReference], ∀ t, Cycle.Reaches parcels s t → ∃ target, t.effective = .ok target) ∧
      parcels.closesCycle (Guard.enter {} label "Label") parcelReference = true ∧
      parcels.closesCycle (Guard.enter {} label "Label") loopReference = false ∧
      ∃ n visited, Cycle.Runs parcels (Guard.enter {} label "Label").isActive (.schema loopReference) [] n false visited := by
  let inLoop : List Schema := [loopReference, { ref := some "#/components/schemas/round" }]
  let all : List Schema := inLoop ++
    [parcelReference, { ref := some "#/components/schemas/label" }, { allOf := some [parcelReference] }, parcel, label]
  have supported : ∀ s ∈ [parcelReference, loopReference], ∀ t, Cycle.Reaches parcels s t →
      ∃ target, t.effective = .ok target := by
    intro s member t reached
    have present := Cycle.reaches_listed parcels all s t (by decide +kernel)
      ((by decide +kernel : ∀ s ∈ [parcelReference, loopReference], s ∈ all) s member) reached
    exact ok_exists t.effective ((by decide +kernel : ∀ t ∈ all, t.effective.isOk = true) t present)
  have found := closes_cycle_iff_reaches parcels (Guard.enter {} label "Label") parcelReference
  have missed := closes_cycle_iff_reaches parcels (Guard.enter {} label "Label") loopReference
  have opened : parcels.closesCycle (Guard.enter {} label "Label") loopReference = false := by
    rw [← Bool.not_eq_true]
    intro closes
    obtain ⟨t, reached, active⟩ := (missed.1 (supported loopReference (by decide +kernel))).mp closes
    have present := Cycle.reaches_listed parcels inLoop loopReference t (by decide +kernel) List.mem_cons_self reached
    have inactive := (by decide +kernel : ∀ t ∈ inLoop, (Guard.enter {} label "Label").isActive t = false) t present
    exact Bool.false_ne_true (inactive.symm.trans active)
  have bare (path : String) : ({ ref := some path } : Schema).effective = .ok { ref := some path } :=
    Schema.bare_effective _ ⟨rfl, rfl, rfl⟩
  have inside : Cycle.Step parcels parcel { ref := some "#/components/schemas/label" } :=
    @Cycle.Step.property parcels parcel parcel _ ("label", _) (Schema.bare_effective parcel ⟨rfl, rfl, rfl⟩) rfl rfl
      List.mem_cons_self
  have reached : Cycle.Reaches parcels parcelReference label :=
    .tail (.tail (.single (.reference (bare _) rfl rfl)) inside) (.reference (bare _) rfl rfl)
  refine ⟨supported, (found.1 (supported parcelReference List.mem_cons_self)).mpr ⟨label, reached, by decide +kernel⟩,
    opened, ?_⟩
  rw [← opened]
  exact missed.2.1

namespace Cycle

def Beyond (components : Components) (s t : Schema) : Prop := Reaches components s t ∧ ¬ Reaches components t s

-- The components that a step may still arrive at are in `unseen`; a step that arrives at one takes it away.
theorem beyond_ends (components : Components) (holds : Schema → Prop)
    (step : ∀ s, (∀ t, Beyond components s t →
      (t ∈ components.schemas.map Prod.snd ∨ sizeOf t < sizeOf s) → holds t) → holds s)
    (unseen : List Schema) (s : Schema)
    (left : ∀ t ∈ components.schemas.map Prod.snd, Beyond components s t → t ∈ unseen) : holds s := by
  apply step
  intro t beyond arrives
  have further : ∀ u, Beyond components t u → Beyond components s u := fun u next =>
    ⟨beyond.1.trans next.1, fun back => next.2 (back.trans beyond.1)⟩
  rcases Classical.em (t ∈ components.schemas.map Prod.snd) with component | inner
  · have member := left t component beyond
    have shorter := List.length_erase_of_mem member
    have positive := List.length_pos_of_mem member
    refine beyond_ends components holds step (unseen.erase t) t fun u listed next => ?_
    refine (List.mem_erase_of_ne ?_).mpr (left u listed (further u next))
    rintro rfl
    exact next.2 next.1
  · have smaller := arrives.resolve_left inner
    exact beyond_ends components holds step unseen t fun u listed next => left u listed (further u next)
termination_by (unseen.length, sizeOf s)

end Cycle

end ApiBindings
