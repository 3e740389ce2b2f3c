import ApiBindings.Rendering.Guard
import ApiBindings.Shape.Reference
set_option autoImplicit false

namespace ApiBindings

theorem after_append (lead text rest : String) (found : after? lead text = some rest) : lead ++ rest = text := by
  unfold after? at found
  split at found
  · next leads =>
    obtain ⟨others, whole⟩ := List.isPrefixOf_iff_prefix.mp leads
    obtain rfl := Option.some.inj found
    apply String.toList_injective
    rw [String.toList_append, String.toList_ofList, ← whole, ← String.length_toList, List.drop_left]
  · cases found

theorem schema_located (components : Components) (path name : String) (s : Schema)
    (located : components.schema? path = some (name, s)) :
    path = "#/components/schemas/" ++ name ∧ (name, s) ∈ components.schemas := by
  obtain ⟨wanted, names, found⟩ := Option.bind_eq_some_iff.mp located
  have same : name = wanted := by simpa using List.find?_some found
  exact ⟨same ▸ (after_append _ path wanted names).symm, List.mem_of_find?_eq_some found⟩

namespace Cycle

-- What a search looks at once only. Both kinds are in one set: no hash of a
-- content is a path that leads to a component.
inductive Visit where
  | reference (path : String)
  | content (s : Schema)
deriving DecidableEq

noncomputable def unmetSize (seen : List Visit) : List (String × Schema) → Nat
  | [] => 0
  | (name, s) :: rest =>
    (if .reference ("#/components/schemas/" ++ name) ∈ seen then 0 else sizeOf s) + unmetSize seen rest

theorem unmet_size_subset (seen later : List Visit) (kept : seen ⊆ later) (schemas : List (String × Schema)) :
    unmetSize later schemas ≤ unmetSize seen schemas := by
  induction schemas with
  | nil => exact Nat.le_refl _
  | cons entry rest ih =>
      rw [unmetSize, unmetSize]
      by_cases met : .reference ("#/components/schemas/" ++ entry.1) ∈ seen
      · rw [if_pos met, if_pos (kept met)]
        omega
      · rw [if_neg met]
        split <;> omega

theorem unmet_size_listed (seen : List Visit) (path name : String) (s : Schema) (schemas : List (String × Schema))
    (fresh : .reference path ∉ seen) (leads : path = "#/components/schemas/" ++ name) (listed : (name, s) ∈ schemas) :
    unmetSize (.reference path :: seen) schemas + sizeOf s ≤ unmetSize seen schemas := by
  induction schemas with
  | nil => cases listed
  | cons entry rest ih =>
      rw [unmetSize, unmetSize]
      rcases List.mem_cons.mp listed with rfl | later
      · have others := unmet_size_subset seen (.reference path :: seen) (List.subset_cons_self _ _) rest
        rw [if_pos (leads ▸ List.mem_cons_self), if_neg (leads ▸ fresh)]
        dsimp only
        omega
      · have others := ih later
        by_cases met : .reference ("#/components/schemas/" ++ entry.1) ∈ seen
        · rw [if_pos met, if_pos (List.mem_cons_of_mem _ met)]
          omega
        · rw [if_neg met]
          split <;> omega

structure Outcome (seen : List Visit) where
  found : Bool
  visited : List Visit
  kept : seen ⊆ visited

def Outcome.answer (seen : List Visit) (found : Bool) : Outcome seen := ⟨found, seen, List.Subset.refl seen⟩

def Outcome.since {seen later : List Visit} (outcome : Outcome later) (kept : seen ⊆ later) : Outcome seen :=
  ⟨outcome.found, outcome.visited, List.Subset.trans kept outcome.kept⟩

section

variable (components : Components) (active : Schema → Bool)

mutual

def reachesActive (seen : List Visit) (s : Schema) : Outcome seen :=
  match _stripped : s.effective with
  | .error _ => .answer seen false
  | .ok target => if active s || active target then .answer seen true else followsActive seen target
termination_by 2 * (unmetSize seen components.schemas + sizeOf s) + 1
decreasing_by
  have := Schema.effective_size_le _stripped
  omega

def followsActive (seen : List Visit) (target : Schema) : Outcome seen :=
  match target.ref with
  | some path =>
    if _fresh : .reference path ∈ seen then .answer seen false
    else
      match _located : components.schema? path with
      | none => (Outcome.answer (.reference path :: seen) false).since (List.subset_cons_self _ _)
      | some (_, component) =>
        match _stripped : component.effective with
        | .error _ => (Outcome.answer (.reference path :: seen) false).since (List.subset_cons_self _ _)
        | .ok next =>
          if active component || active next then
            (Outcome.answer (.reference path :: seen) true).since (List.subset_cons_self _ _)
          else (followsActive (.reference path :: seen) next).since (List.subset_cons_self _ _)
  | none =>
    match _shaped : target.classify with
    | .ok (.object (property :: others)) =>
      if .content target ∈ seen then .answer seen false
      else (holdsActive (.content target :: seen) (property :: others)).since (List.subset_cons_self _ _)
    | _ => .answer seen false
termination_by 2 * (unmetSize seen components.schemas + sizeOf target)
decreasing_by
  · obtain ⟨leads, listed⟩ := schema_located components _ _ _ _located
    have := unmet_size_listed seen _ _ _ components.schemas _fresh leads listed
    have := Schema.effective_size_le _stripped
    have := target.size_pos
    omega
  · have held : sizeOf (property :: others) < sizeOf target := Schema.holds_classify _shaped
    have := unmet_size_subset seen (.content target :: seen) (List.subset_cons_self _ _) components.schemas
    omega

def holdsActive (seen : List Visit) : List (String × Schema) → Outcome seen
  | [] => .answer seen false
  | (_, property) :: rest =>
    match reachesActive seen property with
    | ⟨true, visited, kept⟩ => ⟨true, visited, kept⟩
    | ⟨false, visited, kept⟩ => (holdsActive visited rest).since kept
termination_by properties => 2 * (unmetSize seen components.schemas + sizeOf properties)
decreasing_by
  · simp only [List.cons.sizeOf_spec, Prod.mk.sizeOf_spec]
    omega
  · have := unmet_size_subset seen visited kept components.schemas
    simp only [List.cons.sizeOf_spec]
    omega

end

end

end Cycle

def Components.closesCycle (components : Components) (guard : Guard Schema) (s : Schema) : Bool :=
  (Cycle.reachesActive components guard.isActive [] s).found

end ApiBindings
