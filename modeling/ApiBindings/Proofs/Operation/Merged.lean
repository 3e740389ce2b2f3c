import ApiBindings.Operation.Basic
import ApiBindings.Proofs.Except
import Mathlib.Data.List.Forall2
import Mathlib.Data.List.Nodup
set_option autoImplicit false

namespace ApiBindings

namespace Parameter

def key (p : Parameter) : String × String := (p.name, p.location)

theorem key_iff (p q : Parameter) : p.key = q.key ↔ p.name = q.name ∧ p.location = q.location := Prod.mk.injEq _ _ _ _ ▸ Iff.rfl

end Parameter

-- One parameter for each key that is listed, in the order in which the keys are first listed. Each is the last one listed
-- with its key.
structure Merges (listed merged : List Parameter) : Prop where
  keys : ∀ key, key ∈ merged.map Parameter.key ↔ key ∈ listed.map Parameter.key
  distinct : (merged.map Parameter.key).Nodup
  ordered : (merged.map Parameter.key).Pairwise fun a b =>
    (listed.map Parameter.key).idxOf a < (listed.map Parameter.key).idxOf b
  last : ∀ p ∈ merged, ∃ before after, listed = before ++ p :: after ∧ ∀ q ∈ after, q.key ≠ p.key

theorem merge_parameter_cases (merged : List Parameter) (p : Parameter) :
    (∃ front old back, merged = front ++ old :: back ∧ old.key = p.key ∧ mergeParameter merged p = front ++ p :: back) ∨
      p.key ∉ merged.map Parameter.key ∧ mergeParameter merged p = merged ++ [p] := by
  induction merged with
  | nil => exact Or.inr ⟨List.not_mem_nil, rfl⟩
  | cons first rest ih =>
      by_cases same : first.key = p.key
      · refine Or.inl ⟨[], first, rest, rfl, same, ?_⟩
        rw [mergeParameter, if_pos ((first.key_iff p).mp same)]
        rfl
      · have different : ¬ (first.name = p.name ∧ first.location = p.location) := fun both =>
          same ((first.key_iff p).mpr both)
        rw [mergeParameter, if_neg different]
        rcases ih with ⟨front, old, back, rfl, met, merged⟩ | ⟨absent, merged⟩
        · exact Or.inl ⟨first :: front, old, back, rfl, met, by rw [merged]; rfl⟩
        · refine Or.inr ⟨fun member => ?_, by rw [merged]; rfl⟩
          rcases List.mem_cons.mp member with own | later
          · exact same own.symm
          · exact absent later

section

variable {listed merged : List Parameter} (merges : Merges listed merged) (p : Parameter)
include merges

theorem merges_index (key : String × String) (member : key ∈ merged.map Parameter.key) :
    ((listed ++ [p]).map Parameter.key).idxOf key = (listed.map Parameter.key).idxOf key := by
  rw [List.map_append]
  exact List.idxOf_append_of_mem ((merges.keys key).mp member)

theorem merges_ordered : (merged.map Parameter.key).Pairwise fun a b =>
    ((listed ++ [p]).map Parameter.key).idxOf a < ((listed ++ [p]).map Parameter.key).idxOf b := by
  refine merges.ordered.imp_of_mem fun {a b} first last less => ?_
  rwa [merges_index merges p a first, merges_index merges p b last]

theorem merges_last (q : Parameter) (member : q ∈ merged) (different : p.key ≠ q.key) :
    ∃ before after, listed ++ [p] = before ++ q :: after ∧ ∀ r ∈ after, r.key ≠ q.key := by
  obtain ⟨before, after, rfl, others⟩ := merges.last q member
  refine ⟨before, after ++ [p], by simp, fun r inside => ?_⟩
  rcases List.mem_append.mp inside with old | new
  · exact others r old
  · rwa [List.mem_singleton.mp new]

end

theorem listed_last (listed : List Parameter) (p : Parameter) :
    ∃ before after, listed ++ [p] = before ++ p :: after ∧ ∀ r ∈ after, r.key ≠ p.key :=
  ⟨listed, [], rfl, List.forall_mem_nil _⟩

theorem merges_replaced (listed front back : List Parameter) (old p : Parameter) (met : old.key = p.key)
    (merges : Merges listed (front ++ old :: back)) : Merges (listed ++ [p]) (front ++ p :: back) := by
  have known : (front ++ p :: back).map Parameter.key = (front ++ old :: back).map Parameter.key := by
    simp only [List.map_append, List.map_cons, met]
  have there : p.key ∈ listed.map Parameter.key := by
    rw [← met]
    exact (merges.keys old.key).mp (List.mem_map_of_mem (List.mem_append_right _ List.mem_cons_self))
  have alone := (List.nodup_cons.mp (List.nodup_middle.mp (List.map_append ▸ merges.distinct))).1
  have kept (q : Parameter) (inside : q ∈ front ++ back) (there : q ∈ front ++ old :: back) :
      ∃ before after, listed ++ [p] = before ++ q :: after ∧ ∀ r ∈ after, r.key ≠ q.key := by
    refine merges_last merges p q there fun same => alone ?_
    rw [← List.map_append, met, same]
    exact List.mem_map_of_mem inside
  refine ⟨fun key => ?_, known ▸ merges.distinct, known ▸ merges_ordered merges p, fun q member => ?_⟩
  · rw [known, merges.keys key, List.map_append, List.mem_append]
    refine ⟨Or.inl, fun listed => listed.elim id fun new => ?_⟩
    rwa [List.mem_singleton.mp new]
  · rcases List.mem_append.mp member with before | behind
    · exact kept q (List.mem_append_left _ before) (List.mem_append_left _ before)
    · rcases List.mem_cons.mp behind with rfl | after
      · exact listed_last listed q
      · exact kept q (List.mem_append_right _ after) (List.mem_append_right _ (List.mem_cons_of_mem _ after))

theorem merges_appended (listed merged : List Parameter) (p : Parameter) (absent : p.key ∉ merged.map Parameter.key)
    (merges : Merges listed merged) : Merges (listed ++ [p]) (merged ++ [p]) := by
  have longer : (merged ++ [p]).map Parameter.key = merged.map Parameter.key ++ [p.key] := by
    rw [List.map_append, List.map_singleton]
  have unlisted : p.key ∉ listed.map Parameter.key := fun member => absent ((merges.keys p.key).mpr member)
  refine ⟨fun key => ?_, ?_, ?_, fun q member => ?_⟩
  · simp only [List.map_append, List.mem_append, merges.keys key]
  · rw [longer, List.nodup_append]
    refine ⟨merges.distinct, List.nodup_singleton p.key, fun key old other new => ?_⟩
    rw [List.mem_singleton.mp new]
    rintro rfl
    exact absent old
  · rw [longer, List.pairwise_append]
    refine ⟨merges_ordered merges p, List.pairwise_singleton _ _, fun key old other new => ?_⟩
    rw [List.mem_singleton.mp new, merges_index merges p key old, List.map_append,
      List.idxOf_append_of_notMem unlisted]
    exact Nat.lt_add_right _ (List.idxOf_lt_length_iff.mpr ((merges.keys key).mp old))
  · rcases List.mem_append.mp member with old | new
    · refine merges_last merges p q old fun same => absent ?_
      rw [same]
      exact List.mem_map_of_mem old
    · rw [List.mem_singleton.mp new]
      exact listed_last listed p

theorem merges_next (listed merged : List Parameter) (p : Parameter) (merges : Merges listed merged) :
    Merges (listed ++ [p]) (mergeParameter merged p) := by
  rcases merge_parameter_cases merged p with ⟨front, old, back, rfl, met, replaced⟩ | ⟨absent, appended⟩
  · rw [replaced]
    exact merges_replaced listed front back old p met merges
  · rw [appended]
    exact merges_appended listed merged p absent merges

theorem merges_all (listed merged : List Parameter) (rest : List Parameter) (merges : Merges listed merged) :
    Merges (listed ++ rest) (rest.foldl mergeParameter merged) := by
  induction rest generalizing listed merged with
  | nil => rwa [List.append_nil]
  | cons p rest ih =>
      have next := ih (listed ++ [p]) (mergeParameter merged p) (merges_next listed merged p merges)
      rwa [List.append_assoc, List.singleton_append] at next

theorem resolved_parameters (components : Components) (entries : List ParameterEntry) (resolved : List Parameter)
    (done : entries.mapM components.parameter = .ok resolved) :
    List.Forall₂ (fun entry p => components.parameter entry = .ok p) entries resolved := by
  induction entries generalizing resolved with
  | nil =>
      obtain rfl := Except.ok.inj done
      exact .nil
  | cons entry rest ih =>
      rw [List.mapM_cons] at done
      obtain ⟨p, found, done⟩ := except_bind_ok _ _ _ done
      obtain ⟨others, ran, done⟩ := except_bind_ok _ _ _ done
      obtain rfl := Except.ok.inj done
      exact .cons found (ih others ran)

theorem parameters_merged_once (components : Components) (item : PathItem) (operation : Operation)
    (merged : List Parameter) (done : mergedParameters components item operation = .ok merged) :
    ∃ resolved, List.Forall₂ (fun entry p => components.parameter entry = .ok p)
        (item.parameters ++ operation.parameters) resolved ∧
      Merges (resolved.filter isPathOrQuery) merged := by
  obtain ⟨resolved, ran, done⟩ := except_bind_ok _ _ _ done
  obtain rfl := Except.ok.inj done
  refine ⟨resolved, resolved_parameters components _ resolved ran, ?_⟩
  refine merges_all [] [] (resolved.filter isPathOrQuery) ⟨fun key => Iff.rfl, List.nodup_nil, .nil, fun p none => ?_⟩
  exact absurd none List.not_mem_nil

def pageLimit (description : String) : Parameter :=
  { name := "limit", location := "query", description := some description }

def pagedComponents : Components := { parameters := [("limit", pageLimit "shared")] }

def pagedItem : PathItem :=
  { parameters := [
      .reference "#/components/parameters/limit", .inline { name := "id", location := "path" },
      .inline { name := "trace", location := "header" }] }

def pagedOperation : Operation :=
  { parameters := [
      .inline (pageLimit "own"), .inline { name := "id", location := "query" },
      .inline { name := "id", location := "path", required := true }, .inline (pageLimit "last")] }

theorem paged_parameters_merged :
    ∃ merged, mergedParameters pagedComponents pagedItem pagedOperation = .ok merged ∧
      merged = [pageLimit "last", { name := "id", location := "path", required := true },
        { name := "id", location := "query" }] ∧
      ∃ resolved, List.Forall₂ (fun entry p => pagedComponents.parameter entry = .ok p)
          (pagedItem.parameters ++ pagedOperation.parameters) resolved ∧
        Merges (resolved.filter isPathOrQuery) merged := by
  have done : mergedParameters pagedComponents pagedItem pagedOperation =
      .ok [pageLimit "last", { name := "id", location := "path", required := true },
        { name := "id", location := "query" }] := by rfl
  exact ⟨_, done, rfl, parameters_merged_once pagedComponents pagedItem pagedOperation _ done⟩

end ApiBindings
