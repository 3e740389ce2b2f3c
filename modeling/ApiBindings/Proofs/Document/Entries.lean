import ApiBindings.Document.Basic
import ApiBindings.Proofs.Data.Dictionary
set_option autoImplicit false

namespace ApiBindings

open Data (Ordered)

structure Endpoint where
  path : String
  method : Method
deriving DecidableEq

def Method.rank : Method → Nat
  | .get => 0
  | .put => 1
  | .post => 2
  | .patch => 3
  | .delete => 4

def Endpoint.Before (a b : Endpoint) : Prop := a.path < b.path ∨ a.path = b.path ∧ a.method.rank < b.method.rank

def PathItem.operation? (item : PathItem) : Method → Option Operation
  | .get => item.get
  | .put => item.put
  | .post => item.post
  | .patch => item.patch
  | .delete => item.delete

def Document.Entry.endpoint (entry : Document.Entry) : Endpoint := ⟨entry.path, entry.method⟩

theorem before_irreflexive (a : Endpoint) : ¬ a.Before a := by
  rintro (less | ⟨_, less⟩)
  · exact lt_irrefl a.path less
  · exact lt_irrefl a.method.rank less

theorem endpoints_distinct (endpoints : List Endpoint) (ordered : endpoints.Pairwise Endpoint.Before) :
    endpoints.Nodup := by
  refine ordered.imp fun {a b} before => ?_
  rintro rfl
  exact before_irreflexive a before

theorem item_operation_iff (item : PathItem) (method : Method) (operation : Operation) :
    (method, operation) ∈ item.operations ↔ item.operation? method = some operation := by
  cases method <;> simp [PathItem.operations, PathItem.operation?]

theorem item_operations_ordered (item : PathItem) :
    item.operations.Pairwise fun a b => a.1.rank < b.1.rank := by
  unfold PathItem.operations
  refine List.Pairwise.filterMap _ (R := fun a b => a.1.rank < b.1.rank) ?_ (by simp [Method.rank])
  rintro ⟨first, _⟩ ⟨last, _⟩ less a one b other
  obtain ⟨_, _, rfl⟩ := Option.map_eq_some_iff.mp one
  obtain ⟨_, _, rfl⟩ := Option.map_eq_some_iff.mp other
  exact less

theorem entry_iff (doc : Document) (entry : Document.Entry) :
    entry ∈ doc.entries ↔
      (entry.path, entry.item) ∈ doc.paths ∧ entry.item.operation? entry.method = some entry.operation := by
  unfold Document.entries
  constructor
  · intro member
    obtain ⟨⟨path, item⟩, listed, own⟩ := List.mem_flatMap.mp member
    obtain ⟨⟨method, operation⟩, given, rfl⟩ := List.mem_map.mp own
    exact ⟨listed, (item_operation_iff item method operation).mp given⟩
  · rintro ⟨listed, given⟩
    have own := (item_operation_iff entry.item entry.method entry.operation).mpr given
    exact List.mem_flatMap.mpr ⟨_, listed, List.mem_map.mpr ⟨_, own, rfl⟩⟩

theorem entries_ordered (doc : Document) (ordered : Ordered doc.paths) :
    (doc.entries.map Document.Entry.endpoint).Pairwise Endpoint.Before := by
  rw [List.pairwise_map, Document.entries, List.pairwise_flatMap]
  refine ⟨fun ⟨path, item⟩ _ => ?_, ordered.imp fun {a b} less entry member other beside => ?_⟩
  · rw [List.pairwise_map]
    exact (item_operations_ordered item).imp fun less => Or.inr ⟨rfl, less⟩
  · obtain ⟨_, _, rfl⟩ := List.mem_map.mp member
    obtain ⟨_, _, rfl⟩ := List.mem_map.mp beside
    exact Or.inl less

end ApiBindings
