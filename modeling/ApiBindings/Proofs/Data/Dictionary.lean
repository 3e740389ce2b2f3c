import ApiBindings.Data.Dictionary
import Mathlib.Data.String.Basic
set_option autoImplicit false

namespace ApiBindings.Data

universe u

variable {α : Type u}

def Ordered (entries : List (String × α)) : Prop := entries.Pairwise (·.1 < ·.1)

theorem ordered_keys (entries : List (String × α)) (ordered : Ordered entries) : (entries.map Prod.fst).Nodup :=
  List.pairwise_map.mpr (ordered.imp ne_of_lt)

theorem ordered_front (first last : List (String × α)) (entry earlier : String × α)
    (ordered : Ordered (first ++ entry :: last)) (member : earlier ∈ first ++ entry :: last)
    (less : earlier.1 < entry.1) : earlier ∈ first := by
  rcases List.mem_append.mp member with front | rest
  · exact front
  · rcases List.mem_cons.mp rest with rfl | behind
    · exact absurd less (lt_irrefl _)
    · exact absurd less (lt_asymm (List.rel_of_pairwise_cons (List.pairwise_append.mp ordered).2.1 behind))

theorem lookup_mem {κ : Type} [BEq κ] [LawfulBEq κ] (key : κ) (value : α) (entries : List (κ × α))
    (found : entries.lookup key = some value) : (key, value) ∈ entries := by
  obtain ⟨before, after, rfl, _⟩ := List.lookup_eq_some_iff.mp found
  exact List.mem_append_right _ List.mem_cons_self

theorem lookup_insert_same (key : String) (value : α) (entries : List (String × α)) :
    (insert key value entries).lookup key = some value := by
  induction entries with
  | nil => simp only [insert, List.lookup_cons, beq_self_eq_true]
  | cons entry rest ih =>
      obtain ⟨k, v⟩ := entry
      by_cases same : key = k
      · simp only [insert, if_pos same, List.lookup_cons, beq_self_eq_true]
      · by_cases before : key < k
        · simp only [insert, if_neg same, if_pos before, List.lookup_cons, beq_self_eq_true]
        · have differs : (key == k) = false := beq_false_of_ne same
          simp only [insert, if_neg same, if_neg before, List.lookup_cons, differs, ih]

theorem lookup_insert_other (key other : String) (value : α) (entries : List (String × α))
    (different : other ≠ key) : (insert key value entries).lookup other = entries.lookup other := by
  have differs : (other == key) = false := beq_false_of_ne different
  induction entries with
  | nil => simp only [insert, List.lookup_cons, differs]
  | cons entry rest ih =>
      obtain ⟨k, v⟩ := entry
      by_cases same : key = k
      · subst k
        simp only [insert, if_pos, List.lookup_cons, differs]
      · by_cases before : key < k
        · simp only [insert, if_neg same, if_pos before, List.lookup_cons, differs]
        · simp only [insert, if_neg same, if_neg before, List.lookup_cons, ih]

theorem insert_cases (key : String) (value : α) (entries : List (String × α)) (entry : String × α)
    (member : entry ∈ insert key value entries) : entry = (key, value) ∨ entry ∈ entries := by
  induction entries with
  | nil => exact Or.inl (List.mem_singleton.mp member)
  | cons first rest ih =>
      by_cases same : key = first.1
      · rw [insert, if_pos same] at member
        rcases List.mem_cons.mp member with new | later
        · exact Or.inl new
        · exact Or.inr (List.mem_cons_of_mem _ later)
      by_cases before : key < first.1
      · rw [insert, if_neg same, if_pos before] at member
        exact List.mem_cons.mp member
      · rw [insert, if_neg same, if_neg before] at member
        rcases List.mem_cons.mp member with front | later
        · exact Or.inr (front ▸ List.mem_cons_self)
        · exact (ih later).imp_right (List.mem_cons_of_mem _)

theorem insert_ordered (key : String) (value : α) (entries : List (String × α)) (ordered : Ordered entries) :
    Ordered (insert key value entries) := by
  induction entries with
  | nil => exact List.pairwise_singleton _ _
  | cons first rest ih =>
      obtain ⟨least, others⟩ := List.pairwise_cons.mp ordered
      by_cases same : key = first.1
      · rw [insert, if_pos same]
        exact List.pairwise_cons.mpr ⟨fun entry member => same ▸ least entry member, others⟩
      by_cases before : key < first.1
      · rw [insert, if_neg same, if_pos before]
        refine List.pairwise_cons.mpr ⟨fun entry member => ?_, ordered⟩
        rcases List.mem_cons.mp member with rfl | later
        · exact before
        · exact before.trans (least entry later)
      · rw [insert, if_neg same, if_neg before]
        refine List.pairwise_cons.mpr ⟨fun entry member => ?_, ih others⟩
        rcases insert_cases key value rest entry member with rfl | old
        · exact lt_of_le_of_ne (not_lt.mp before) (Ne.symm same)
        · exact least entry old

theorem dictionary_ordered (pairs : List (String × α)) :
    Ordered (dictionary pairs) ∧ ∀ entry ∈ dictionary pairs, entry ∈ pairs := by
  suffices run : ∀ entries : List (String × α), Ordered entries →
      Ordered (pairs.foldl (fun entries pair => insert pair.1 pair.2 entries) entries) ∧
      ∀ entry ∈ pairs.foldl (fun entries pair => insert pair.1 pair.2 entries) entries,
        entry ∈ entries ∨ entry ∈ pairs by
    obtain ⟨ordered, known⟩ := run [] List.Pairwise.nil
    exact ⟨ordered, fun entry member => (known entry member).resolve_left List.not_mem_nil⟩
  induction pairs with
  | nil => exact fun entries ordered => ⟨ordered, fun entry member => Or.inl member⟩
  | cons pair rest ih =>
      intro entries ordered
      obtain ⟨after, known⟩ := ih (insert pair.1 pair.2 entries) (insert_ordered pair.1 pair.2 entries ordered)
      refine ⟨after, fun entry member => ?_⟩
      rcases known entry member with early | later
      · rcases insert_cases pair.1 pair.2 entries entry early with rfl | old
        · exact Or.inr List.mem_cons_self
        · exact Or.inl old
      · exact Or.inr (List.mem_cons_of_mem _ later)

end ApiBindings.Data
