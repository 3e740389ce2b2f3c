import ApiBindings.Files.Tree
import ApiBindings.Proofs.Data.Dictionary
set_option autoImplicit false

namespace ApiBindings

namespace FileTree

theorem at_append (tree : FileTree) (place rest : List String) :
    tree.at? (place ++ rest) = (tree.at? place).bind (·.at? rest) := by
  induction place generalizing tree with
  | nil => rfl
  | cons name others ih =>
      simp only [List.cons_append, at?]
      cases tree.entries.lookup name with
      | none => rfl
      | some child => exact ih child

theorem directory_entries (children : List (String × FileTree)) : (directory children).entries = children := rfl

theorem at_entry (children : List (String × FileTree)) (name : String) :
    (directory children).at? [name] = children.lookup name := by
  rw [at?, directory_entries]
  cases children.lookup name <;> rfl

theorem put_here (tree new : FileTree) (name : String) (rest others : List String) :
    (tree.put (name :: rest) new).at? (name :: others) =
      (((tree.entries.lookup name).getD empty).put rest new).at? others := by
  rw [put, at?, directory_entries, Data.lookup_insert_same]

theorem put_elsewhere (tree new : FileTree) (name other : String) (rest others : List String) (different : other ≠ name) :
    (tree.put (name :: rest) new).at? (other :: others) = tree.at? (other :: others) := by
  rw [put, at?, directory_entries, Data.lookup_insert_other _ _ _ _ different, at?]

theorem put_at (tree new : FileTree) (place : List String) : (tree.put place new).at? place = some new := by
  induction place generalizing tree with
  | nil => rfl
  | cons name rest ih =>
      rw [put_here]
      exact ih _

-- Directories keep their names when something is put where no directory is; the
-- one that gets a new name may be anywhere above that place.
theorem put_directory (tree new : FileTree) (place other : List String) (children : List (String × FileTree))
    (replaced : ∀ old, tree.at? place = some old → old.isDirectory = false)
    (found : tree.at? other = some (.directory children)) :
    ∃ after, (tree.put place new).at? other = some (.directory after) ∧
      ∀ name, (children.lookup name).isSome = true → (after.lookup name).isSome = true := by
  induction place generalizing tree other with
  | nil =>
      have file := replaced tree rfl
      cases tree with
      | directory => cases file
      | file content =>
          cases other with
          | nil => cases found
          | cons => cases found
  | cons name rest ih =>
      cases other with
      | nil =>
          obtain rfl := Option.some.inj found
          refine ⟨_, rfl, fun key present => ?_⟩
          by_cases same : key = name
          · rw [same, Data.lookup_insert_same]
            rfl
          · rwa [Data.lookup_insert_other _ _ _ _ same]
      | cons first others =>
          by_cases same : first = name
          · subst first
            rw [put_here]
            rw [at?] at found
            rw [at?] at replaced
            cases child : tree.entries.lookup name with
            | none =>
                rw [child] at found
                cases found
            | some inner =>
                rw [child] at found replaced
                exact ih inner others replaced found
          · rw [put_elsewhere _ _ _ _ _ _ same]
            exact ⟨children, found, fun _ present => present⟩

end FileTree

end ApiBindings
