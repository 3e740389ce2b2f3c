import ApiBindings.Files.Access
import ApiBindings.Proofs.Except
import ApiBindings.Proofs.Files.Tree
import ApiBindings.Proofs.Text.Utf8
set_option autoImplicit false

namespace ApiBindings.Files

theorem walk_append (tree : FileTree) (place names rest : List String) :
    walk tree place (names ++ rest) = (walk tree place names).bind fun middle => walk tree middle rest := by
  induction names generalizing place with
  | nil => rfl
  | cons name others ih =>
      simp only [List.cons_append, walk]
      split
      next => rfl
      next => rfl
      next =>
        split
        next => exact ih _
        next =>
          split
          next => exact ih _
          next => rfl

theorem walk_put (tree new : FileTree) (place names start final : List String)
    (replaced : ∀ old, tree.at? place = some old → old.isDirectory = false)
    (walked : walk tree start names = .ok final) : walk (tree.put place new) start names = .ok final := by
  induction names generalizing start with
  | nil => exact walked
  | cons name rest ih =>
      rw [walk] at walked
      split at walked
      next => cases walked
      next => cases walked
      next children found =>
        obtain ⟨after, stood, kept⟩ := FileTree.put_directory tree new place start children replaced found
        rw [walk, stood]
        dsimp only
        split at walked
        next back =>
          rw [if_pos back]
          exact ih _ walked
        next onward =>
          split at walked
          next present =>
            rw [if_neg onward, if_pos (kept name present)]
            exact ih _ walked
          next => cases walked

structure Written (files : Files) (path : String) (content : Text.Utf8.Bytes) (parent : List String) (name : String)
    (after : Files) : Prop where
  named : check path = .ok ()
  plain : Path.endsInSlash path = false ∧ Path.endsInDot path = false
  last : Path.names path = (Path.names path).dropLast ++ [name]
  onward : name ≠ ".."
  led : walk files.tree (files.start path) (Path.names path).dropLast = .ok parent
  inside : ∃ children, files.tree.at? parent = some (.directory children)
  replaced : ∀ old, files.tree.at? (parent ++ [name]) = some old → old.isDirectory = false
  put : after = { files with tree := files.tree.put (parent ++ [name]) (.file content) }

theorem slot_found (files : Files) (start names : List String) (slot : Slot)
    (found : files.slot start names = .ok slot) (present : names ≠ []) (onward : names.getLast? ≠ some "..") :
    ∃ parent name children, names = names.dropLast ++ [name] ∧ name ≠ ".." ∧
      walk files.tree start names.dropLast = .ok parent ∧ files.tree.at? parent = some (.directory children) ∧
      (slot = .taken (parent ++ [name]) ∨ slot = .free (parent ++ [name]) ∧ children.lookup name = none) := by
  unfold Files.slot at found
  split at found
  next nothing => exact absurd (List.getLast?_eq_none_iff.mp nothing) present
  next back => exact absurd back onward
  next name _ last =>
    obtain ⟨parent, led, found⟩ := except_bind_ok _ _ _ found
    split at found
    next => cases found
    next => cases found
    next children inside =>
      refine ⟨parent, name, children, ?_, fun back => onward (back ▸ last), led, inside, ?_⟩
      · obtain ⟨before, rfl⟩ := List.getLast?_eq_some_iff.mp last
        rw [List.dropLast_concat]
      · obtain rfl := Except.ok.inj found
        split
        next => exact Or.inl rfl
        next absent => exact Or.inr ⟨rfl, Option.not_isSome_iff_eq_none.mp absent⟩

theorem write_written (files after : Files) (path : String) (content : Text.Utf8.Bytes)
    (written : files.write path content = .ok after) : ∃ parent name, Written files path content parent name after := by
  unfold Files.write at written
  obtain ⟨_, named, written⟩ := except_bind_ok _ _ _ written
  dsimp only at written
  split at written
  next =>
    obtain ⟨_, _, written⟩ := except_bind_ok _ _ _ written
    split at written
    next => cases written
    next => cases written
  next ordinary =>
    simp only [Bool.or_eq_true, not_or, Bool.not_eq_true, List.isEmpty_eq_false_iff, decide_eq_true_eq] at ordinary
    obtain ⟨⟨noDot, present⟩, onward⟩ := ordinary
    obtain ⟨slot, found, written⟩ := except_bind_ok _ _ _ written
    obtain ⟨parent, name, children, last, forward, led, inside, kind⟩ :=
      slot_found files _ _ slot found present onward
    have direct : files.tree.at? (parent ++ [name]) = children.lookup name := by
      rw [FileTree.at_append, inside]
      exact FileTree.at_entry children name
    split at written
    next => cases written
    next noSlash =>
      have plain : Path.endsInSlash path = false := Bool.not_eq_true _ ▸ noSlash
      rcases kind with rfl | ⟨rfl, absent⟩
      · dsimp only at written
        split at written
        next => cases written
        next notDirectory =>
          obtain rfl := Except.ok.inj written
          refine ⟨parent, name, named, ⟨plain, noDot⟩, last, forward, led, ⟨children, inside⟩, ?_, rfl⟩
          intro old stood
          simpa [stood] using notDirectory
      · obtain rfl := Except.ok.inj written
        refine ⟨parent, name, named, ⟨plain, noDot⟩, last, forward, led, ⟨children, inside⟩, ?_, rfl⟩
        intro old stood
        rw [direct, absent] at stood
        cases stood

theorem written_walk (files after : Files) (path : String) (content : Text.Utf8.Bytes) (parent : List String)
    (name : String) (written : Written files path content parent name after) :
    walk after.tree (after.start path) (Path.names path) = .ok (parent ++ [name]) := by
  obtain ⟨_, _, last, onward, led, ⟨children, inside⟩, replaced, rfl⟩ := written
  have before := walk_put files.tree (.file content) (parent ++ [name]) _ _ parent replaced led
  obtain ⟨entries, stood, _⟩ :=
    FileTree.put_directory files.tree (.file content) (parent ++ [name]) parent children replaced inside
  have put := FileTree.put_at files.tree (.file content) (parent ++ [name])
  rw [FileTree.at_append, stood] at put
  have present : (entries.lookup name).isSome = true := by
    rw [← FileTree.at_entry entries name, show (FileTree.directory entries).at? [name] = _ from put]
    rfl
  change walk (files.tree.put (parent ++ [name]) (.file content)) (files.start path) (Path.names path) = _
  rw [last, walk_append, before]
  change walk _ parent [name] = _
  rw [walk, stood]
  dsimp only
  rw [if_neg onward, if_pos present, walk]

theorem write_read (files after : Files) (path text : String)
    (written : files.write path (Text.Utf8.encode text) = .ok after) : after.read path = .ok text := by
  obtain ⟨parent, name, written⟩ := write_written files after path _ written
  have walked := written_walk files after path _ parent name written
  obtain ⟨named, ⟨noSlash, noDot⟩, _, _, _, _, _, put⟩ := written
  have stood : after.tree.at? (parent ++ [name]) = some (.file (Text.Utf8.encode text)) := by
    rw [put]
    exact FileTree.put_at files.tree _ _
  have found : after.find path = .ok (.file (Text.Utf8.encode text)) := by
    unfold Files.find
    simp [bind, Except.bind, named, walked, stood, noSlash, noDot, pure, Except.pure]
  unfold Files.read
  rw [found]
  simp [bind, Except.bind, Text.Utf8.decode?, Text.Utf8.decode_encode, Except.toOption, pure, Except.pure]

theorem save_read (files after : Files) (path text : String) (saved : files.save path text = (after, .ok ())) :
    after.read path = .ok text := by
  unfold save at saved
  split at saved
  next => cases saved
  next middle _ =>
    split at saved
    next last written =>
      obtain ⟨rfl, _⟩ := Prod.mk.inj saved
      exact write_read middle last path text written
    next => cases saved

theorem save_changes (files after : Files) (path text : String) (stale : files.read path ≠ .ok text)
    (saved : files.save path text = (after, .ok ())) : after ≠ files := by
  rintro rfl
  exact stale (save_read after after path text saved)

end ApiBindings.Files
