import ApiBindings.Proofs.Files.Access
set_option autoImplicit false

namespace ApiBindings

open Text.Utf8 (Bytes)

namespace FileTree

def content? (tree : FileTree) (place : List String) : Option Bytes :=
  match tree.at? place with
  | some (.file content) => some content
  | _ => none

theorem content_some (tree : FileTree) (place : List String) (content : Bytes) :
    tree.content? place = some content ↔ tree.at? place = some (.file content) := by
  unfold content?
  split
  next stood => rw [stood, Option.some.injEq, Option.some.injEq, FileTree.file.injEq]
  next other =>
    refine ⟨fun same => ?_, fun same => absurd same (other content)⟩
    cases same

theorem content_same {a b : FileTree} {place other : List String} (same : a.at? place = b.at? other) :
    a.content? place = b.content? other := by
  unfold content?
  rw [same]

theorem directory_above (tree : FileTree) (place : List String) (children : List (String × FileTree))
    (stood : tree.at? place = some (.directory children)) : ∃ entries, tree = .directory entries := by
  cases tree with
  | directory entries => exact ⟨entries, rfl⟩
  | file content => cases place <;> cases stood

theorem content_below (tree : FileTree) (place rest : List String) (deeper : rest ≠ [])
    (replaced : ∀ old, tree.at? place = some old → old.isDirectory = false) : tree.content? (place ++ rest) = none := by
  obtain ⟨name, others, rfl⟩ := List.exists_cons_of_ne_nil deeper
  unfold content?
  rw [at_append]
  cases stood : tree.at? place with
  | none => rfl
  | some old =>
      cases old with
      | file => rfl
      | directory => cases replaced _ stood

-- A file is put inside a directory, so that none above it is lost on the way.
theorem content_put_elsewhere (tree new : FileTree) (place other : List String) (apart : ¬ place <+: other)
    (inside : ∃ children, tree.at? place.dropLast = some (.directory children)) :
    (tree.put place new).content? other = tree.content? other := by
  induction place generalizing tree other with
  | nil => exact absurd List.nil_prefix apart
  | cons name rest ih =>
      obtain ⟨children, inside⟩ := inside
      cases other with
      | nil =>
          obtain ⟨entries, rfl⟩ := directory_above tree _ children inside
          rfl
      | cons first others =>
          by_cases same : first = name
          · subst first
            have below : ¬ rest <+: others := fun leads => apart ((List.prefix_cons_inj name).mpr leads)
            have onward : rest ≠ [] := fun done => below (done ▸ List.nil_prefix)
            rw [List.dropLast_cons_of_ne_nil onward, at?] at inside
            cases child : tree.entries.lookup name with
            | none =>
                rw [child] at inside
                cases inside
            | some inner =>
                rw [child] at inside
                rw [content_same (put_here tree new name rest others), child]
                refine (ih inner others below ⟨children, inside⟩).trans (content_same ?_)
                rw [at?, child]
          · exact content_same (put_elsewhere _ _ _ _ _ _ same)

theorem content_put (tree new : FileTree) (place other : List String)
    (inside : ∃ children, tree.at? place.dropLast = some (.directory children))
    (replaced : ∀ old, tree.at? place = some old → old.isDirectory = false)
    (flat : ∀ name rest, new.content? (name :: rest) = none) :
    (tree.put place new).content? other = if other = place then new.content? [] else tree.content? other := by
  by_cases leads : place <+: other
  · obtain ⟨rest, rfl⟩ := leads
    have stood : (tree.put place new).at? (place ++ rest) = new.at? rest := by
      rw [at_append, put_at]
      rfl
    rw [content_same stood]
    cases rest with
    | nil => rw [if_pos (List.append_nil place)]
    | cons name others =>
        rw [if_neg (by simp), flat, content_below tree place _ (List.cons_ne_nil name others) replaced]
  · rw [content_put_elsewhere tree new place other leads inside, if_neg]
    rintro rfl
    exact leads (List.prefix_refl _)

end FileTree

namespace Files

def SameContents (a b : Files) : Prop := ∀ place, a.tree.content? place = b.tree.content? place

structure Deepened (before after : Files) : Prop where
  here : after.here = before.here
  content : before.SameContents after
  directories : ∀ place children, before.tree.at? place = some (.directory children) →
    ∃ more, after.tree.at? place = some (.directory more) ∧
      ∀ name, (children.lookup name).isSome = true → (more.lookup name).isSome = true

theorem Deepened.refl (files : Files) : files.Deepened files :=
  ⟨rfl, fun _ => rfl, fun _ children stood => ⟨children, stood, fun _ present => present⟩⟩

theorem Deepened.trans {a b c : Files} (first : a.Deepened b) (last : b.Deepened c) : a.Deepened c := by
  refine ⟨last.here.trans first.here, fun place => (first.content place).trans (last.content place), ?_⟩
  intro place children stood
  obtain ⟨more, between, kept⟩ := first.directories place children stood
  obtain ⟨most, final, still⟩ := last.directories place more between
  exact ⟨most, final, fun name present => still name (kept name present)⟩

theorem slot_free (files : Files) (start names place : List String) (found : files.slot start names = .ok (.free place)) :
    ∃ parent name children, place = parent ++ [name] ∧ files.tree.at? parent = some (.directory children) ∧
      children.lookup name = none := by
  have present : names ≠ [] := by
    rintro rfl
    cases found
  have onward : names.getLast? ≠ some ".." := by
    intro back
    unfold Files.slot at found
    rw [back] at found
    obtain ⟨_, _, taken⟩ := except_bind_ok _ _ _ found
    cases taken
  obtain ⟨parent, name, children, _, _, _, inside, kind⟩ := slot_found files start names _ found present onward
  rcases kind with taken | ⟨free, absent⟩
  · cases taken
  · exact ⟨parent, name, children, Slot.free.inj free, inside, absent⟩

theorem make_directory_deepens (files after : Files) (start names : List String)
    (made : files.makeDirectory start names = .ok after) : files.Deepened after := by
  unfold makeDirectory at made
  split at made
  next => cases made
  next =>
  obtain ⟨slot, found, made⟩ := except_bind_ok _ _ _ made
  cases slot with
  | taken => cases made
  | free place =>
      obtain ⟨parent, name, children, rfl, inside, absent⟩ := slot_free files start names place found
      obtain rfl := Except.ok.inj made
      have free : files.tree.at? (parent ++ [name]) = none := by
        rw [FileTree.at_append, inside]
        exact (FileTree.at_entry children name).trans absent
      have replaced (old : FileTree) (stood : files.tree.at? (parent ++ [name]) = some old) : old.isDirectory = false := by
        cases free.symm.trans stood
      refine ⟨rfl, fun other => ?_, fun other entries stood =>
        FileTree.put_directory files.tree .empty _ other entries replaced stood⟩
      rw [FileTree.content_put files.tree .empty _ other ⟨children, by rwa [List.dropLast_concat]⟩ replaced
        (fun _ _ => rfl)]
      split
      next same =>
        rw [same, FileTree.content?, free]
        rfl
      next => rfl

theorem ensure_directory_deepens (files : Files) (start names : List String) :
    files.Deepened (files.ensureDirectory start names).1 := by
  unfold ensureDirectory
  split
  next after made => exact make_directory_deepens files after start names made
  next => exact Deepened.refl files

theorem ensure_directories_deepens (files : Files) (start names : List String) :
    files.Deepened (files.ensureDirectories start names).1 := by
  induction names with
  | nil => exact Deepened.refl files
  | cons name outer ih =>
      unfold ensureDirectories
      dsimp only
      split
      next after made => exact make_directory_deepens files after start _ made
      next =>
        cases around : files.ensureDirectories start outer with
        | mk middle result =>
            rw [around] at ih
            cases result with
            | ok => exact ih.trans (ensure_directory_deepens middle start _)
            | error => exact ih
      next => exact ensure_directory_deepens files start _

theorem walk_deepened (before after : Files) (deepened : before.Deepened after) (start names : List String)
    (known : walk before.tree start names ≠ .error .notFound) :
    walk after.tree start names = walk before.tree start names := by
  induction names generalizing start with
  | nil => rfl
  | cons name rest ih =>
      rw [walk] at known
      rw [walk, walk]
      cases stood : before.tree.at? start with
      | none =>
          rw [stood] at known
          exact absurd rfl known
      | some tree =>
          rw [stood] at known
          cases tree with
          | file content =>
              have still := (deepened.content start).symm.trans ((FileTree.content_some _ _ content).mpr stood)
              rw [(FileTree.content_some _ _ content).mp still]
          | directory children =>
              obtain ⟨more, still, kept⟩ := deepened.directories start children stood
              rw [still]
              dsimp only at known ⊢
              by_cases back : name = ".."
              · rw [if_pos back] at known ⊢
                rw [if_pos back]
                exact ih _ known
              · rw [if_neg back] at known ⊢
                rw [if_neg back]
                by_cases present : (children.lookup name).isSome = true
                · rw [if_pos present] at known
                  rw [if_pos present, if_pos (kept name present)]
                  exact ih _ known
                · rw [if_neg present] at known
                  exact absurd rfl known

theorem walk_straight (tree : FileTree) (start names place : List String) (forward : ".." ∉ names)
    (walked : walk tree start names = .ok place) : place = start ++ names := by
  induction names generalizing start with
  | nil => rw [List.append_nil, Except.ok.inj walked]
  | cons name rest ih =>
      rw [walk] at walked
      rw [List.mem_cons, not_or] at forward
      obtain ⟨onward, later⟩ := forward
      split at walked
      next => cases walked
      next => cases walked
      next =>
        rw [if_neg (Ne.symm onward)] at walked
        split at walked
        next => rw [ih _ later walked, List.append_assoc, List.singleton_append]
        next => cases walked

theorem walk_present (tree found : FileTree) (start names : List String) (forward : ".." ∉ names)
    (stood : tree.at? (start ++ names) = some found) : walk tree start names = .ok (start ++ names) := by
  induction names generalizing start with
  | nil => rw [List.append_nil]; rfl
  | cons name rest ih =>
      rw [List.mem_cons, not_or] at forward
      obtain ⟨onward, later⟩ := forward
      have next := ih (start ++ [name]) later (by rwa [List.append_assoc, List.singleton_append])
      rw [FileTree.at_append] at stood
      rw [walk]
      cases above : tree.at? start with
      | none =>
          rw [above] at stood
          cases stood
      | some inner =>
          rw [above] at stood
          cases inner with
          | file => cases stood
          | directory children =>
              have present : (children.lookup name).isSome = true := by
                rw [Option.bind_some, FileTree.at?, FileTree.directory_entries] at stood
                cases held : children.lookup name with
                | none =>
                    rw [held] at stood
                    cases stood
                | some => rfl
              dsimp only
              rw [if_neg (Ne.symm onward), if_pos present, next, List.append_assoc, List.singleton_append]

def textOf (content : Bytes) : Except AccessError String :=
  match Text.Utf8.decode? content with
  | some text => .ok text
  | none => .error .notText

theorem text_of_encode (text : String) : textOf (Text.Utf8.encode text) = .ok text := by
  unfold textOf
  rw [Text.Utf8.decode?, Text.Utf8.decode_encode]
  rfl

theorem read_lost (files : Files) (path : String) (cause : AccessError) (named : check path = .ok ())
    (lost : walk files.tree (files.start path) (Path.names path) = .error cause) : files.read path = .error cause := by
  unfold Files.read Files.find
  simp [bind, Except.bind, named, lost]

theorem read_led (files : Files) (path : String) (place : List String) (named : check path = .ok ())
    (plain : Path.endsInSlash path = false ∧ Path.endsInDot path = false)
    (walked : walk files.tree (files.start path) (Path.names path) = .ok place) :
    files.read path = match files.tree.at? place with
      | none => .error .notFound
      | some (.directory _) => .error .isDirectory
      | some (.file content) => textOf content := by
  unfold Files.read Files.find
  cases stood : files.tree.at? place with
  | none =>
      simp [bind, Except.bind, named, walked, stood]
      rfl
  | some tree =>
      simp only [bind, Except.bind, named, walked, stood, plain, Bool.or_self, Bool.and_false, Bool.false_eq_true,
        if_false, pure, Except.pure]
      cases tree <;> rfl

inductive Led (files : Files) (path : String) (place : List String) : Prop where
  | file {content : Bytes} (stood : files.tree.content? place = some content) (read : files.read path = textOf content)
  | nowhere (read : files.read path = .error .notFound)
      (straight : ".." ∉ Path.names path → files.tree.content? place = none)

theorem written_final (files after : Files) (path : String) (content : Bytes) (parent : List String) (name : String)
    (written : Written files path content parent name after) :
    walk files.tree (files.start path) (Path.names path) = .ok (parent ++ [name]) ∨
      walk files.tree (files.start path) (Path.names path) = .error .notFound := by
  obtain ⟨children, inside⟩ := written.inside
  rw [written.last, walk_append, written.led]
  change walk files.tree parent [name] = _ ∨ walk files.tree parent [name] = _
  rw [walk, inside]
  dsimp only
  rw [if_neg written.onward]
  split
  next => exact Or.inl rfl
  next => exact Or.inr rfl

theorem deepened_start (files middle : Files) (deepened : files.Deepened middle) (path : String) :
    middle.start path = files.start path := by
  rw [Files.start, Files.start, deepened.here]

theorem written_reached (files middle after : Files) (path : String) (content : Bytes) (parent : List String)
    (name : String) (deepened : files.Deepened middle) (written : Written middle path content parent name after)
    (forward : ".." ∉ Path.names path) (bytes : Bytes)
    (stood : files.tree.content? (parent ++ [name]) = some bytes) :
    walk files.tree (files.start path) (Path.names path) = .ok (parent ++ [name]) := by
  have led := written.led
  rw [deepened_start files middle deepened path] at led
  have around := walk_straight middle.tree _ _ parent (fun back => forward (List.dropLast_subset _ back)) led
  have place : parent ++ [name] = files.start path ++ Path.names path := by
    rw [around, List.append_assoc, ← written.last]
  rw [place] at stood ⊢
  exact walk_present files.tree _ _ _ forward ((FileTree.content_some _ _ bytes).mp stood)

theorem written_led (files middle after : Files) (path : String) (content : Bytes) (parent : List String) (name : String)
    (deepened : files.Deepened middle) (written : Written middle path content parent name after) :
    files.Led path (parent ++ [name]) := by
  have reached := written_reached files middle after path content parent name deepened written
  by_cases nowhere : walk files.tree (files.start path) (Path.names path) = .error .notFound
  · refine .nowhere (read_lost files path _ written.named nowhere) fun forward => ?_
    refine Option.eq_none_iff_forall_ne_some.mpr fun bytes stood => ?_
    cases nowhere.symm.trans (reached forward bytes stood)
  have same := walk_deepened files middle deepened (files.start path) (Path.names path) nowhere
  have final := written_final middle after path content parent name written
  rw [deepened_start files middle deepened path, same] at final
  rcases final with walked | lost
  · have read := read_led files path _ written.named written.plain walked
    cases stood : files.tree.at? (parent ++ [name]) with
    | none =>
        rw [stood] at read
        refine .nowhere read fun _ => ?_
        rw [FileTree.content?, stood]
    | some tree =>
        rw [stood] at read
        cases tree with
        | directory entries =>
            obtain ⟨more, still, _⟩ := deepened.directories _ entries stood
            cases written.replaced _ still
        | file bytes => exact .file ((FileTree.content_some _ _ bytes).mpr stood) read
  · exact absurd lost nowhere

theorem save_written (files after : Files) (path text : String) (saved : files.save path text = (after, .ok ())) :
    ∃ middle parent name, files.Deepened middle ∧
      Written middle path (Text.Utf8.encode text) parent name after := by
  have deepened := ensure_directories_deepens files (files.start path) (Path.names path).dropLast.reverse
  unfold save at saved
  split at saved
  next => cases saved
  next middle made =>
    rw [made] at deepened
    split at saved
    next last written =>
      obtain ⟨rfl, _⟩ := Prod.mk.inj saved
      obtain ⟨parent, name, written⟩ := write_written middle last path _ written
      exact ⟨middle, parent, name, deepened, written⟩
    next => cases saved

theorem written_content (files middle after : Files) (path : String) (content : Bytes) (parent : List String)
    (name : String) (deepened : files.Deepened middle) (written : Written middle path content parent name after)
    (other : List String) : after.tree.content? other =
      if other = parent ++ [name] then some content else files.tree.content? other := by
  obtain ⟨_, _, _, _, _, inside, replaced, rfl⟩ := written
  rw [FileTree.content_put middle.tree _ _ other (by rwa [List.dropLast_concat]) replaced (fun _ _ => rfl),
    deepened.content other]
  rfl

theorem save_content (files after : Files) (path text : String) (saved : files.save path text = (after, .ok ())) :
    ∃ place, files.Led path place ∧ ∀ other, after.tree.content? other =
      if other = place then some (Text.Utf8.encode text) else files.tree.content? other := by
  obtain ⟨middle, parent, name, deepened, written⟩ := save_written files after path text saved
  exact ⟨parent ++ [name], written_led files middle after path _ parent name deepened written,
    written_content files middle after path _ parent name deepened written⟩

end Files

end ApiBindings
