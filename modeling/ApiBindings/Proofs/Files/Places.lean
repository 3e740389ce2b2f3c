import ApiBindings.Proofs.Files.Content
set_option autoImplicit false

namespace ApiBindings.Files

def placeOf (files : Files) (path : String) : Except AccessError (List String) :=
  walk files.tree (files.start path) (Path.names path)

def SameFile (files : Files) (a b : String) : Prop :=
  ∃ place, files.placeOf a = .ok place ∧ files.placeOf b = .ok place

-- A path that is spelled as one of a file may be.
def Plain (path : String) : Prop :=
  check path = .ok () ∧ Path.endsInSlash path = false ∧ Path.endsInDot path = false

theorem read_plain (files : Files) (path text : String) (held : files.read path = .ok text) : Plain path := by
  unfold Files.read at held
  obtain ⟨tree, found, held⟩ := except_bind_ok _ _ _ held
  cases tree with
  | directory => cases held
  | file content =>
      unfold Files.find at found
      obtain ⟨_, named, found⟩ := except_bind_ok _ _ _ found
      obtain ⟨place, _, found⟩ := except_bind_ok _ _ _ found
      split at found
      next => cases found
      next tree _ =>
        split at found
        next => cases found
        next plain =>
          obtain rfl := Except.ok.inj found
          rw [FileTree.isDirectory, Bool.not_false, Bool.true_and, Bool.or_eq_true, not_or, Bool.not_eq_true,
            Bool.not_eq_true] at plain
          exact ⟨named, plain⟩

theorem read_placed (files : Files) (path text : String) (place : List String) (plain : Plain path)
    (led : files.placeOf path = .ok place) :
    files.read path = .ok text ↔ ∃ content, files.tree.content? place = some content ∧ textOf content = .ok text := by
  rw [read_led files path place plain.1 plain.2 led, FileTree.content?]
  cases files.tree.at? place with
  | none => simp
  | some tree => cases tree <;> simp

theorem read_leads (files : Files) (path text : String) (held : files.read path = .ok text) :
    ∃ place, files.placeOf path = .ok place := by
  obtain ⟨named, plain⟩ := read_plain files path text held
  cases led : files.placeOf path with
  | ok place => exact ⟨place, rfl⟩
  | error cause => cases (read_lost files path cause named led).symm.trans held

structure Settled (before : Files) (path text : String) (place : List String) (after : Files) : Prop where
  led : after.placeOf path = .ok place
  held : after.read path = .ok text
  kept : ∀ other final, before.placeOf other = .ok final → after.placeOf other = .ok final
  elsewhere : ∀ final ≠ place, after.tree.content? final = before.tree.content? final

theorem held_settled (files : Files) (path text : String) (held : files.read path = .ok text) :
    ∃ place, files.Settled path text place files := by
  obtain ⟨place, led⟩ := read_leads files path text held
  exact ⟨place, led, held, fun _ _ same => same, fun _ _ => rfl⟩

theorem save_settled (before after : Files) (path text : String) (saved : before.save path text = (after, .ok ())) :
    ∃ place, before.Settled path text place after := by
  obtain ⟨middle, parent, name, deepened, written⟩ := save_written before after path text saved
  refine ⟨parent ++ [name], written_walk middle after path _ parent name written, save_read before after path text saved,
    fun other final led => ?_, fun final apart => ?_⟩
  · have known : walk before.tree (before.start other) (Path.names other) = .ok final := led
    have still := walk_deepened before middle deepened (before.start other) (Path.names other) (by rw [known]; simp)
    obtain ⟨_, _, _, _, _, _, replaced, rfl⟩ := written
    have start : Files.start { middle with tree := middle.tree.put (parent ++ [name]) (.file (Text.Utf8.encode text)) }
        other = before.start other := deepened_start before middle deepened other
    rw [placeOf, start]
    exact walk_put middle.tree _ _ _ _ final replaced (still.trans known)
  · rw [written_content before middle after path _ parent name deepened written, if_neg apart]

section

variable {before after : Files} {path text : String} {place : List String}

theorem Settled.apart (settled : before.Settled path text place after) (other current : String) (final : List String)
    (led : before.placeOf other = .ok final) (differs : final ≠ place) (held : before.read other = .ok current) :
    after.read other = .ok current := by
  have plain := read_plain before other current held
  rw [read_placed before other current final plain led] at held
  rwa [read_placed after other current final plain (settled.kept other final led), settled.elsewhere final differs]

theorem Settled.shared (settled : before.Settled path text place after) (other current : String)
    (led : before.placeOf other = .ok place) (held : before.read other = .ok current) : after.read other = .ok text := by
  have plain := read_plain before other current held
  rw [read_placed after other text place plain (settled.kept other place led)]
  exact (read_placed after path text place (read_plain after path text settled.held) settled.led).mp settled.held

end

inductive SettledAll : Files → List (String × String) → Files → Prop where
  | done (files : Files) : SettledAll files [] files
  | next {before middle after : Files} {path text : String} {place : List String} {rest : List (String × String)}
      (settled : before.Settled path text place middle) (later : SettledAll middle rest after) :
      SettledAll before ((path, text) :: rest) after

theorem SettledAll.append {before middle after : Files} {earlier later : List (String × String)}
    (first : SettledAll before earlier middle) (last : SettledAll middle later after) :
    SettledAll before (earlier ++ later) after := by
  induction first with
  | done => exact last
  | next settled _ ih => exact .next settled (ih last)

theorem SettledAll.split {before after : Files} {earlier later : List (String × String)}
    (all : SettledAll before (earlier ++ later) after) :
    ∃ middle, SettledAll before earlier middle ∧ SettledAll middle later after := by
  induction earlier generalizing before with
  | nil => exact ⟨before, .done before, all⟩
  | cons output rest ih =>
      cases all with
      | next settled all =>
          obtain ⟨middle, first, last⟩ := ih all
          exact ⟨middle, .next settled first, last⟩

section

variable {before after : Files} {outputs : List (String × String)}

theorem SettledAll.kept (all : SettledAll before outputs after) (path : String) (place : List String)
    (led : before.placeOf path = .ok place) : after.placeOf path = .ok place := by
  induction all with
  | done => exact led
  | next settled _ ih => exact ih (settled.kept path place led)

theorem SettledAll.reads (all : SettledAll before outputs after) (path current : String) (place : List String)
    (led : before.placeOf path = .ok place) (held : before.read path = .ok current) :
    ∃ text, after.read path = .ok text := by
  induction all generalizing current with
  | done => exact ⟨current, held⟩
  | @next before middle _ other text target _ settled _ ih =>
      have onward := settled.kept path place led
      by_cases same : place = target
      · subst same
        exact ih text onward (settled.shared path current led held)
      · exact ih current onward (settled.apart path current place led same held)

theorem SettledAll.apart (all : SettledAll before outputs after) (path current : String) (place : List String)
    (led : before.placeOf path = .ok place) (held : before.read path = .ok current)
    (final : ∀ output ∈ outputs, ¬ after.SameFile path output.1) : after.read path = .ok current := by
  induction all with
  | done => exact held
  | @next before middle after other text target rest settled later ih =>
      rw [List.forall_mem_cons] at final
      have onward := settled.kept path place led
      have differs : place ≠ target := by
        rintro rfl
        exact final.1 ⟨place, later.kept path place onward, later.kept other place settled.led⟩
      exact ih onward (settled.apart path current place led differs held) final.2

theorem SettledAll.held (all : SettledAll before outputs after) (output : String × String) (mem : output ∈ outputs) :
    ∃ place text, after.placeOf output.1 = .ok place ∧ after.read output.1 = .ok text := by
  induction all with
  | done => cases mem
  | @next before middle after path text place rest settled later ih =>
      rcases List.mem_cons.mp mem with rfl | mem
      · obtain ⟨current, held⟩ := later.reads path text place settled.led settled.held
        exact ⟨place, current, later.kept path place settled.led, held⟩
      · exact ih mem

theorem settled_all_last (before after : Files) (earlier later : List (String × String)) (last : String × String)
    (all : SettledAll before (earlier ++ last :: later) after)
    (final : ∀ other ∈ later, ¬ after.SameFile last.1 other.1) (output : String × String)
    (mem : output ∈ earlier ++ [last]) (same : after.SameFile output.1 last.1) : after.read output.1 = .ok last.2 := by
  obtain ⟨middle, first, rest⟩ := all.split
  cases rest with
  | @next _ settled _ path text place _ step rest =>
      have lastLed := rest.kept path place step.led
      have apart (other : String) (led : settled.placeOf other = .ok place) (held : settled.read other = .ok text) :
          after.read other = .ok text := by
        refine rest.apart other text place led held fun later mem shared => final later mem ?_
        obtain ⟨final, here, there⟩ := shared
        rw [rest.kept other place led] at here
        exact ⟨place, lastLed, Except.ok.inj here ▸ there⟩
      rcases List.mem_append.mp mem with mem | mem
      · obtain ⟨final, current, led, held⟩ := first.held output mem
        have onward := rest.kept output.1 final (step.kept output.1 final led)
        obtain ⟨target, here, there⟩ := same
        obtain rfl : final = place := Except.ok.inj (onward.symm.trans (here.trans (there.symm.trans lastLed)))
        exact apart output.1 (step.kept output.1 final led) (step.shared output.1 current led held)
      · obtain rfl := List.mem_singleton.mp mem
        exact apart path step.led step.held

end

end ApiBindings.Files
