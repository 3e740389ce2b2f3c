import ApiBindings.Text.Diff.Script
set_option autoImplicit false

namespace ApiBindings.Text.Diff

structure Cursor where
  before : List Run
  run : Run
  after : List Run

def addKept (lines : List String) : List Run → List Run
  | .keep kept :: rest => .keep (lines ++ kept) :: rest
  | rest => if lines.isEmpty then rest else .keep lines :: rest

def addKeptBefore (lines : List String) : List Run → List Run
  | .keep kept :: rest => .keep (kept ++ lines) :: rest
  | rest => if lines.isEmpty then rest else .keep lines :: rest

-- Passes lines up over inserted ones for as long as the last of both is the
-- same. Kept lines are given last first; what is left of them, the inserted
-- lines then, and the lines that were passed.
def rotateUp (inserted passed : List String) : List String → List String × List String × List String
  | [] => ([], inserted, passed)
  | line :: kept =>
    if inserted.getLast? = some line then rotateUp (line :: inserted.dropLast) (line :: passed) kept
    else (line :: kept, inserted, passed)

def rotateDown (inserted passed : List String) : List String → List String × List String × List String
  | [] => ([], inserted, passed)
  | line :: kept =>
    if inserted.head? = some line then rotateDown (inserted.drop 1 ++ [line]) (line :: passed) kept
    else (line :: kept, inserted, passed)

def moveUp (run : Run) (after : List Run) : List Run → Cursor
  | [] => ⟨[], run, after⟩
  | previous :: before =>
    match run, previous with
    | .insert inserted, .keep kept =>
      match rotateUp inserted [] kept.reverse with
      | ([], inserted, passed) => moveUp (.insert inserted) (addKept passed after) before
      | (kept, inserted, passed) =>
        ⟨.keep kept.reverse :: before, .insert inserted, addKept passed after⟩
    | .insert a, .insert b => moveUp (.insert (b ++ a)) after before
    | .delete a, .delete b => moveUp (.delete (b ++ a)) after before
    | .insert _, .delete _ => moveUp run (previous :: after) before
    | .delete _, .insert _ => moveUp run (previous :: after) before
    | _, _ => ⟨previous :: before, run, after⟩

def moveDown (run : Run) (before : List Run) : List Run → Cursor
  | [] => ⟨before, run, []⟩
  | next :: after =>
    match run, next with
    | .insert inserted, .keep kept =>
      match rotateDown inserted [] kept with
      | ([], inserted, passed) => moveDown (.insert inserted) (addKeptBefore passed.reverse before) after
      | (kept, inserted, passed) =>
        ⟨addKeptBefore passed.reverse before, .insert inserted, .keep kept :: after⟩
    | .insert a, .insert b => moveDown (.insert (a ++ b)) before after
    | .delete a, .delete b => moveDown (.delete (a ++ b)) before after
    | .insert _, .delete _ => moveDown run (next :: before) after
    | .delete _, .insert _ => moveDown run (next :: before) after
    | _, _ => ⟨before, run, next :: after⟩

def settle (moves : Run → Bool) : Nat → List Run → List Run → List Run
  | 0, before, after => before.reverse ++ after
  | _ + 1, before, [] => before.reverse
  | fuel + 1, before, run :: after =>
    if moves run then
      let up := moveUp run after before
      let down := moveDown up.run up.before up.after
      settle moves fuel (down.run :: down.before) down.after
    else settle moves fuel (run :: before) after

def Run.isDeletion : Run → Bool
  | .delete _ => true
  | _ => false

def Run.isInsertion : Run → Bool
  | .insert _ => true
  | _ => false

def compact (script : List Run) : List Run :=
  let deletions := settle Run.isDeletion (script.length + 1) [] script
  settle Run.isInsertion (deletions.length + 1) [] deletions

end ApiBindings.Text.Diff
