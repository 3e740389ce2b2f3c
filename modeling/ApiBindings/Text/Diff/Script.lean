set_option autoImplicit false

namespace ApiBindings.Text.Diff

inductive Run where
  | keep (lines : List String)
  | delete (lines : List String)
  | insert (lines : List String)
deriving DecidableEq, Repr

def common : List String → List String → List String × List String × List String
  | a :: as, b :: bs =>
    if a = b then
      let (shared, as, bs) := common as bs
      (a :: shared, as, bs)
    else ([], a :: as, b :: bs)
  | as, bs => ([], as, bs)

-- How far a path came on a diagonal: where its last run of kept lines began,
-- and where it ended. Both count lines of the first list.
structure Reach where
  start : Nat
  stop : Nat

-- A path moves right over a line that it deletes, down over one that it
-- inserts, and along a diagonal over lines that it keeps. Paths are searched
-- from both ends, and the one found is cut where they meet.
structure Grid where
  old : Array String
  new : Array String

namespace Grid

def slide (g : Grid) (diagonal : Int) (x : Nat) : Nat → Nat
  | 0 => x
  | fuel + 1 =>
    let y := ((x : Int) - diagonal).toNat
    match g.old[x]?, g.new[y]? with
    | some a, some b => if a = b then g.slide diagonal (x + 1) fuel else x
    | _, _ => x

def arrival : Option Reach → Option Reach → Nat
  | none, none => 0
  | some above, none => above.stop
  | none, some below => below.stop + 1
  | some above, some below => if below.stop < above.stop then above.stop else below.stop + 1

-- One more edit: the reaches on diagonals `edits`, `edits - 2` and so on,
-- given those with one edit less, in the same order.
def advance (g : Grid) (edits : Nat) (reaches : List Reach) : List Reach :=
  let above := none :: reaches.map some
  let below := reaches.map some ++ [none]
  (above.zip below).mapIdx fun i (above, below) =>
    let diagonal : Int := edits - 2 * i
    let start := arrival above below
    ⟨start, g.slide diagonal start (g.old.size + 1)⟩

def reachOn (edits : Nat) (reaches : List Reach) (diagonal : Int) : Option Reach :=
  let twice := edits - diagonal
  if 0 ≤ twice ∧ twice % 2 = 0 then reaches[(twice / 2).toNat]? else none

-- The first reach, from the outermost diagonal, that meets one from the other
-- end; `delta` is the difference of the sizes.
def meeting (edits : Nat) (reaches : List Reach) (otherEdits : Nat) (others : List Reach)
    (size : Nat) (delta : Int) : Option (Int × Reach) :=
  (reaches.mapIdx fun i reach => ((edits : Int) - 2 * i, reach)).find? fun (diagonal, reach) =>
    match reachOn otherEdits others (delta - diagonal) with
    | some other => size ≤ reach.stop + other.stop
    | none => false

def search (g reversed : Grid) (delta : Int) :
    Nat → Nat → List Reach → List Reach → Option (Nat × Nat)
  | 0, _, _, _ => none
  | fuel + 1, edits, forward, backward =>
    let odd := delta % 2 ≠ 0
    let size := g.old.size
    let next := g.advance edits forward
    match if odd then meeting edits next (edits - 1) backward size delta else none with
    | some (diagonal, reach) => some (reach.start, (reach.start - diagonal).toNat)
    | none =>
      let nextBack := reversed.advance edits backward
      match if odd then none else meeting edits nextBack edits next size delta with
      | some (diagonal, reach) => some (size - reach.stop, g.new.size - (reach.stop - diagonal).toNat)
      | none => g.search reversed delta fuel (edits + 1) next nextBack

def middle (old new : List String) : Option (Nat × Nat) :=
  let g : Grid := ⟨old.toArray, new.toArray⟩
  let reversed : Grid := ⟨old.reverse.toArray, new.reverse.toArray⟩
  g.search reversed (old.length - new.length) (old.length + new.length + 2) 0 [] []

end Grid

def keepRun (lines : List String) : List Run := if lines.isEmpty then [] else [.keep lines]

def runs : Nat → List String → List String → List Run
  | 0, old, new => [.delete old, .insert new]
  | fuel + 1, old, new =>
    let (before, old, new) := common old new
    let (after, oldRest, newRest) := common old.reverse new.reverse
    let old := oldRest.reverse
    let new := newRest.reverse
    let changed :=
      match old, new with
      | [], [] => []
      | old, [] => [.delete old]
      | [], new => [.insert new]
      | old, new =>
        match Grid.middle old new with
        | some (x, y) => runs fuel (old.take x) (new.take y) ++ runs fuel (old.drop x) (new.drop y)
        | none => [.delete old, .insert new]
    keepRun before ++ changed ++ keepRun after.reverse

def script (old new : List String) : List Run := runs (old.length + new.length + 1) old new

end ApiBindings.Text.Diff
