import ApiBindings.Data.Dictionary
import ApiBindings.Data.Node
set_option autoImplicit false

namespace ApiBindings.Data

open ApiBindings.Number (Double)

structure Source where
  root : Node
  anchors : List (Nat × Node) := []
  nesting : Nat
  jumps : Nat := 0

abbrev Decoder (α : Type) := ReaderT (List (Nat × Node)) (StateT Nat Option) α

namespace Decoder

variable {α : Type}

def run (source : Source) (decode : Nat → Node → Decoder α) : Option α :=
  (StateT.run (ReaderT.run (decode source.nesting source.root) source.anchors) source.jumps).map (·.1)

def follow (anchor : Nat) : Decoder Node := fun anchors left =>
  match left, anchors.lookup anchor with
  | left + 1, some node => some (node, left)
  | _, _ => none

def target : Node → Decoder Node
  | .alias anchor => follow anchor
  | node => pure node

def scalar (f : Scalar → Option α) (node : Node) : Decoder α := do
  match ← target node with
  | .scalar s => liftM (f s)
  | _ => failure

def text : Node → Decoder String := scalar Scalar.text?
def double : Node → Decoder Double := scalar Scalar.double?
def natural : Node → Decoder Nat := scalar Scalar.natural?
def flag : Node → Decoder Bool := scalar Scalar.flag?
def atom : Node → Decoder Atom := scalar Scalar.atom?

def optional (decode : Node → Decoder α) (node : Node) : Decoder (Option α) := do
  let node ← target node
  match node with
  | .scalar { missing? := none, .. } => failure
  | .scalar { missing? := some true, .. } => pure none
  | node => some <$> decode node

def list (depth : Nat) (decode : Node → Decoder α) (node : Node) : Decoder (List α) := do
  match ← target node with
  | .list _ items => if depth = 0 then failure else items.mapM decode
  | .scalar s => if s.empty then pure [] else failure
  | _ => failure

def dictionary (depth : Nat) (decode : Node → Decoder α) (node : Node) : Decoder (List (String × α)) := do
  match ← target node with
  | .record _ entries =>
    if depth = 0 then failure
    else Data.dictionary <$> entries.mapM fun (key, value) => return (← text key, ← decode value)
  | .scalar s => if s.empty then pure [] else failure
  | _ => failure

structure Fields where
  values : List (String × Node) := []
  positional : Bool := false

def fieldName (known : List String) : Node → Decoder (Option String) := scalar fun s =>
  match s.text?, s.position? with
  | some name, _ => some (some name)
  | none, some i => some known[i]?
  | none, none => none

def collect (known : List String) (entries : List (Node × Node)) : Decoder (List (String × Node)) :=
  entries.foldlM (fun found (key, value) => do
    match ← fieldName known key with
    | none => pure found
    | some name =>
      if !known.contains name then pure found
      else if (found.lookup name).isSome then failure
      else pure ((name, value) :: found)) []

def fields (depth : Nat) (known : List String) (node : Node) : Decoder Fields := do
  match ← target node with
  | .record _ entries =>
    if depth = 0 then failure else return { values := ← collect known entries }
  | .list _ items =>
    if depth = 0 ∨ known.length < items.length then failure
    else return { values := known.zip items, positional := true }
  | .scalar s => if s.empty then pure {} else failure
  | _ => failure

namespace Fields

def optional (f : Fields) (key : String) (decode : Node → Decoder α) : Decoder (Option α) :=
  match f.values.lookup key with
  | some node => Decoder.optional decode node
  | none => if f.positional then failure else pure none

def defaulted (f : Fields) (key : String) (otherwise : α) (decode : Node → Decoder α) : Decoder α :=
  match f.values.lookup key with
  | some node => decode node
  | none => pure otherwise

def required (f : Fields) (key : String) (decode : Node → Decoder α) : Decoder α :=
  match f.values.lookup key with
  | some node => decode node
  | none => failure

end Fields

def settleScalar (s : Scalar) : Decoder Node := return .scalar (.ofAtom (← liftM s.atom?))

-- The node with every alias followed and every scalar reduced to its atom, as
-- it is where the kind of a value is decided by looking at it.
def settle : Nat → Node → Decoder Node
  | 0, node => do
    match ← target node with
    | .scalar s => settleScalar s
    | _ => failure
  | depth + 1, node => do
    match ← target node with
    | .scalar s => settleScalar s
    | .list false items => return .list false (← items.mapM (settle depth))
    | .record false entries =>
      return .record false (← entries.mapM fun (key, value) =>
        return (← settle depth key, ← settle depth value))
    | _ => failure

end Decoder

end ApiBindings.Data
