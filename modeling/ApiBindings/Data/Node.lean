import ApiBindings.Number.Double
set_option autoImplicit false

namespace ApiBindings.Data

open ApiBindings.Number (Double)

inductive Atom where
  | null
  | flag (b : Bool)
  | integer (n : Int)
  | double (x : Double)
  | text (s : String)
deriving DecidableEq, Repr

-- One spelling may be a text, a number and a flag; the field that it stands in
-- decides. Where nothing decides, its atom does.
structure Scalar where
  text? : Option String := none
  double? : Option Double := none
  natural? : Option Nat := none
  flag? : Option Bool := none
  missing? : Option Bool := some false
  empty : Bool := false
  position? : Option Nat := none
  atom? : Option Atom := none

-- `labelled` marks a list or record that carries a label of its own, which
-- only a field that knows its kind may overlook. An alias stands for the node
-- that its anchor names.
inductive Node where
  | scalar (s : Scalar)
  | list (labelled : Bool) (items : List Node)
  | record (labelled : Bool) (entries : List (Node × Node))
  | alias (anchor : Nat)

def naturalLimit : Nat := 0x10000000000000000

def fitsSigned (n : Int) : Bool := -0x8000000000000000 ≤ n && n < 0x8000000000000000

def Scalar.ofAtom (a : Atom) : Scalar :=
  match a with
  | .null => { missing? := some true, atom? := some a }
  | .flag b => { flag? := some b, atom? := some a }
  | .text s => { text? := some s, atom? := some a }
  | .double x => { double? := some x, atom? := some a }
  | .integer n =>
    { double? := some (Double.ofInt n)
      natural? := if 0 ≤ n then some n.toNat else none
      position? := if 0 ≤ n then some n.toNat else none
      atom? := some a }

namespace Node

def text? : Node → Option String
  | .scalar s => s.text?
  | _ => none

def flag? : Node → Option Bool
  | .scalar s => s.flag?
  | _ => none

def double? : Node → Option Double
  | .scalar s => s.double?
  | _ => none

def atom? : Node → Option Atom
  | .scalar s => s.atom?
  | _ => none

def items : Node → List Node
  | .list _ items => items
  | _ => []

def entries : Node → List (Node × Node)
  | .record _ entries => entries
  | _ => []

def field? (node : Node) (key : String) : Option Node :=
  (node.entries.reverse.find? fun entry => entry.1.text? == some key).map (·.2)

end Node

end ApiBindings.Data
