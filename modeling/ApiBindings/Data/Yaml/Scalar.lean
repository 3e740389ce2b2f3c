import ApiBindings.Data.Node
import ApiBindings.Data.Yaml.Token
set_option autoImplicit false

namespace ApiBindings.Data.Yaml

open ApiBindings.Number (Double)

def digitIn? (base : Nat) (c : Char) : Option Nat := (hexDigit? c).filter (· < base)

def naturalIn? (base : Nat) (digits : List Char) : Option Nat :=
  if digits.isEmpty then none
  else digits.foldlM (fun n c => (digitIn? base c).map (base * n + ·)) 0

def dropPlus : List Char → List Char
  | '+' :: rest => rest
  | text => text

def dropSign : List Char → List Char
  | '+' :: rest => rest
  | '-' :: rest => rest
  | text => text

def hasLeadingZero (text : List Char) : Bool :=
  match dropSign text with
  | '0' :: d :: rest => (d :: rest).all Char.isDigit
  | _ => false

def basedNatural? : List Char → Option Nat
  | '0' :: 'x' :: digits => naturalIn? 16 digits
  | '0' :: 'o' :: digits => naturalIn? 8 digits
  | '0' :: 'b' :: digits => naturalIn? 2 digits
  | _ => none

def natural? (text : List Char) : Option Nat :=
  let unsigned := dropPlus text
  (basedNatural? unsigned).or <| if hasLeadingZero text then none else naturalIn? 10 unsigned

def negative? : List Char → Option Int
  | '-' :: digits =>
    let size := (basedNatural? digits).or <| if hasLeadingZero digits then none else naturalIn? 10 digits
    size.map fun n => -(n : Int)
  | _ => none

def integer? (text : List Char) : Option Int := ((natural? text).map Int.ofNat).or (negative? text)

def isInteger (n : Int) : Bool := -0x80000000000000000000000000000000 ≤ n && n < 0x100000000000000000000000000000000

def fitsWord (n : Int) : Bool := -0x8000000000000000 ≤ n && n < naturalLimit

def decimal? (negative : Bool) (text : List Char) : Option Double := do
  let (whole, rest) := text.span Char.isDigit
  let (fraction, rest) := match rest with
    | '.' :: rest => rest.span Char.isDigit
    | rest => ([], rest)
  if whole.isEmpty && fraction.isEmpty then none
  let exponent : Int ← match rest with
    | [] => some 0
    | e :: rest =>
      if e = 'e' ∨ e = 'E' then
        match rest with
        | '-' :: digits => (naturalIn? 10 digits).map fun n => -(n : Int)
        | digits => (naturalIn? 10 (dropPlus digits)).map Int.ofNat
      else none
  let digits ← naturalIn? 10 (whole ++ fraction)
  return Double.ofDecimal negative digits (exponent - fraction.length)

def double? (text : List Char) : Option Double :=
  match String.ofList text with
  | ".inf" | ".Inf" | ".INF" | "+.inf" | "+.Inf" | "+.INF" => some (.infinite false)
  | "-.inf" | "-.Inf" | "-.INF" => some (.infinite true)
  | ".nan" | ".NaN" | ".NAN" => some .nan
  | _ =>
    let value := match text with
      | '-' :: rest => decimal? true rest
      | text => decimal? false (dropPlus text)
    value.filter Double.isFinite

def flag? : String → Option Bool
  | "true" | "True" | "TRUE" => some true
  | "false" | "False" | "FALSE" => some false
  | _ => none

def isNull (text : String) : Bool := text == "null" || text == "Null" || text == "NULL" || text == "~"

def plainAtom? (text : String) : Option Atom :=
  if text.isEmpty || isNull text then some .null
  else match flag? text, (integer? text.toList).filter isInteger with
    | some b, _ => some (.flag b)
    | none, some n => if fitsWord n then some (.integer n) else none
    | none, none =>
      match if hasLeadingZero text.toList then none else double? text.toList with
      | some x => some (.double x)
      | none => some (.text text)

def coreTag (name : String) : String := "tag:yaml.org,2002:" ++ name

def isLocal (tag : String) : Bool := tag.startsWith "!"

def atom? (style : Style) (tag : Option String) (text : String) : Option Atom :=
  match tag with
  | none => if style = .plain then plainAtom? text else some (.text text)
  | some tag =>
    if isLocal tag then none
    else if tag = coreTag "bool" then (flag? text).map .flag
    else if tag = coreTag "int" then ((integer? text.toList).filter fitsWord).map .integer
    else if tag = coreTag "float" then (double? text.toList).map .double
    else if tag = coreTag "null" then if isNull text then some .null else none
    else some (.text text)

def missing? (style : Style) (tag : Option String) (text : String) : Option Bool :=
  if style ≠ .plain then some false
  else match tag with
    | none => some (text.isEmpty || isNull text)
    | some tag => if tag = coreTag "null" then if isNull text then some true else none else some false

-- A scalar of a style, with its tag. Literal blocks read as more than text
-- under a core tag.
def scalarOf (style : Style) (tag : Option String) (text : String) : Scalar :=
  let mayBe (name : String) : Bool := style = .plain || (style = .literal && tag = some (coreTag name))
  { text? := some text
    flag? := if mayBe "bool" then flag? text else none
    natural? := if mayBe "int" then (natural? text.toList).filter (· < naturalLimit) else none
    double? := if mayBe "float" then double? text.toList else none
    missing? := missing? style tag text
    empty := style = .plain && text.isEmpty
    atom? := atom? style tag text }

end ApiBindings.Data.Yaml
