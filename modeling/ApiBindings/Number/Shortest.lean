import ApiBindings.Number.Double
set_option autoImplicit false

namespace ApiBindings.Number

-- Numbers that round to one double, in quarters of a unit. The ends count
-- when `closed`.
structure Interval where
  low : Nat
  high : Nat
  closed : Bool

def Interval.of (units : Nat) : Interval :=
  let gap := Double.spacing units
  let significand := units / gap
  { low := 4 * units - (if significand = Nat.pow 2 52 then gap else 2 * gap)
    high := 4 * units + 2 * gap
    closed := significand % 2 == 0 }

def Interval.holds (i : Interval) (n scale : Nat) : Bool :=
  (i.low * scale < n && n < i.high * scale) ||
    (i.closed && (i.low * scale == n || n == i.high * scale))

-- The nearer of the two neighbours of a double on the grid of multiples of
-- `10 ^ place`, as a count of grid steps, when one of them reads back; a tie
-- goes up.
def gridPoint? (units : Nat) (place : Int) : Option Nat :=
  let i := Interval.of units
  let scale := Nat.pow 10 (-place).toNat
  let step := 4 * Double.one * Nat.pow 10 place.toNat
  let below := 4 * units * scale / step
  let down := i.holds (below * step) scale
  let up := i.holds ((below + 1) * step) scale
  if up && (!down || 2 * (4 * units * scale - below * step) ≥ step) then some (below + 1)
  else if down then some below
  else none

def shortest (units : Nat) : Nat × Int :=
  let coarsest : Int := 310
  ((List.range 1400).findSome? fun (i : Nat) =>
    let place := coarsest - i
    (gridPoint? units place).map fun digits => (digits, place)).getD (units * Nat.pow 5 1074, -1074)

def positional (digits : Nat) (place : Int) : String :=
  let text := (Nat.toDigits 10 digits)
  if 0 ≤ place then String.ofList (text ++ List.replicate place.toNat '0')
  else
    let places := (-place).toNat
    let padded := List.replicate (places + 1 - text.length) '0' ++ text
    let whole := padded.length - places
    String.ofList (padded.take whole ++ '.' :: padded.drop whole)

namespace Double

def display : Double → String
  | .nan => "NaN"
  | .infinite false => "inf"
  | .infinite true => "-inf"
  | .finite negative units =>
    let sign := if negative then "-" else ""
    if units = 0 then sign ++ "0"
    else
      let (digits, place) := shortest units
      sign ++ positional digits place

def nearlyWhole : Double → Bool
  | .finite _ units => units % one < Nat.pow 2 1022 && units < Nat.pow 10 15 * one
  | _ => false

def format (x : Double) : String :=
  if x.nearlyWhole then toString x.truncate else x.display

def formatFraction (x : Double) : String :=
  let text := x.format
  if text.contains '.' || text.contains 'e' || text.contains 'E' then text else text ++ ".0"

end Double

end ApiBindings.Number
