set_option autoImplicit false

namespace ApiBindings.Number

-- A finite double is a sign and a count of the smallest positive one, 2⁻¹⁰⁷⁴,
-- so equal values have one form, except that there are two zeros.
inductive Double where
  | nan
  | infinite (negative : Bool)
  | finite (negative : Bool) (units : Nat)
deriving DecidableEq, Repr, Inhabited

namespace Double

def one : Nat := Nat.pow 2 1074

def limit : Nat := Nat.pow 2 2098

def spacing (units : Nat) : Nat := Nat.pow 2 (Nat.log2 units - 52)

def roundDiv (num den : Nat) : Nat :=
  let quotient := num / den
  let remainder := num % den
  if 2 * remainder > den || (2 * remainder == den && quotient % 2 == 1) then quotient + 1 else quotient

def ofUnits (negative : Bool) (num den : Nat) : Double :=
  let gap := spacing (num / den)
  let units := roundDiv num (den * gap) * gap
  if units < limit then .finite negative units else .infinite negative

def ofRatio (negative : Bool) (num den : Nat) : Double := ofUnits negative (num * one) den

def ofNat (n : Nat) : Double := ofRatio false n 1

def ofInt (n : Int) : Double := ofRatio (n < 0) n.natAbs 1

def ofDecimal (negative : Bool) (digits : Nat) (exponent : Int) : Double :=
  if digits = 0 then .finite negative 0
  else if exponent > 400 then .infinite negative
  else if (Nat.log2 digits : Int) + 4 * exponent < -4800 then .finite negative 0
  else if 0 ≤ exponent then ofRatio negative (digits * Nat.pow 10 exponent.toNat) 1
  else ofRatio negative digits (Nat.pow 10 (-exponent).toNat)

def negate : Double → Double
  | .nan => .nan
  | .infinite negative => .infinite (!negative)
  | .finite negative units => .finite (!negative) units

def equals : Double → Double → Bool
  | .nan, _ => false
  | _, .nan => false
  | .infinite a, .infinite b => a == b
  | .finite a m, .finite b n => m == n && (a == b || m == 0)
  | _, _ => false

def isFinite : Double → Bool
  | .finite _ _ => true
  | _ => false

def truncate : Double → Int
  | .finite negative units =>
    let whole : Int := ↑(units / one)
    if negative then -whole else whole
  | _ => 0

end Double

end ApiBindings.Number
