import ApiBindings.Data.Toml.Item
import ApiBindings.Data.Toml.Text
import ApiBindings.Number.Double
set_option autoImplicit false

namespace ApiBindings.Data.Toml.Reader

open ApiBindings.Number (Double)

def grouped (isDigit : Char → Bool) : Nat → Reader (List Char)
  | 0 => failure
  | fuel + 1 => do
    let digits ← takeWhile isDigit
    if digits.isEmpty then failure
    if ← accept "_" then return digits ++ (← grouped isDigit fuel)
    return digits

def digits (isDigit : Char → Bool) : Reader (List Char) := do grouped isDigit ((← get).length + 1)

def valueIn (base : Nat) (digits : List Char) : Nat :=
  digits.foldl (fun n c => base * n + (hexDigit? c).getD 0) 0

def sign : Reader Bool := do
  if ← accept "-" then return true
  let _ ← accept "+"
  return false

def whole : Reader (Bool × List Char) := do
  let negative ← sign
  if ← accept "0" then return (negative, ['0'])
  return (negative, ← digits Char.isDigit)

def signedLimit : Nat := 0x8000000000000000

def based (mark : String) (base : Nat) : Reader Item := do
  expect mark
  let n := valueIn base (← digits fun c => (hexDigit? c).any (· < base))
  if n < signedLimit then return .plain else failure

def integer : Reader Item := do
  let (negative, digits) ← whole
  let n := valueIn 10 digits
  if n < signedLimit ∨ (negative ∧ n = signedLimit) then return .plain else failure

def exponent : Reader (Option Int) := do
  if (← accept "e") || (← accept "E") then
    let negative ← sign
    let n : Int := ↑(valueIn 10 (← digits Char.isDigit))
    return some (if negative then -n else n)
  else return none

def fractional : Reader Item := do
  let (negative, front) ← whole
  let fraction ← if ← accept "." then digits Char.isDigit else pure []
  let exponent ← exponent
  if fraction.isEmpty && exponent.isNone then failure
  let x := Double.ofDecimal negative (valueIn 10 (front ++ fraction)) (exponent.getD 0 - fraction.length)
  if x = .infinite false then failure else return .plain

def notFinite : Reader Item := do
  let _ ← sign
  if (← accept "inf") || (← accept "nan") then return .plain else failure

def numeral (width low high : Nat) : Reader Nat := do
  let digits := (← get).take width
  let n := valueIn 10 digits
  if digits.length < width || !digits.all Char.isDigit || n < low || high < n then failure
  skip width
  return n

def daysIn (year month : Nat) : Nat :=
  if month = 2 then if year % 4 = 0 ∧ (year % 100 ≠ 0 ∨ year % 400 = 0) then 29 else 28
  else if month = 4 ∨ month = 6 ∨ month = 9 ∨ month = 11 then 30
  else 31

def date : Reader Unit := do
  let year ← numeral 4 0 9999
  expect "-"
  let month ← numeral 2 1 12
  expect "-"
  let _ ← numeral 2 1 (daysIn year month)

def time : Reader Unit := do
  let _ ← numeral 2 0 23
  expect ":"
  let _ ← numeral 2 0 59
  expect ":"
  let _ ← numeral 2 0 60
  if ← accept "." then
    if (← takeWhile Char.isDigit).isEmpty then failure

def offset : Reader Unit := do
  if (← accept "Z") || (← accept "z") then return ()
  if !((← accept "+") || (← accept "-")) then failure
  let _ ← numeral 2 0 23
  expect ":"
  let _ ← numeral 2 0 59

def clock : Reader Unit := do
  if !((← accept "T") || (← accept "t") || (← accept " ")) then failure
  time
  offset <|> pure ()

-- Of these values nothing is kept but that they are well formed.
def moment : Reader Item := do
  (do date; clock <|> pure ()) <|> time
  return .plain

def plain : Reader Item :=
  moment <|> fractional <|> notFinite <|> based "0x" 16 <|> based "0o" 8 <|> based "0b" 2 <|> integer

def flag : Reader Item := do
  if (← accept "true") || (← accept "false") then return .plain else failure

def listItems (value : Reader Item) : Nat → Reader (List Item)
  | 0 => failure
  | fuel + 1 => do
    gap fuel
    if ← accept "]" then return []
    let item ← value
    gap fuel
    if ← accept "," then return item :: (← listItems value fuel)
    expect "]"
    return [item]

def assignment (value : Reader Item) : Reader (List String × String × Item) := do
  let (path, key) ← dottedKey
  expect "="
  blanks
  return (path, key, ← value)

def recordFields (value : Reader Item) (t : Table) : Nat → Reader Table
  | 0 => failure
  | fuel + 1 => do
    let (path, key, item) ← assignment value
    let t ← liftM (t.assign? path key item)
    blanks
    if ← accept "," then recordFields value t fuel
    else
      expect "\x7d"
      return t

def record (value : Reader Item) : Reader Item := do
  blanks
  if ← accept "\x7d" then return .record []
  return .record (← recordFields value (.header, []) ((← get).length + 1)).2

def value : Nat → Reader Item
  | 0 => failure
  | depth + 1 => do
    match ← quoted with
    | some text => return .text text
    | none =>
      if ← accept "[" then
        if depth = 0 then failure
        return .list (← listItems (value depth) ((← get).length + 1))
      if ← accept "\x7b" then
        if depth = 0 then failure
        record (value depth)
      else flag <|> plain

end ApiBindings.Data.Toml.Reader
