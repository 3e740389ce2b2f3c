set_option autoImplicit false

namespace ApiBindings.Data.Toml

abbrev Reader (α : Type) := StateT (List Char) Option α

def isPrinted (c : Char) : Bool := c = '\t' || (' ' ≤ c && c.toNat ≠ 0x7f)

def isBlank (c : Char) : Bool := c = ' ' || c = '\t'

def isKeyChar (c : Char) : Bool := c.isAlphanum || c = '_' || c = '-'

namespace Reader

variable {α : Type}

def peek : Reader (Option Char) := return (← get).head?

def skip (n : Nat) : Reader Unit := modify (List.drop n)

def accept (text : String) : Reader Bool := do
  if text.toList.isPrefixOf (← get) then
    skip text.length
    return true
  else return false

def expect (text : String) : Reader Unit := do
  if !(← accept text) then failure

def takeWhile (p : Char → Bool) : Reader (List Char) := do
  let (taken, rest) := (← get).span p
  set rest
  return taken

def blanks : Reader Unit := do
  let _ ← takeWhile isBlank

def lineBreak : Reader Bool := do
  if ← accept "\n" then return true else accept "\r\n"

def comment : Reader Unit := do
  if ← accept "#" then
    let _ ← takeWhile isPrinted

def lineEnd : Reader Unit := do
  blanks
  comment
  if (← get).isEmpty then return ()
  if !(← lineBreak) then failure

def gap : Nat → Reader Unit
  | 0 => failure
  | fuel + 1 => do
    blanks
    comment
    if ← lineBreak then gap fuel

def hexDigit? (c : Char) : Option Nat :=
  if c.isDigit then some (c.toNat - '0'.toNat)
  else if 'a' ≤ c ∧ c ≤ 'f' then some (c.toNat - 'a'.toNat + 10)
  else if 'A' ≤ c ∧ c ≤ 'F' then some (c.toNat - 'A'.toNat + 10)
  else none

def codePoint (digits : Nat) : Reader Char := do
  let code := (← get).take digits
  if code.length < digits then failure
  let n ← liftM (code.foldlM (fun n c => (hexDigit? c).map (16 * n + ·)) 0)
  if n > 0x10ffff ∨ (0xd800 ≤ n ∧ n ≤ 0xdfff) then failure
  skip digits
  return Char.ofNat n

def escaped : Reader Char := do
  let c ← liftM (← peek)
  skip 1
  match c with
  | 'b' => return '\x08'
  | 'f' => return '\x0c'
  | 'n' => return '\n'
  | 'r' => return '\r'
  | 't' => return '\t'
  | 'u' => codePoint 4
  | 'U' => codePoint 8
  | '\\' => return '\\'
  | '"' => return '"'
  | _ => failure

def oneLine (quote : Char) (literal : Bool) : Nat → Reader (List Char)
  | 0 => failure
  | fuel + 1 => do
    let c ← liftM (← peek)
    skip 1
    if c = quote then return []
    if c = '\\' && !literal then
      let e ← escaped
      return e :: (← oneLine quote literal fuel)
    if !isPrinted c then failure
    return c :: (← oneLine quote literal fuel)

-- Quotes in front, at most five. Three of them end the text, and the ones
-- before belong to it.
def quotes (quote : Char) : Reader Nat := do
  let n := min 5 ((← get).takeWhile (· = quote)).length
  skip n
  return n

def emptyLines : Nat → Reader Unit
  | 0 => failure
  | fuel + 1 => do
    blanks
    if ← lineBreak then emptyLines fuel

def joined (fuel : Nat) : Reader Bool := do
  let before ← get
  blanks
  if ← lineBreak then
    emptyLines fuel
    return true
  else
    set before
    return false

def manyLines (quote : Char) (literal : Bool) : Nat → Reader (List Char)
  | 0 => failure
  | fuel + 1 => do
    if ← lineBreak then return '\n' :: (← manyLines quote literal fuel)
    let c ← liftM (← peek)
    if c = quote then
      let n ← quotes quote
      if 3 ≤ n then return List.replicate (n - 3) quote
      return List.replicate n quote ++ (← manyLines quote literal fuel)
    skip 1
    if c = '\\' && !literal then
      if ← joined fuel then manyLines quote literal fuel
      else
        let e ← escaped
        return e :: (← manyLines quote literal fuel)
    else
      if !isPrinted c then failure
      return c :: (← manyLines quote literal fuel)

def quotedLine : Reader (Option String) := do
  let fuel := (← get).length + 1
  if ← accept "\"" then return some (String.ofList (← oneLine '"' false fuel))
  if ← accept "'" then return some (String.ofList (← oneLine '\'' true fuel))
  return none

def quoted : Reader (Option String) := do
  let fuel := (← get).length + 1
  if ← accept "\"\"\"" then
    let _ ← lineBreak
    return some (String.ofList (← manyLines '"' false fuel))
  if ← accept "'''" then
    let _ ← lineBreak
    return some (String.ofList (← manyLines '\'' true fuel))
  quotedLine

def simpleKey : Reader String := do
  match ← quotedLine with
  | some key => return key
  | none =>
    let word ← takeWhile isKeyChar
    if word.isEmpty then failure
    return String.ofList word

def keyParts : Nat → Reader (List String)
  | 0 => failure
  | fuel + 1 => do
    blanks
    let key ← simpleKey
    blanks
    if ← accept "." then return key :: (← keyParts fuel)
    return [key]

def dottedKey : Reader (List String × String) := do
  let parts ← keyParts 80
  match parts.getLast? with
  | some key => if parts.length < 80 then return (parts.dropLast, key) else failure
  | none => failure

end Reader

end ApiBindings.Data.Toml
