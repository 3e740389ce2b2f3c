import ApiBindings.Data.Node
set_option autoImplicit false

namespace ApiBindings.Data.Json

open ApiBindings.Number (Double)

structure Numeral where
  negative : Bool
  whole : List Char
  fraction : Option (List Char)
  exponent : Option Int

def digitValue (c : Char) : Nat := c.toNat - '0'.toNat

def digitsValue (digits : List Char) : Nat := digits.foldl (fun n c => 10 * n + digitValue c) 0

def takeDigits (cs : List Char) : List Char × List Char := cs.span Char.isDigit

def readFraction? : List Char → Option (Option (List Char) × List Char)
  | '.' :: rest =>
    let (digits, rest) := takeDigits rest
    if digits.isEmpty then none else some (some digits, rest)
  | rest => some (none, rest)

def readExponent? : List Char → Option (Option Int)
  | [] => some none
  | e :: rest =>
    let (negative, rest) := match rest with
      | '+' :: rest => (false, rest)
      | '-' :: rest => (true, rest)
      | rest => (false, rest)
    let (digits, rest) := takeDigits rest
    if (e = 'e' ∨ e = 'E') ∧ !digits.isEmpty ∧ rest.isEmpty then
      let n : Int := ↑(digitsValue digits)
      some (some (if negative then -n else n))
    else none

def Numeral.read? (cs : List Char) : Option Numeral := do
  let (negative, cs) := match cs with
    | '-' :: rest => (true, rest)
    | cs => (false, cs)
  let (whole, cs) := takeDigits cs
  let (fraction, cs) ← readFraction? cs
  let exponent ← readExponent? cs
  match whole with
  | [] => none
  | '0' :: _ :: _ => none
  | _ => some { negative, whole, fraction, exponent }

def accumulate (start : Nat) : List Char → Nat × Nat
  | [] => (start, 0)
  | c :: rest =>
    if 10 * start + digitValue c < naturalLimit then accumulate (10 * start + digitValue c) rest
    else (start, rest.length + 1)

def multiply : Double → Double → Double
  | .finite s m, .finite t n => Double.ofUnits (s != t) (m * n) Double.one
  | _, _ => .nan

def divide : Double → Double → Double
  | .finite s m, .finite t n => Double.ofUnits (s != t) (m * Double.one) n
  | _, _ => .nan

def powerOfTen (n : Nat) : Double := Double.ofDecimal false 1 n

def scaleDown (x : Double) (places : Nat) : Double :=
  if places ≤ 308 then divide x (powerOfTen places)
  else if x.equals (.finite false 0) then x
  else scaleDown (divide x (powerOfTen 308)) (places - 308)
termination_by places

def scale? (significand : Nat) (exponent : Int) : Option Double :=
  let x := Double.ofNat significand
  if 0 ≤ exponent then
    if significand = 0 then some x
    else if exponent > 308 then none
    else
      let y := multiply x (powerOfTen exponent.toNat)
      if y.isFinite then some y else none
  else some (scaleDown x (-exponent).toNat)

def Numeral.double? (n : Numeral) : Option Double :=
  let (significand, skipped) := accumulate 0 n.whole
  let fraction := n.fraction.getD []
  let (significand, dropped) := accumulate significand fraction
  let exponent := n.exponent.getD 0 + skipped - (fraction.length - dropped : Nat)
  (scale? significand exponent).map fun x => if n.negative then x.negate else x

def Numeral.integer? (n : Numeral) : Option Int :=
  if n.fraction.isSome || n.exponent.isSome then none
  else
    let size := digitsValue n.whole
    if n.negative then
      if 0 < size ∧ size ≤ 0x8000000000000000 then some (-(size : Int)) else none
    else if size < naturalLimit then some size
    else none

-- A number beyond every double reads as nothing. It is refused where it is
-- read, and nowhere else.
def Numeral.scalar (n : Numeral) : Scalar :=
  match n.integer? with
  | some i => { Scalar.ofAtom (.integer i) with position? := none }
  | none =>
    match n.double? with
    | some x => Scalar.ofAtom (.double x)
    | none => {}

inductive Token where
  | openList
  | closeList
  | openRecord
  | closeRecord
  | comma
  | colon
  | text (s : Scalar)
  | scalar (s : Scalar)

-- A text being read: its characters, last one first, or none once an escape
-- went wrong, and the first half of a character that an escape left open.
structure OpenText where
  chars : Option (List Char) := some []
  half : Option Nat := none

namespace OpenText

def close (t : OpenText) : Scalar :=
  match t.half, t.chars with
  | none, some chars => Scalar.ofAtom (.text (String.ofList chars.reverse))
  | _, _ => {}

def push (t : OpenText) (c : Char) : OpenText :=
  match t.half with
  | none => { t with chars := t.chars.map (c :: ·) }
  | some _ => { chars := none }

def pushUnit (t : OpenText) (n : Nat) : OpenText :=
  match t.half with
  | some high =>
    if 0xdc00 ≤ n ∧ n < 0xe000 then
      { chars := t.chars.map (Char.ofNat (0x10000 + (high - 0xd800) * 0x400 + (n - 0xdc00)) :: ·) }
    else { chars := none }
  | none =>
    if 0xd800 ≤ n ∧ n < 0xdc00 then { t with half := some n }
    else if 0xdc00 ≤ n ∧ n < 0xe000 then { chars := none }
    else { chars := t.chars.map (Char.ofNat n :: ·) }

end OpenText

inductive Lexer where
  | between
  | word (letters : List Char)
  | numeral (chars : List Char)
  | text (t : OpenText)
  | escape (t : OpenText)
  | unit (t : OpenText) (left value : Nat)

def isGap (c : Char) : Bool := c = ' ' || c = '\n' || c = '\t' || c = '\r'

def isNumeralChar (c : Char) : Bool := c.isDigit || c = '-' || c = '+' || c = '.' || c = 'e' || c = 'E'

def word? (letters : List Char) : Option Scalar :=
  match String.ofList letters with
  | "null" => some (.ofAtom .null)
  | "true" => some (.ofAtom (.flag true))
  | "false" => some (.ofAtom (.flag false))
  | _ => none

def hexValue? (c : Char) : Option Nat :=
  if c.isDigit then some (c.toNat - '0'.toNat)
  else if 'a' ≤ c ∧ c ≤ 'f' then some (c.toNat - 'a'.toNat + 10)
  else if 'A' ≤ c ∧ c ≤ 'F' then some (c.toNat - 'A'.toNat + 10)
  else none

def escaped? : Char → Option Char
  | '"' => some '"'
  | '\\' => some '\\'
  | '/' => some '/'
  | 'b' => some '\x08'
  | 'f' => some '\x0c'
  | 'n' => some '\n'
  | 'r' => some '\r'
  | 't' => some '\t'
  | _ => none

def Lexer.begin? (c : Char) : Option (List Token × Lexer) :=
  if isGap c then some ([], .between)
  else if c = '"' then some ([], .text {})
  else if c.isLower then some ([], .word [c])
  else if isNumeralChar c then some ([], .numeral [c])
  else match c with
    | '[' => some ([.openList], .between)
    | ']' => some ([.closeList], .between)
    | '{' => some ([.openRecord], .between)
    | '}' => some ([.closeRecord], .between)
    | ',' => some ([.comma], .between)
    | ':' => some ([.colon], .between)
    | _ => none

def Lexer.step? (lexer : Lexer) (c : Char) : Option (List Token × Lexer) :=
  match lexer with
  | .between => begin? c
  | .word letters =>
    if c.isLower then some ([], .word (c :: letters))
    else do
      let scalar ← word? letters.reverse
      let (tokens, next) ← begin? c
      some (.scalar scalar :: tokens, next)
  | .numeral chars =>
    if isNumeralChar c then some ([], .numeral (c :: chars))
    else do
      let numeral ← Numeral.read? chars.reverse
      let (tokens, next) ← begin? c
      some (.scalar numeral.scalar :: tokens, next)
  | .text t =>
    if c = '"' then some ([.text t.close], .between)
    else if c = '\\' then some ([], .escape t)
    else if c.toNat < 0x20 then none
    else some ([], .text (t.push c))
  | .escape t =>
    if c = 'u' then some ([], .unit t 3 0)
    else (escaped? c).map fun e => ([], .text (t.push e))
  | .unit t left value => do
    let digit ← hexValue? c
    let value := 16 * value + digit
    match left with
    | 0 => some ([], .text (t.pushUnit value))
    | left + 1 => some ([], .unit t left value)

def Lexer.finish? : Lexer → Option (List Token)
  | .between => some []
  | .word letters => (word? letters.reverse).map fun s => [.scalar s]
  | .numeral chars => (Numeral.read? chars.reverse).map fun n => [.scalar n.scalar]
  | _ => none

def tokens? (lexer : Lexer) : List Char → Option (List Token)
  | [] => lexer.finish?
  | c :: rest =>
    match lexer.step? c with
    | none => none
    | some (tokens, next) => (tokens? next rest).map (tokens ++ ·)

inductive Frame where
  | list (items : List Node)
  | record (entries : List (Node × Node))
  | entry (entries : List (Node × Node)) (key : Node)

inductive Expecting where
  | value
  | firstItem
  | firstKey
  | key
  | colon
  | separator
  | nothing (node : Node)

structure Builder where
  frames : List Frame := []
  expecting : Expecting := .value

namespace Builder

def deliver? (frames : List Frame) (node : Node) : Option Builder :=
  match frames with
  | [] => some { expecting := .nothing node }
  | .list items :: outer => some { frames := .list (node :: items) :: outer, expecting := .separator }
  | .entry entries key :: outer =>
    some { frames := .record ((key, node) :: entries) :: outer, expecting := .separator }
  | .record _ :: _ => none

def close? : List Frame → Token → Option Builder
  | .list items :: outer, .closeList => deliver? outer (.list false items.reverse)
  | .record entries :: outer, .closeRecord => deliver? outer (.record false entries.reverse)
  | _, _ => none

def value? (frames : List Frame) : Token → Option Builder
  | .text s => deliver? frames (.scalar s)
  | .scalar s => deliver? frames (.scalar s)
  | .openList => some { frames := .list [] :: frames, expecting := .firstItem }
  | .openRecord => some { frames := .record [] :: frames, expecting := .firstKey }
  | _ => none

def key? (frames : List Frame) (token : Token) : Option Builder :=
  match frames, token with
  | .record entries :: outer, .text s =>
    some { frames := .entry entries (.scalar s) :: outer, expecting := .colon }
  | _, _ => none

def step? (b : Builder) (token : Token) : Option Builder :=
  match b.expecting, token with
  | .value, token => value? b.frames token
  | .firstItem, .closeList => close? b.frames .closeList
  | .firstItem, token => value? b.frames token
  | .firstKey, .closeRecord => close? b.frames .closeRecord
  | .firstKey, token => key? b.frames token
  | .key, token => key? b.frames token
  | .colon, .colon => some { b with expecting := .value }
  | .separator, .comma =>
    match b.frames with
    | .list _ :: _ => some { b with expecting := .value }
    | _ => some { b with expecting := .key }
  | .separator, token => close? b.frames token
  | _, _ => none

end Builder

def read? (text : String) : Option Node := do
  let tokens ← tokens? .between text.toList
  let built ← tokens.foldlM Builder.step? {}
  match built.expecting with
  | .nothing node => some node
  | _ => none

end ApiBindings.Data.Json
