import ApiBindings.Data.Yaml.Text
set_option autoImplicit false

namespace ApiBindings.Data.Yaml

inductive Style where
  | plain
  | quoted
  | literal
  | folded
deriving DecidableEq

inductive Token where
  | version (major minor : Nat)
  | tagDirective (handle expansion : String)
  | documentStart
  | documentEnd
  | blockListStart
  | blockRecordStart
  | blockEnd
  | flowListStart
  | flowListEnd
  | flowRecordStart
  | flowRecordEnd
  | blockEntry
  | flowEntry
  | key
  | value
  | alias (name : String)
  | anchor (name : String)
  | tag (handle suffix : String)
  | scalar (style : Style) (text : String)
deriving DecidableEq

-- A place where a key may have begun, and the number of tokens before it. A
-- required one stands where nothing but a key can stand.
structure KeyPlace where
  required : Bool
  tokens : Nat
  glyph : Glyph

-- What was scanned: tokens, last first, and where keys may have begun at each
-- level of flow brackets, innermost first, followed by the level outside all
-- brackets.
structure Scanner where
  tokens : List Token := []
  count : Nat := 0
  keys : List (Option KeyPlace) := [none]
  keyAllowed : Bool := true
  indent : Int := -1
  indents : List Int := []

namespace Scanner

def inFlow (s : Scanner) : Bool := s.keys.length > 1

def emit (s : Scanner) (t : Token) : Scanner := { s with tokens := t :: s.tokens, count := s.count + 1 }

def insertAt (s : Scanner) (position : Nat) (t : Token) : Scanner :=
  let later := s.count - position
  { s with tokens := s.tokens.take later ++ t :: s.tokens.drop later, count := s.count + 1 }

def closing (column indent : Int) : List Int → Nat × Int × List Int
  | [] => (0, indent, [])
  | outer :: rest =>
    if indent > column then
      let (n, indent, indents) := closing column outer rest
      (n + 1, indent, indents)
    else (0, indent, outer :: rest)

def unroll (s : Scanner) (column : Int) : Scanner :=
  if s.inFlow then s
  else
    let (n, indent, indents) := closing column s.indent s.indents
    { s with
      tokens := List.replicate n .blockEnd ++ s.tokens
      count := s.count + n
      indent
      indents }

def roll (s : Scanner) (column : Nat) (position : Nat) (t : Token) : Scanner :=
  if s.inFlow || (column : Int) ≤ s.indent then s
  else { s.insertAt position t with indent := column, indents := s.indent :: s.indents }

def dropKey? (s : Scanner) : Option Scanner :=
  match s.keys with
  | [] => some s
  | some place :: outer => if place.required then none else some { s with keys := none :: outer }
  | none :: _ => some s

def saveKey? (s : Scanner) (g : Glyph) : Option Scanner :=
  if s.keyAllowed then do
    let place := { required := !s.inFlow && s.indent = g.column, tokens := s.count, glyph := g : KeyPlace }
    let s ← s.dropKey?
    return { s with keys := some place :: s.keys.drop 1 }
  else some s

def staleKeys? (g : Glyph) : List (Option KeyPlace) → Option (List (Option KeyPlace))
  | [] => some []
  | none :: rest => (staleKeys? g rest).map (none :: ·)
  | some place :: rest =>
    if place.glyph.line < g.line ∨ place.glyph.index + 1024 < g.index then
      if place.required then none else (staleKeys? g rest).map (none :: ·)
    else (staleKeys? g rest).map (some place :: ·)

end Scanner

def skipGap (inFlow keyAllowed inComment : Bool) : List Glyph → Bool × List Glyph
  | [] => (keyAllowed, [])
  | g :: rest =>
    if inComment && !g.isBreakOrEnd then skipGap inFlow keyAllowed true rest
    else if g.char = '\ufeff' && g.index = 0 then skipGap inFlow keyAllowed false rest
    else if g.char = ' ' || (g.char = '\t' && (inFlow || !keyAllowed)) then skipGap inFlow keyAllowed false rest
    else if g.char = '#' then skipGap inFlow keyAllowed true rest
    else if g.isBreak then skipGap inFlow (keyAllowed || !inFlow) false rest
    else (keyAllowed, g :: rest)

def textOf (gs : List Glyph) : String := String.ofList (gs.map Glyph.char)

def spanWord (gs : List Glyph) : String × List Glyph :=
  let (word, rest) := gs.span Glyph.isWordChar
  (textOf word, rest)

def isUriChar (inBrackets : Bool) (g : Glyph) : Bool :=
  g.isWordChar || ";/?:@&=+$.%!~*'()".toList.contains g.char || (inBrackets && ",[]".toList.contains g.char)

def byteWidth? (b : Nat) : Option Nat :=
  if b < 0x80 then some 1
  else if b / 0x20 = 6 then some 2
  else if b / 0x10 = 14 then some 3
  else if b / 8 = 30 then some 4
  else none

def uriChars? : Option (Nat × Nat) → List Char → Option (List Char)
  | none, [] => some []
  | some _, [] => none
  | none, '%' :: a :: b :: rest => do
    let byte := 16 * (← hexDigit? a) + (← hexDigit? b)
    let width ← byteWidth? byte
    if width = 1 then (uriChars? none rest).map (Char.ofNat byte :: ·)
    else uriChars? (some (width - 1, byte % Nat.pow 2 (7 - width))) rest
  | some (left, value), '%' :: a :: b :: rest => do
    let byte := 16 * (← hexDigit? a) + (← hexDigit? b)
    if byte / 0x40 ≠ 2 then none
    else
      let value := value * 64 + byte % 64
      if left = 1 then (uriChars? none rest).map (Char.ofNat value :: ·)
      else uriChars? (some (left - 1, value)) rest
  | none, c :: rest => if c = '%' then none else (uriChars? none rest).map (c :: ·)
  | some _, _ :: _ => none

def uri? (inBrackets : Bool) (given : String) (gs : List Glyph) : Option (String × List Glyph) := do
  let (taken, rest) := gs.span (isUriChar inBrackets)
  let chars ← uriChars? none (taken.map Glyph.char)
  if given.isEmpty && chars.isEmpty then none
  else return (String.ofList (given.toList.drop 1 ++ chars), rest)

def handle? (gs : List Glyph) : Option (String × List Glyph) :=
  if charAt 0 gs = '!' then
    let (word, rest) := spanWord (gs.drop 1)
    if charAt 0 rest = '!' then some ("!" ++ word ++ "!", rest.drop 1) else some ("!" ++ word, rest)
  else none

-- A tag as a handle and a suffix; the handle is empty when the suffix is the
-- whole tag.
def tag? (inFlow : Bool) (gs : List Glyph) : Option (Token × List Glyph) := do
  let (handle, suffix, rest) ← if charAt 1 gs = '<' then do
      let (suffix, rest) ← uri? true "" (gs.drop 2)
      if charAt 0 rest = '>' then some ("", suffix, rest.drop 1) else none
    else do
      let (handle, rest) ← handle? gs
      if handle.length > 1 && handle.endsWith "!" then
        let (suffix, rest) ← uri? false "" rest
        some (handle, suffix, rest)
      else
        let (suffix, rest) ← uri? false handle rest
        some (if suffix.isEmpty then ("", "!", rest) else ("!", suffix, rest))
  if gapAt 0 rest || (inFlow && charAt 0 rest = ',') then return (.tag handle suffix, rest) else none

def versionNumber? (gs : List Glyph) : Option (Nat × List Glyph) :=
  let (digits, rest) := gs.span (·.char.isDigit)
  if digits.isEmpty || digits.length > 9 then none
  else some (digits.foldl (fun n g => 10 * n + (g.char.toNat - '0'.toNat)) 0, rest)

def directive? (gs : List Glyph) : Option (Token × List Glyph) := do
  let (name, rest) := spanWord (gs.drop 1)
  if !gapAt 0 rest then none
  let rest := skipBlanks rest
  match name with
  | "YAML" =>
    let (major, rest) ← versionNumber? rest
    if charAt 0 rest ≠ '.' then none
    let (minor, rest) ← versionNumber? (rest.drop 1)
    return (.version major minor, ← endLine? rest)
  | "TAG" =>
    let (handle, rest) ← handle? rest
    if (handle ≠ "!" && !handle.endsWith "!") || !(rest.head?.any Glyph.isBlank) then none
    let (expansion, rest) ← uri? true "" (skipBlanks rest)
    if !gapAt 0 rest then none
    return (.tagDirective handle expansion, ← endLine? rest)
  | _ => none

def anchorName? (gs : List Glyph) : Option (String × List Glyph) :=
  let (name, rest) := spanWord gs
  if name.isEmpty || !(gapAt 0 rest || "?:,]\x7d%@\x60".toList.contains (charAt 0 rest)) then none
  else some (name, rest)

namespace Scanner

def documentMark? (s : Scanner) (t : Token) : Option Scanner := do
  let s ← (s.unroll (-1)).dropKey?
  return { s with keyAllowed := false }.emit t

def openFlow? (s : Scanner) (g : Glyph) (t : Token) : Option Scanner := do
  let s ← s.saveKey? g
  return { s with keys := none :: s.keys, keyAllowed := true }.emit t

def closeFlow? (s : Scanner) (t : Token) : Option Scanner := do
  let s ← s.dropKey?
  return { s with keys := if s.inFlow then s.keys.drop 1 else s.keys, keyAllowed := false }.emit t

def blockMark? (s : Scanner) (g : Glyph) (opening : Token) (keyAfter : Bool) (t : Token) : Option Scanner := do
  if !s.inFlow && !s.keyAllowed then none
  let s ← (s.roll g.column s.count opening).dropKey?
  return { s with keyAllowed := keyAfter }.emit t

def valueMark? (s : Scanner) (g : Glyph) : Option Scanner :=
  match s.keys with
  | some place :: outer =>
    let s := (s.insertAt place.tokens .key).roll place.glyph.column place.tokens .blockRecordStart
    some ({ s with keys := none :: outer, keyAllowed := false }.emit .value)
  | _ =>
    if !s.inFlow && !s.keyAllowed then none
    else
      let keyAllowed := !s.inFlow
      some ({ s.roll g.column s.count .blockRecordStart with keyAllowed }.emit .value)

def keyToken? (s : Scanner) (g : Glyph) (read : Option (Token × List Glyph)) :
    Option (Scanner × List Glyph) := do
  let s ← s.saveKey? g
  let (t, rest) ← read
  return ({ s with keyAllowed := false }.emit t, rest)

def scalarToken (style : Style) (read : Option (List Char × List Glyph)) : Option (Token × List Glyph) :=
  read.map fun (text, rest) => (.scalar style (String.ofList text), rest)

def blockToken? (s : Scanner) (literal : Bool) (gs : List Glyph) : Option (Scanner × List Glyph) := do
  let s ← s.dropKey?
  let (t, rest) ← scalarToken (if literal then .literal else .folded) (block? literal s.indent gs)
  return ({ s with keyAllowed := true }.emit t, rest)

def plainToken? (s : Scanner) (g : Glyph) (gs : List Glyph) : Option (Scanner × List Glyph) := do
  let s ← s.saveKey? g
  let (text, broken, rest) ← plain? s.inFlow (s.indent + 1) {} gs
  return ({ s with keyAllowed := broken }.emit (.scalar .plain (String.ofList text)), rest)

def indicators : List Char := "-?:,[]\x7b\x7d#&*!|>'\"%@\x60".toList

def beginsPlain (inFlow : Bool) (g : Glyph) (rest : List Glyph) : Bool :=
  (!g.isGap && !indicators.contains g.char) || (g.char = '-' && !rest.head?.any Glyph.isBlank) ||
    (!inFlow && (g.char = '?' || g.char = ':') && !gapAt 0 rest)

def token? (s : Scanner) (g : Glyph) (rest : List Glyph) : Option (Scanner × List Glyph) :=
  let gs := g :: rest
  let isMark (c : Char) := g.char = c && (s.inFlow || gapAt 0 rest)
  if g.column = 0 && g.char = '%' then do
    let s ← (s.unroll (-1)).dropKey?
    let (t, rest) ← directive? gs
    return ({ s with keyAllowed := false }.emit t, rest)
  else if isDocumentMark '-' gs then (s.documentMark? .documentStart).map (·, gs.drop 3)
  else if isDocumentMark '.' gs then (s.documentMark? .documentEnd).map (·, gs.drop 3)
  else if g.char = '[' then (s.openFlow? g .flowListStart).map (·, rest)
  else if g.char = '{' then (s.openFlow? g .flowRecordStart).map (·, rest)
  else if g.char = ']' then (s.closeFlow? .flowListEnd).map (·, rest)
  else if g.char = '}' then (s.closeFlow? .flowRecordEnd).map (·, rest)
  else if g.char = ',' then do
    let s ← s.dropKey?
    return ({ s with keyAllowed := true }.emit .flowEntry, rest)
  else if g.char = '-' && gapAt 0 rest then (s.blockMark? g .blockListStart true .blockEntry).map (·, rest)
  else if isMark '?' then (s.blockMark? g .blockRecordStart (!s.inFlow) .key).map (·, rest)
  else if isMark ':' then (s.valueMark? g).map (·, rest)
  else if g.char = '*' then s.keyToken? g ((anchorName? rest).map fun (name, rest) => (.alias name, rest))
  else if g.char = '&' then s.keyToken? g ((anchorName? rest).map fun (name, rest) => (.anchor name, rest))
  else if g.char = '!' then s.keyToken? g (tag? s.inFlow gs)
  else if g.char = '|' && !s.inFlow then s.blockToken? true rest
  else if g.char = '>' && !s.inFlow then s.blockToken? false rest
  else if g.char = '\'' then s.keyToken? g (scalarToken .quoted (singleQuoted? {} rest))
  else if g.char = '"' then s.keyToken? g (scalarToken .quoted (doubleQuoted? {} none rest))
  else if beginsPlain s.inFlow g rest then s.plainToken? g gs
  else none

def scan? : Nat → Scanner → List Glyph → Option Scanner
  | 0, _, _ => none
  | fuel + 1, s, gs =>
    let (keyAllowed, gs) := skipGap s.inFlow s.keyAllowed false gs
    match gs with
    | [] => none
    | g :: rest => do
      let keys ← staleKeys? g s.keys
      let s := { s with keyAllowed, keys }.unroll g.column
      if g.isEnd then (s.unroll (-1)).dropKey?
      else
        let (s, rest) ← s.token? g rest
        scan? fuel s rest

end Scanner

def tokens? (text : String) : Option (List Token) :=
  let chars := text.toList
  if chars.all isAllowed then
    let gs := glyphs chars
    (Scanner.scan? gs.length {} gs).map (·.tokens.reverse)
  else none

end ApiBindings.Data.Yaml
