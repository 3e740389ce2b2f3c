import ApiBindings.Data.Yaml.Glyph
set_option autoImplicit false

namespace ApiBindings.Data.Yaml

-- A single line break becomes a space, and of several the first is dropped.
structure Folding where
  text : List Char := []
  blanks : List Char := []
  broken : Bool := false
  firstBreak : Option Char := none
  breaks : List Char := []

namespace Folding

def joined (f : Folding) : List Char :=
  if f.broken then
    match f.firstBreak with
    | some '\n' => if f.breaks.isEmpty then ' ' :: f.text else f.breaks ++ f.text
    | other => f.breaks ++ other.toList ++ f.text
  else f.blanks ++ f.text

def push (f : Folding) (c : Char) : Folding := { text := c :: f.joined }

def pushGap (f : Folding) (g : Glyph) : Folding :=
  if g.isBlank then if f.broken then f else { f with blanks := g.char :: f.blanks }
  else if f.broken then { f with breaks := g.char :: f.breaks }
  else { f with broken := true, blanks := [], firstBreak := some g.char }

def escapeBreak (f : Folding) : Folding := { text := f.joined, broken := true }

end Folding

def isFlowIndicator (c : Char) : Bool := c = ',' || c = '[' || c = ']' || c = '{' || c = '}'

-- A plain scalar: its text, whether a line ended after it, and what follows.
-- `indent` is the least column of its lines in a block.
def plain? (inFlow : Bool) (indent : Int) (f : Folding) :
    List Glyph → Option (List Char × Bool × List Glyph)
  | [] => none
  | g :: rest =>
    let done := some (f.text.reverse, f.broken, g :: rest)
    if g.isEnd then done
    else if g.isBlank || g.isBreak then
      if f.broken && g.char = '\t' && g.column < indent then none
      else plain? inFlow indent (f.pushGap g) rest
    else if f.broken && !inFlow && g.column < indent then done
    else if atDocumentMark (g :: rest) then done
    else if g.char = '#' && (f.broken || !f.blanks.isEmpty) then done
    else if inFlow && g.char = ':' && (isFlowIndicator (charAt 0 rest) || charAt 0 rest = '?') then none
    else if (g.char = ':' && gapAt 0 rest) || (inFlow && isFlowIndicator g.char) then done
    else plain? inFlow indent (f.push g.char) rest

def hexDigit? (c : Char) : Option Nat :=
  if c.isDigit then some (c.toNat - '0'.toNat)
  else if 'a' ≤ c ∧ c ≤ 'f' then some (c.toNat - 'a'.toNat + 10)
  else if 'A' ≤ c ∧ c ≤ 'F' then some (c.toNat - 'A'.toNat + 10)
  else none

def singleQuoted? (f : Folding) : List Glyph → Option (List Char × List Glyph)
  | [] => none
  | g :: rest =>
    if g.isEnd || atDocumentMark (g :: rest) then none
    else if g.isBlank || g.isBreak then singleQuoted? (f.pushGap g) rest
    else if g.char = '\'' then
      match rest with
      | [] => none
      | h :: after => if h.char = '\'' then singleQuoted? (f.push '\'') after else some (f.joined.reverse, rest)
    else singleQuoted? (f.push g.char) rest

def escape? : Char → Option (Char ⊕ Nat)
  | '0' => some (.inl '\x00')
  | 'a' => some (.inl '\x07')
  | 'b' => some (.inl '\x08')
  | 't' | '\t' => some (.inl '\t')
  | 'n' => some (.inl '\n')
  | 'v' => some (.inl '\x0b')
  | 'f' => some (.inl '\x0c')
  | 'r' => some (.inl '\r')
  | 'e' => some (.inl '\x1b')
  | ' ' => some (.inl ' ')
  | '"' => some (.inl '"')
  | '/' => some (.inl '/')
  | '\\' => some (.inl '\\')
  | 'N' => some (.inl '\u0085')
  | '_' => some (.inl '\u00a0')
  | 'L' => some (.inl '\u2028')
  | 'P' => some (.inl '\u2029')
  | 'x' => some (.inr 2)
  | 'u' => some (.inr 4)
  | 'U' => some (.inr 8)
  | _ => none

def codePoint? (n : Nat) : Option Char :=
  if n > 0x10ffff ∨ (0xd800 ≤ n ∧ n ≤ 0xdfff) then none else some (Char.ofNat n)

-- The rest of a scalar between double quotes; `code` holds the digits that an
-- escape still needs and its value so far.
def doubleQuoted? (f : Folding) (code : Option (Nat × Nat)) : List Glyph → Option (List Char × List Glyph)
  | [] => none
  | g :: rest =>
    match code with
    | some (left, value) =>
      match hexDigit? g.char with
      | none => none
      | some digit =>
        let value := 16 * value + digit
        if left = 1 then
          match codePoint? value with
          | some c => doubleQuoted? (f.push c) none rest
          | none => none
        else doubleQuoted? f (some (left - 1, value)) rest
    | none =>
      if g.isEnd || atDocumentMark (g :: rest) then none
      else if g.isBlank || g.isBreak then doubleQuoted? (f.pushGap g) none rest
      else if g.char = '"' then some (f.joined.reverse, rest)
      else if g.char = '\\' then
        match rest with
        | [] => none
        | h :: after =>
          if h.isBreak then doubleQuoted? f.escapeBreak none after
          else match escape? h.char with
            | some (.inl c) => doubleQuoted? (f.push c) none after
            | some (.inr digits) => doubleQuoted? f (some (digits, 0)) after
            | none => none
      else doubleQuoted? (f.push g.char) none rest

inductive Chomping where
  | strip
  | clip
  | keep

def blockHeader? (gs : List Glyph) : Option (Chomping × Option Nat × List Glyph) :=
  let chomping (gs : List Glyph) : Option Chomping × List Glyph :=
    match charAt 0 gs with
    | '+' => (some .keep, gs.drop 1)
    | '-' => (some .strip, gs.drop 1)
    | _ => (none, gs)
  let increment (gs : List Glyph) : Option (Option Nat × List Glyph) :=
    let c := charAt 0 gs
    if c = '0' then none
    else if c.isDigit then some (some (c.toNat - '0'.toNat), gs.drop 1)
    else some (none, gs)
  match chomping gs with
  | (some c, gs) => (increment gs).map fun (n, gs) => (c, n, gs)
  | (none, gs) => (increment gs).map fun (n, gs) =>
    match n, chomping gs with
    | some _, (some c, gs) => (c, n, gs)
    | _, _ => (.clip, n, gs)

-- Empty lines of a block: their breaks, last first, the widest of their
-- indentations, and what follows. `indent` is none as long as it is not
-- known.
def blockBreaks? (indent : Option Nat) (breaks : List Char) (widest : Nat) :
    List Glyph → Option (List Char × Nat × List Glyph)
  | [] => none
  | g :: rest =>
    let inIndent := indent.all (g.column < ·)
    if inIndent && g.char = ' ' then blockBreaks? indent breaks widest rest
    else
      let widest := max widest g.column
      if inIndent && g.char = '\t' then none
      else if g.isBreak then blockBreaks? indent (g.char :: breaks) widest rest
      else some (breaks, widest, g :: rest)

-- A block that is being read: its text, last character first, the break after
-- its last line, the breaks of empty lines since, and whether the last line
-- began with a blank.
structure Block where
  text : List Char := []
  lineBreak : Option Char := none
  breaks : List Char := []
  ledByBlank : Bool := false

namespace Block

def startLine (b : Block) (literal : Bool) (first : Glyph) : Block :=
  let folds := !literal && b.lineBreak = some '\n' && !b.ledByBlank && !first.isBlank
  let separated :=
    if folds then if b.breaks.isEmpty then ' ' :: b.text else b.text else b.lineBreak.toList ++ b.text
  { text := b.breaks ++ separated, ledByBlank := first.isBlank }

def close (b : Block) : Chomping → List Char
  | .strip => b.text.reverse
  | .clip => (b.lineBreak.toList ++ b.text).reverse
  | .keep => (b.breaks ++ b.lineBreak.toList ++ b.text).reverse

end Block

-- Lines of a block from the first column of one; each line takes at least one
-- character.
def blockLines? (literal : Bool) (indent : Nat) : Nat → Block → List Glyph → Option (Block × List Glyph)
  | 0, _, _ => none
  | fuel + 1, b, gs =>
    match gs with
    | [] => none
    | g :: _ =>
      if g.column ≠ indent ∨ g.isEnd then some (b, gs)
      else
        let b := b.startLine literal g
        let line := gs.takeWhile (!·.isBreakOrEnd)
        let b := { b with text := (line.map Glyph.char).reverse ++ b.text }
        match gs.dropWhile (!·.isBreakOrEnd) with
        | [] => none
        | h :: after =>
          let (b, after) := if h.isBreak then ({ b with lineBreak := some h.char }, after) else (b, h :: after)
          match blockBreaks? (some indent) [] 0 after with
          | some (breaks, _, after) => blockLines? literal indent fuel { b with breaks } after
          | none => none

def block? (literal : Bool) (parent : Int) (gs : List Glyph) : Option (List Char × List Glyph) := do
  let (chomping, increment, gs) ← blockHeader? gs
  let gs ← endLine? gs
  let given := increment.map fun n => (if 0 ≤ parent then parent + n else n).toNat
  let (breaks, widest, gs) ← blockBreaks? given [] 0 gs
  let indent := given.getD (max widest (max (parent + 1).toNat 1))
  let (b, gs) ← blockLines? literal indent gs.length { breaks } gs
  return (b.close chomping, gs)

end ApiBindings.Data.Yaml
