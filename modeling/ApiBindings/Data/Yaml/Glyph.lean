set_option autoImplicit false

namespace ApiBindings.Data.Yaml

structure Glyph where
  char : Char
  index : Nat
  line : Nat
  column : Nat
deriving Inhabited

def isAllowed (c : Char) : Bool :=
  let n := c.toNat
  n == 0x9 || n == 0xa || n == 0xd || (0x20 ≤ n && n ≤ 0x7e) || n == 0x85 ||
    (0xa0 ≤ n && n != 0xfffe && n != 0xffff)

def isBreakChar (c : Char) : Bool :=
  c = '\n' || c = '\r' || c = '\u0085' || c = '\u2028' || c = '\u2029'

def glyphsFrom (index line column : Nat) : List Char → List Glyph
  | [] => [⟨'\x00', index, line, column⟩]
  | '\r' :: '\n' :: rest => ⟨'\n', index, line, column⟩ :: glyphsFrom (index + 2) (line + 1) 0 rest
  | c :: rest =>
    if isBreakChar c then
      let shown := if c = '\r' ∨ c = '\u0085' then '\n' else c
      ⟨shown, index, line, column⟩ :: glyphsFrom (index + 1) (line + 1) 0 rest
    else ⟨c, index, line, column⟩ :: glyphsFrom (index + 1) line (column + 1) rest

def glyphs (text : List Char) : List Glyph := glyphsFrom 0 0 0 text

namespace Glyph

def isEnd (g : Glyph) : Bool := g.char = '\x00'
def isBreak (g : Glyph) : Bool := isBreakChar g.char
def isBlank (g : Glyph) : Bool := g.char = ' ' || g.char = '\t'
def isBreakOrEnd (g : Glyph) : Bool := g.isBreak || g.isEnd
def isGap (g : Glyph) : Bool := g.isBlank || g.isBreakOrEnd

def isWordChar (g : Glyph) : Bool := g.char.isAlphanum || g.char = '_' || g.char = '-'

end Glyph

def gapAt (distance : Nat) (gs : List Glyph) : Bool := (gs.drop distance).head?.all Glyph.isGap

def charAt (distance : Nat) (gs : List Glyph) : Char := ((gs.drop distance).head?.map Glyph.char).getD '\x00'

def isDocumentMark (c : Char) (gs : List Glyph) : Bool :=
  gs.head?.any (·.column = 0) && charAt 0 gs = c && charAt 1 gs = c && charAt 2 gs = c && gapAt 3 gs

def atDocumentMark (gs : List Glyph) : Bool := isDocumentMark '-' gs || isDocumentMark '.' gs

def skipBlanks (gs : List Glyph) : List Glyph := gs.dropWhile Glyph.isBlank

def endLine? (gs : List Glyph) : Option (List Glyph) :=
  let gs := skipBlanks gs
  let gs := if charAt 0 gs = '#' then gs.dropWhile (!·.isBreakOrEnd) else gs
  match gs with
  | [] => none
  | g :: rest => if g.isBreak then some rest else if g.isEnd then some (g :: rest) else none

end ApiBindings.Data.Yaml
