set_option autoImplicit false

namespace ApiBindings.Text

def isBlank (c : Char) : Bool :=
  let n := c.toNat
  (0x9 ≤ n && n ≤ 0xd) || n == 0x20 || n == 0x85 || n == 0xa0 || n == 0x1680 ||
    (0x2000 ≤ n && n ≤ 0x200a) || n == 0x2028 || n == 0x2029 || n == 0x202f || n == 0x205f || n == 0x3000

def isControl (c : Char) : Bool := c.toNat < 0x20 || (0x7f ≤ c.toNat && c.toNat < 0xa0)

def trimStart (text : List Char) : List Char := text.dropWhile isBlank
def trimEnd (text : List Char) : List Char := (text.reverse.dropWhile isBlank).reverse
def trim (text : List Char) : List Char := trimEnd (trimStart text)

-- A carriage return before a line feed belongs to the end of the line; `line`
-- is reversed.
def dropReturn : List Char → List Char
  | '\r' :: line => line
  | line => line

def linesFrom : List Char → List Char → List (List Char)
  | [], [] => []
  | line, [] => [line.reverse]
  | line, c :: rest =>
    if c = '\n' then (dropReturn line).reverse :: linesFrom [] rest
    else linesFrom (c :: line) rest

def lines (text : List Char) : List (List Char) := linesFrom [] text

def sameIgnoringCase (a b : List Char) : Bool := a.map Char.toLower == b.map Char.toLower

def docLines (text : List Char) : List (List Char) :=
  let trimmed := trim text
  if trimmed.isEmpty || sameIgnoringCase trimmed ['n', 'u', 'l', 'l'] then []
  else (lines trimmed).map trimEnd

end ApiBindings.Text
