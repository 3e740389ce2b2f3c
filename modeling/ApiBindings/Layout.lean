import ApiBindings.Text.Lines
set_option autoImplicit false

namespace ApiBindings.Layout

inductive Region where
  | code
  | lineComment
  | blockComment
  | interpreted
  | raw
  | rune
deriving DecidableEq, Repr

def Region.name : Region → String
  | .code => "Code"
  | .lineComment => "LineComment"
  | .blockComment => "BlockComment"
  | .interpreted => "Interpreted"
  | .raw => "Raw"
  | .rune => "Rune"

inductive Imbalance where
  | crossed (closing : Char) (line : Nat) (opening : Char) (opened : Nat)
  | unmatched (closing : Char) (line : Nat)
  | unterminated (line : Nat)
  | unclosed (opening : Char) (opened : Nat)
  | unfinished (region : Region)
deriving DecidableEq, Repr

def Imbalance.message : Imbalance → String
  | .crossed closing line opening opened =>
    s!"'{closing}' on line {line} closes '{opening}' from line {opened}"
  | .unmatched closing line => s!"unmatched '{closing}' on line {line}"
  | .unterminated line => s!"unterminated literal on line {line}"
  | .unclosed opening opened => s!"'{opening}' from line {opened} is never closed"
  | .unfinished region => s!"input ends inside {region.name}"

def opening? : Char → Option Char
  | ')' => some '('
  | ']' => some '['
  | '}' => some '{'
  | _ => none

def isOpening (c : Char) : Bool := c = '(' || c = '[' || c = '{'

abbrev Open := List (Char × Nat)

def finish (stack : Open) : Region → Except Imbalance Unit
  | .code | .lineComment =>
    match stack with
    | [] => .ok ()
    | (opening, opened) :: _ => .error (.unclosed opening opened)
  | region => .error (.unfinished region)

def codeChar (stack : Open) (line : Nat) (c : Char) : Except Imbalance (Open × Region) :=
  if c = '"' then .ok (stack, .interpreted)
  else if c = '\x60' then .ok (stack, .raw)
  else if c = '\'' then .ok (stack, .rune)
  else if isOpening c then .ok ((c, line) :: stack, .code)
  else match opening? c with
    | none => .ok (stack, .code)
    | some expected =>
      match stack with
      | [] => .error (.unmatched c line)
      | (opening, opened) :: outer =>
        if opening = expected then .ok (outer, .code) else .error (.crossed c line opening opened)

-- Checks the rest of a text. `line` is the line of its first character; the
-- character after a backslash in a literal is passed over, and a line feed
-- there counts for nothing.
def scan (stack : Open) (region : Region) (line : Nat) : List Char → Except Imbalance Unit
  | [] => finish stack region
  | c :: rest =>
    let line := if c = '\n' then line + 1 else line
    match region, rest with
    | .code, d :: after =>
      if c = '/' ∧ d = '/' then scan stack .lineComment line after
      else if c = '/' ∧ d = '*' then scan stack .blockComment line after
      else match codeChar stack line c with
        | .error e => .error e
        | .ok (stack, region) => scan stack region line (d :: after)
    | .code, [] =>
      match codeChar stack line c with
      | .error e => .error e
      | .ok (stack, region) => finish stack region
    | .lineComment, rest => scan stack (if c = '\n' then .code else .lineComment) line rest
    | .blockComment, d :: after =>
      if c = '*' ∧ d = '/' then scan stack .code line after
      else scan stack .blockComment line (d :: after)
    | .blockComment, [] => finish stack .blockComment
    | .raw, rest => scan stack (if c = '\x60' then .code else .raw) line rest
    | .interpreted, rest =>
      if c = '\\' then
        match rest with
        | [] => finish stack .interpreted
        | _ :: after => scan stack .interpreted line after
      else if c = '\n' then .error (.unterminated (line - 1))
      else scan stack (if c = '"' then .code else .interpreted) line rest
    | .rune, rest =>
      if c = '\\' then
        match rest with
        | [] => finish stack .rune
        | _ :: after => scan stack .rune line after
      else if c = '\n' then .error (.unterminated (line - 1))
      else scan stack (if c = '\'' then .code else .rune) line rest

def check (text : List Char) : Except Imbalance Unit := scan [] .code 1 text

def collapse : List (List Char) → List (List Char)
  | [] => []
  | [] :: rest => if rest.head? = some [] then collapse rest else [] :: collapse rest
  | line :: rest => line :: collapse rest

def dropBlankEnd (lines : List (List Char)) : List (List Char) :=
  (lines.reverse.dropWhile List.isEmpty).reverse

def tidyLines (lines : List (List Char)) : List (List Char) :=
  dropBlankEnd (collapse ((lines.map Text.trimEnd).dropWhile List.isEmpty))

def tidy (text : List Char) : List Char :=
  (tidyLines (Text.lines text)).flatMap fun line => line ++ ['\n']

def format (text : List Char) : Except Imbalance (List Char) :=
  match check text with
  | .ok () => .ok (tidy text)
  | .error e => .error e

end ApiBindings.Layout
