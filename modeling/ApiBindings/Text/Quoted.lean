import ApiBindings.Text.Lines
import ApiBindings.Text.Printable
set_option autoImplicit false

namespace ApiBindings.Text

def hexDigits (n : Nat) : List Char := Nat.toDigits 16 n

def hexPadded (width n : Nat) : List Char :=
  List.replicate (width - (hexDigits n).length) '0' ++ hexDigits n

def literalChar (c : Char) : List Char :=
  if c = '\\' then ['\\', '\\']
  else if c = '"' then ['\\', '"']
  else if c = '\n' then ['\\', 'n']
  else if c = '\r' then ['\\', 'r']
  else if c = '\t' then ['\\', 't']
  else if isControl c then '\\' :: 'u' :: hexPadded 4 c.toNat
  else [c]

def literal (text : List Char) : List Char := '"' :: text.flatMap literalChar ++ ['"']

def quotedChar (quote c : Char) : List Char :=
  if c = '\t' then ['\\', 't']
  else if c = '\r' then ['\\', 'r']
  else if c = '\n' then ['\\', 'n']
  else if c = '\\' then ['\\', '\\']
  else if c.toNat = 0 then ['\\', '0']
  else if c = quote then ['\\', c]
  else if isPrintable c then [c]
  else ['\\', 'u', '{'] ++ hexDigits c.toNat ++ ['}']

def quotedText (text : List Char) : List Char := '"' :: text.flatMap (quotedChar '"') ++ ['"']
def quotedLetter (c : Char) : List Char := '\'' :: quotedChar '\'' c ++ ['\'']

end ApiBindings.Text
