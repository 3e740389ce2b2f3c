import ApiBindings.Text.Capital
import ApiBindings.Text.Words
set_option autoImplicit false

namespace ApiBindings.Naming

def keywords : List String := [
  "break", "case", "chan", "const", "continue", "default", "defer", "else", "fallthrough", "for",
  "func", "go", "goto", "if", "import", "interface", "map", "package", "range", "return", "select",
  "struct", "switch", "type", "var"]

def bodyNames : List String := [
  "body", "c", "context", "ctx", "err", "fmt", "http", "item", "net", "opt", "opts", "out", "path",
  "q", "req", "time", "url", "uuid", "v"]

def initialisms : List String := [
  "ACL", "API", "ASCII", "CPU", "CSS", "DNS", "EOF", "GUID", "HTML", "HTTP", "HTTPS", "ID", "IP",
  "JSON", "QPS", "RAM", "RPC", "SLA", "SMTP", "SQL", "SSH", "TCP", "TLS", "TTL", "UDP", "UI", "UID",
  "UUID", "URI", "URL", "UTF8", "VM", "XML", "XMPP", "XSRF", "XSS"]

def pascalWord (word : List Char) : List Char :=
  if initialisms.contains (String.ofList (Text.upper word)) then Text.upper word
  else Text.capitalize (Text.lower word)

def pascalChars (name : List Char) : List Char := (Text.words name).flatMap pascalWord

def exportedChars (name : List Char) : List Char :=
  match pascalChars name with
  | [] => "Unnamed".toList
  | c :: rest => if c.isDigit then 'N' :: c :: rest else c :: rest

def localChars (name : List Char) : List Char :=
  match Text.words name with
  | [] => "param".toList
  | first :: others =>
    let joined := Text.lower first ++ others.flatMap pascalWord
    let safe := if joined.head?.any Char.isDigit then 'p' :: joined else joined
    if keywords.contains (String.ofList safe) || bodyNames.contains (String.ofList safe) then
      safe ++ "Param".toList
    else safe

def pascal (name : String) : String := String.ofList (pascalChars name.toList)

def exported (name : String) : String := String.ofList (exportedChars name.toList)

def localName (name : String) : String := String.ofList (localChars name.toList)

def snake (name : String) : String := String.ofList (Text.snakeCase name.toList)

def stem? (ending text : List Char) : Option (List Char) :=
  if ending.length < text.length && ending.isSuffixOf text then
    some (text.take (text.length - ending.length))
  else none

def singularChars (word : List Char) : List Char :=
  match stem? ['i', 'e', 's'] word with
  | some stem => stem ++ ['y']
  | none =>
    match stem? ['s'] word with
    | some stem => if stem.getLast? = some 's' then word else stem
    | none => word

def singular (word : String) : String := String.ofList (singularChars word.toList)

end ApiBindings.Naming

namespace ApiBindings

structure Names where
  taken : List String := []
deriving DecidableEq, Repr

namespace Names

def insertName (name : String) : List String → List String
  | [] => [name]
  | other :: rest =>
    if name = other then other :: rest
    else if name < other then name :: other :: rest
    else other :: insertName name rest

def reserve (names : Names) (name : String) : Names := ⟨insertName name names.taken⟩

-- The numbered name that is free. `used` holds the taken names that no number
-- met so far, and each number that is in use meets one of them. A machine counts
-- with 31 bits here: it is never more than one beyond the number of taken names
-- (`Names.Least`), so it could overflow only with as many names.
def firstFree (base : String) (number : Nat) (used : List String) : String :=
  let candidate := base ++ toString number
  if candidate ∈ used then firstFree base (number + 1) (used.erase candidate) else candidate
termination_by used.length
decreasing_by
  have positive := List.length_pos_of_mem ‹_›
  rw [List.length_erase_of_mem ‹_›]
  omega

def claim (names : Names) (base : String) : String × Names :=
  let name := if base ∈ names.taken then firstFree base 2 names.taken else base
  (name, names.reserve name)

end Names

end ApiBindings
