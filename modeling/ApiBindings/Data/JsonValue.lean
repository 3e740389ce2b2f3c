import ApiBindings.Text.Quoted
set_option autoImplicit false

namespace ApiBindings.Data

inductive JsonValue where
  | null
  | flag (b : Bool)
  | natural (n : Nat)
  | text (s : String)
  | list (items : List JsonValue)
  | record (fields : List (String × JsonValue))
deriving Inhabited

namespace JsonValue

def jsonChar (c : Char) : List Char :=
  if c = '"' then ['\\', '"']
  else if c = '\\' then ['\\', '\\']
  else if c = '\n' then ['\\', 'n']
  else if c = '\r' then ['\\', 'r']
  else if c = '\t' then ['\\', 't']
  else if c.toNat = 8 then ['\\', 'b']
  else if c.toNat = 12 then ['\\', 'f']
  else if c.toNat < 0x20 then '\\' :: 'u' :: Text.hexPadded 4 c.toNat
  else [c]

def jsonText (s : String) : String := String.ofList ('"' :: s.toList.flatMap jsonChar ++ ['"'])

def bracketed (opening closing : String) (indent : Option String) (members : List String) : String :=
  match indent with
  | none => opening ++ ",".intercalate members ++ closing
  | some indent =>
    if members.isEmpty then opening ++ closing
    else
      let inner := indent ++ "  "
      opening ++ "\n" ++ inner ++ (",\n" ++ inner).intercalate members ++ "\n" ++ indent ++ closing

mutual

def render (indent : Option String) : JsonValue → String
  | .null => "null"
  | .flag b => toString b
  | .natural n => toString n
  | .text s => jsonText s
  | .list items => bracketed "[" "]" indent (renderItems (indent.map (· ++ "  ")) items)
  | .record fields => bracketed "\x7b" "\x7d" indent (renderFields (indent.map (· ++ "  ")) fields)

def renderItems (indent : Option String) : List JsonValue → List String
  | [] => []
  | item :: rest => render indent item :: renderItems indent rest

def renderFields (indent : Option String) : List (String × JsonValue) → List String
  | [] => []
  | field :: rest => renderField indent field :: renderFields indent rest

def renderField (indent : Option String) : String × JsonValue → String
  | (key, value) => jsonText key ++ (if indent.isSome then ": " else ":") ++ render indent value

end

def compact (value : JsonValue) : String := value.render none

def pretty (value : JsonValue) : String := value.render (some "")

end JsonValue

end ApiBindings.Data
