import ApiBindings.Data.Toml.Value
set_option autoImplicit false

namespace ApiBindings.Data.Toml

inductive Statement where
  | assign (path : List String) (key : String) (item : Item)
  | header (path : List String) (key : String)
  | nextHeader (path : List String) (key : String)

structure Filling where
  root : Table := (.header, [])
  current : Option (List String) := none

namespace Filling

def step? (f : Filling) : Statement → Option Filling
  | .assign path key item =>
    (f.root.under? false (Table.assign? path key item) (f.current.getD [])).map fun root => { f with root }
  | .header path key =>
    (f.root.open? path key).map fun root => { root, current := some (path ++ [key]) }
  | .nextHeader path key =>
    (f.root.openNext? path key).map fun root => { root, current := some (path ++ [key]) }

end Filling

namespace Reader

def depthLimit : Nat := 80

def header : Reader Statement := do
  let next ← accept "[["
  if !next then expect "["
  let (path, key) ← dottedKey
  expect (if next then "]]" else "]")
  return if next then .nextHeader path key else .header path key

def statements : Nat → Reader (List Statement)
  | 0 => failure
  | fuel + 1 => do
    blanks
    match ← peek with
    | none => return []
    | some c =>
      if c = '#' then
        lineEnd
        statements fuel
      else if c = '\n' ∨ c = '\r' then
        if ← lineBreak then statements fuel else failure
      else
        let statement ← if c = '[' then header else do
          let (path, key, item) ← assignment (value depthLimit)
          pure (.assign path key item)
        lineEnd
        return statement :: (← statements fuel)

end Reader

def read? (text : String) : Option (List (String × Item)) := do
  let chars := match text.toList with
    | '\ufeff' :: rest => rest
    | chars => chars
  let (statements, _) ← (Reader.statements (chars.length + 1)).run chars
  let filling ← statements.foldlM Filling.step? {}
  return filling.root.2

end ApiBindings.Data.Toml
