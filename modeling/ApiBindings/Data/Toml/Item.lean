set_option autoImplicit false

namespace ApiBindings.Data.Toml

inductive Origin where
  | header
  | passing
  | dotted
deriving DecidableEq

inductive Item where
  | text (s : String)
  | plain
  | list (items : List Item)
  | record (entries : List (String × Item))
  | table (origin : Origin) (entries : List (String × Item))
  | tables (rows : List (Origin × List (String × Item)))

abbrev Table := Origin × List (String × Item)

namespace Table

def find? (t : Table) (key : String) : Option Item := t.2.lookup key

def set (t : Table) (key : String) (item : Item) : Table :=
  if t.2.any (·.1 = key) then (t.1, t.2.map fun (k, old) => (k, if k = key then item else old))
  else (t.1, t.2 ++ [(key, item)])

def under? (dotted : Bool) (change : Table → Option Table) : List String → Table → Option Table
  | [], t => change t
  | key :: path, t =>
    match t.find? key with
    | none => do
      let inner ← under? dotted change path (if dotted then .dotted else .passing, [])
      return t.set key (.table inner.1 inner.2)
    | some (.table origin entries) =>
      if dotted && origin = .header then none
      else do
        let inner ← under? dotted change path (origin, entries)
        return t.set key (.table inner.1 inner.2)
    | some (.tables rows) =>
      match rows.getLast? with
      | none => none
      | some row => do
        let inner ← under? dotted change path row
        return t.set key (.tables (rows.dropLast ++ [inner]))
    | some _ => none

def assign? (path : List String) (key : String) (item : Item) : Table → Option Table :=
  under? true (fun t =>
    if (t.1 == .dotted) == path.isEmpty then none
    else if (t.find? key).isSome then none
    else some (t.set key item)) path

def open? (path : List String) (key : String) : Table → Option Table :=
  under? false (fun t =>
    match t.find? key with
    | none => some (t.set key (.table .header []))
    | some (.table .passing entries) => some (t.set key (.table .header entries))
    | some _ => none) path

def openNext? (path : List String) (key : String) : Table → Option Table :=
  under? false (fun t =>
    match t.find? key with
    | none => some (t.set key (.tables [(.header, [])]))
    | some (.tables rows) => some (t.set key (.tables (rows ++ [(.header, [])])))
    | some _ => none) path

end Table

end ApiBindings.Data.Toml
