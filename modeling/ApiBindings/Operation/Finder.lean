import ApiBindings.Rendering.Basic
set_option autoImplicit false

namespace ApiBindings

def notFoundName : String := "NotFoundError"

def notFoundDeclaration : Declaration where
  name := notFoundName
  doc := some s!"{notFoundName} is returned when a lookup matches no item."
  shape := .record [
    { name := "Kind", type := .named "string" },
    { name := "Key", type := .named "string" }]

def notFoundMethod : Function where
  name := "Error"
  receiver := some { name := "e", type := .pointer (.named notFoundName) }
  results := [.named "string"]
  body := .notFoundMessage

def fieldNames (names : Names) : List (String × Schema) → List (String × String)
  | [] => []
  | (wire, _) :: rest =>
    let (name, names) := names.claim (Naming.exported wire)
    (wire, name) :: fieldNames names rest

def finderField (components : Components) (item : Schema) (names : List (String × String))
    (wire : String) : Except Defect (Option FinderField) :=
  match (item.properties.getD []).lookup wire, names.lookup wire with
  | some property, some name => do
    let direct ← property.effective
    let shape ← components.targetShape property
    match shape with
    | .scalar type =>
      let isBytes := type = .bytes
      return some {
        name
        pointer := !item.requires wire && !isBytes
        isString := direct.ref.isNone && type = .string }
    | .enumeration _ _ => return some { name, pointer := !item.requires wire, isString := false }
    | _ => return none
  | _, _ => .ok none

structure FinderPlan where
  singular : String
  item : TypeExpr
  finder : Finder

def listProperties (components : Components) : List (String × Schema) → Except Defect (List (String × Schema))
  | [] => .ok []
  | (wire, property) :: rest => do
    let shape ← components.targetShape property
    let others ← listProperties components rest
    match shape with
    | .array items => return (wire, items) :: others
    | _ => return others

-- The type of the items of a list field. One that has a named type shows its
-- items only if they are a reference.
def itemType (components : Components) (list : TypeExpr) (items : Schema) : Except Defect (Option TypeExpr) :=
  match list with
  | .slice item => .ok (some item)
  | .named _ =>
    match items.bareReference with
    | some path => (components.typeName path).map fun name => some (.named name)
    | none => .ok none
  | _ => .ok none

def planFinder (components : Components) (fields : List Field) (responseName : String)
    (response : Schema) : Except Failure (Option FinderPlan) := do
  let within {α : Type} (name : String) (checked : Except Defect α) := checked.mapError (Defect.at name)
  let target ← within responseName response.effective
  match target.properties with
  | none => return none
  | some properties =>
    match ← within responseName (listProperties components properties) with
    | [(wire, items)] =>
      let item ← within responseName (components.resolve items)
      match ← within responseName item.classify with
      | .object (first :: others) =>
        match fields.find? fun field => (field.tag.map (·.wire)) == some wire with
        | none => return none
        | some list =>
          match ← within responseName (itemType components list.type items) with
          | none => return none
          | some type =>
            let names := fieldNames {} (first :: others)
            let byName ← within "name" (finderField components item names "name")
            let byId ← within "id" (finderField components item names "id")
            match byName, byId with
            | some byName, some byId =>
              return some {
                singular := Naming.singular (Naming.pascal wire)
                item := type
                finder := { list := list.name, kind := Naming.singular wire, byName, byId } }
            | _, _ => return none
      | _ => return none
    | _ => return none

def finderMethod (responseName : String) (plan : FinderPlan) : Function :=
  let method := "Find" ++ plan.singular
  { name := method
    doc := some s!"{method} returns the first {plan.finder.kind} whose name or id equals nameOrID."
    receiver := some { name := "r", type := .pointer (.named responseName) }
    parameters := [{ name := "nameOrID", type := .named "string" }]
    results := [plan.item.toPointer, .named "error"]
    body := .finder plan.finder }

def declareNotFound : Build Unit := do
  if ((← get).find? notFoundName).isNone then
    Build.declare notFoundDeclaration
    Build.push notFoundMethod

def declareFinder (components : Components) (operation responseName : String) (response : Schema) :
    Build Unit := do
  if !"list".toList.isPrefixOf (Text.lower operation.toList) then return
  match (← get).find? responseName with
  | some { shape := .record fields, .. } =>
    match planFinder components fields responseName response with
    | .error failure => throw failure
    | .ok none => return
    | .ok (some plan) =>
      declareNotFound
      Build.push (finderMethod responseName plan)
  | _ => return

end ApiBindings
