import ApiBindings.Data.Decoder
import ApiBindings.Data.Yaml.Scalar
set_option autoImplicit false

namespace ApiBindings.Data.Yaml

-- Tokens to come, and what was said before them: how tag handles expand, the
-- number that each anchor name stands for, and the nodes behind the numbers.
-- `size` counts scalars and aliases, and lists and records twice.
structure Reading where
  tokens : List Token
  handles : List (String × String) := []
  names : List (String × Nat) := []
  anchors : List (Nat × Node) := []
  size : Nat := 0

abbrev Reader (α : Type) := StateT Reading Option α

namespace Reader

variable {α : Type}

def peek : Reader (Option Token) := return (← get).tokens.head?

def skip : Reader Unit := modify fun r => { r with tokens := r.tokens.drop 1 }

def accept (token : Token) : Reader Bool := do
  if (← peek) = some token then
    skip
    return true
  else return false

def expect (token : Token) : Reader Unit := do
  if !(← accept token) then failure

def atAny (tokens : List Token) : Reader Bool := return (← peek).any tokens.contains

def grow (n : Nat) : Reader Unit := modify fun r => { r with size := r.size + n }

def nothing (tag : Option String) : Reader Node := do
  grow 1
  return .scalar (scalarOf .plain tag "")

def list (tag : Option String) (items : List Node) : Reader Node := do
  grow 2
  return .list (tag.any isLocal) items

def record (tag : Option String) (entries : List (Node × Node)) : Reader Node := do
  grow 2
  return .record (tag.any isLocal) entries

def many (member : Reader (Option α)) : Nat → Reader (List α)
  | 0 => failure
  | fuel + 1 => do
    match ← member with
    | some a => return a :: (← many member fuel)
    | none => return []

def resolveTag (handle suffix : String) : Reader String := do
  if handle.isEmpty then return suffix
  match ((← get).handles ++ [("!", "!"), ("!!", coreTag "")]).lookup handle with
  | some expansion => return expansion ++ suffix
  | none => failure

def anchorName : Reader (Option String) := do
  match ← peek with
  | some (.anchor name) =>
    skip
    return some name
  | _ => return none

def tagText : Reader (Option String) := do
  match ← peek with
  | some (.tag handle suffix) =>
    skip
    some <$> resolveTag handle suffix
  | _ => return none

def properties : Reader (Option String × Option String) := do
  match ← anchorName with
  | some name => return (some name, ← tagText)
  | none =>
    let tag ← tagText
    return (← if tag.isSome then anchorName else pure none, tag)

-- Names a node. Its anchor counts the names before it, so a name that is
-- given again may come to share a number; then the anchor that was opened
-- last keeps it.
def anchored (name : Option String) (read : Reader Node) : Reader Node := do
  match name with
  | none => read
  | some name =>
    let before ← get
    let number := before.names.length
    set { before with
      names := (name, number) :: before.names.filter (·.1 ≠ name)
      anchors := [] }
    let node ← read
    modify fun r => { r with anchors := r.anchors ++ (number, node) :: before.anchors }
    return node

def aliasOf (name : String) : Reader Node := do
  match (← get).names.lookup name with
  | some number =>
    grow 1
    return .alias number
  | none => failure

section

-- Called with whether the node stands in a block, and whether a list there may
-- do without indentation.
variable (node : Bool → Bool → Reader Node)

def nodeUnless (ends : List Token) (read : Reader Node) : Reader Node := do
  if ← atAny ends then nothing none else read

def valueUnless (ends : List Token) (read : Reader Node) : Reader Node := do
  if ← accept .value then nodeUnless ends read else nothing none

def blockItem : Reader (Option Node) := do
  if ← accept .blockEntry then some <$> nodeUnless [.blockEntry, .blockEnd] (node true false)
  else
    expect .blockEnd
    return none

def indentlessItem : Reader (Option Node) := do
  if ← accept .blockEntry then
    some <$> nodeUnless [.blockEntry, .key, .value, .blockEnd] (node true false)
  else return none

def blockField : Reader (Option (Node × Node)) := do
  let ends := [Token.key, .value, .blockEnd]
  if ← accept .key then
    let key ← nodeUnless ends (node true true)
    let value ← valueUnless ends (node true true)
    return some (key, value)
  else
    expect .blockEnd
    return none

def flowMembers {β : Type} (closing : Token) (member : Reader β) (fuel : Nat) : Reader (List β) := do
  if ← accept closing then return []
  let first ← member
  let others ← many (do
    if ← accept closing then return none
    expect .flowEntry
    if ← accept closing then return none
    some <$> member) fuel
  return first :: others

-- A record with one entry, written without brackets in a list. A key that is
-- not written takes the mark after it along.
def flowPair : Reader Node := do
  let ends := [Token.flowEntry, .flowListEnd]
  let key ← if ← atAny (.value :: ends) then do
      skip
      nothing none
    else node false false
  let value ← valueUnless ends (node false false)
  record none [(key, value)]

def flowItem : Reader Node := do
  if ← accept .key then flowPair node else node false false

def flowField : Reader (Node × Node) := do
  let ends := [Token.flowEntry, .flowRecordEnd]
  if ← accept .key then
    let key ← nodeUnless (.value :: ends) (node false false)
    let value ← valueUnless ends (node false false)
    return (key, value)
  else
    let key ← node false false
    return (key, ← nothing none)

def content (fuel : Nat) (block indentless marked : Bool) (tag : Option String) : Reader Node := do
  match ← peek with
  | some .blockEntry =>
    if indentless then list tag (← many (indentlessItem node) fuel)
    else if marked then nothing tag
    else failure
  | some (.scalar style text) =>
    skip
    grow 1
    return .scalar (scalarOf style (tag.filter (· ≠ "!")) text)
  | some .flowListStart =>
    skip
    list tag (← flowMembers .flowListEnd (flowItem node) fuel)
  | some .flowRecordStart =>
    skip
    record tag (← flowMembers .flowRecordEnd (flowField node) fuel)
  | some .blockListStart =>
    if block then
      skip
      list tag (← many (blockItem node) fuel)
    else if marked then nothing tag
    else failure
  | some .blockRecordStart =>
    if block then
      skip
      record tag (← many (blockField node) fuel)
    else if marked then nothing tag
    else failure
  | _ => if marked then nothing tag else failure

end

-- A node. Every list or record takes a token before its members, so the
-- tokens bound the depth.
def node : Nat → Bool → Bool → Reader Node
  | 0, _, _ => failure
  | fuel + 1, block, indentless => do
    match ← peek with
    | some (.alias name) =>
      skip
      aliasOf name
    | _ =>
      let (name, tag) ← properties
      anchored name (content (node fuel) fuel block indentless (name.isSome || tag.isSome) tag)

def directive (versioned : Bool) : Reader (Option Bool) := do
  match ← peek with
  | some (.version major minor) =>
    if versioned || major ≠ 1 || (minor ≠ 1 && minor ≠ 2) then failure
    skip
    return some true
  | some (.tagDirective handle expansion) =>
    if ((← get).handles.lookup handle).isSome then failure
    skip
    modify fun r => { r with handles := (handle, expansion) :: r.handles }
    return some versioned
  | _ => return none

def directives (versioned : Bool) : Nat → Reader Unit
  | 0 => failure
  | fuel + 1 => do
    match ← directive versioned with
    | some versioned => directives versioned fuel
    | none => return ()

def isDirective : Token → Bool
  | .version .. | .tagDirective .. => true
  | _ => false

def document (fuel : Nat) : Reader Node := do
  match ← peek with
  | none => nothing none
  | some token =>
    if isDirective token || token = .documentStart then
      directives false fuel
      expect .documentStart
      match ← peek with
      | none | some .documentStart | some .documentEnd => nothing none
      | some token => if isDirective token then nothing none else node fuel true false
    else node fuel true false

end Reader

def read? (text : String) : Option Source := do
  let tokens ← tokens? text
  let (root, r) ← (Reader.document (tokens.length + 1)).run { tokens }
  if r.tokens.all (· = .documentEnd) then
    return { root, anchors := r.anchors, nesting := 128, jumps := 100 * r.size }
  else none

end ApiBindings.Data.Yaml
