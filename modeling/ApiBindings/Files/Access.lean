import ApiBindings.Failure
import ApiBindings.Files.Path
import ApiBindings.Files.Tree
set_option autoImplicit false

namespace ApiBindings

structure Files where
  tree : FileTree := .empty
  here : List String := []

namespace Files

def walk (tree : FileTree) : List String → List String → Except AccessError (List String)
  | place, [] => .ok place
  | place, name :: rest =>
    match tree.at? place with
    | none => .error .notFound
    | some (.file _) => .error .notDirectory
    | some (.directory entries) =>
      if name = ".." then walk tree place.dropLast rest
      else if (entries.lookup name).isSome then walk tree (place ++ [name]) rest
      else .error .notFound

def start (files : Files) (path : String) : List String :=
  if Path.isAbsolute path then [] else files.here

def hasNull (text : String) : Bool := text.toList.contains '\x00'

def check (path : String) : Except AccessError Unit :=
  if path.isEmpty then .error .notFound
  else if hasNull path then .error .invalidName
  else .ok ()

def find (files : Files) (path : String) : Except AccessError FileTree := do
  check path
  let place ← walk files.tree (files.start path) (Path.names path)
  match files.tree.at? place with
  | none => throw .notFound
  | some tree =>
    if !tree.isDirectory && (Path.endsInSlash path || Path.endsInDot path) then throw .notDirectory
    return tree

def read (files : Files) (path : String) : Except AccessError String := do
  match ← files.find path with
  | .directory _ => throw .isDirectory
  | .file content =>
    match Text.Utf8.decode? content with
    | some text => return text
    | none => throw .notText

inductive Slot where
  | taken (place : List String)
  | free (place : List String)

def slot (files : Files) (start names : List String) : Except AccessError Slot := do
  match names.getLast? with
  | none => return .taken start
  | some ".." => return .taken (← walk files.tree start names)
  | some name =>
    let parent ← walk files.tree start names.dropLast
    match files.tree.at? parent with
    | none => throw .notFound
    | some (.file _) => throw .notDirectory
    | some (.directory entries) =>
      let place := parent ++ [name]
      return if (entries.lookup name).isSome then .taken place else .free place

def makeDirectory (files : Files) (start names : List String) : Except AccessError Files := do
  if names.any hasNull then throw .invalidName
  match ← files.slot start names with
  | .taken _ => throw .exists
  | .free place => return { files with tree := files.tree.put place .empty }

def hasDirectory (files : Files) (start names : List String) : Bool :=
  match walk files.tree start names with
  | .ok place => (files.tree.at? place).any FileTree.isDirectory
  | .error _ => false

def ensureDirectory (files : Files) (start names : List String) : Files × Except AccessError Unit :=
  match files.makeDirectory start names with
  | .ok files => (files, .ok ())
  | .error cause => (files, if files.hasDirectory start names then .ok () else .error cause)

def ensureDirectories (files : Files) (start : List String) : List String → Files × Except AccessError Unit
  | [] => (files, .ok ())
  | name :: outer =>
    -- Names come last one first, so that the directories around are the rest.
    let names := (name :: outer).reverse
    match files.makeDirectory start names with
    | .ok files => (files, .ok ())
    | .error .notFound =>
      match files.ensureDirectories start outer with
      | (files, .ok ()) => files.ensureDirectory start names
      | (files, .error cause) => (files, .error cause)
    | .error _ => files.ensureDirectory start names

def write (files : Files) (path : String) (content : Text.Utf8.Bytes) : Except AccessError Files := do
  check path
  let start := files.start path
  let names := Path.names path
  if Path.endsInDot path || names.isEmpty || names.getLast? = some ".." then
    match files.tree.at? (← walk files.tree start names) with
    | some (.file _) => throw .notDirectory
    | _ => throw .isDirectory
  else
    let slot ← files.slot start names
    if Path.endsInSlash path then throw .isDirectory
    match slot with
    | .free place => return { files with tree := files.tree.put place (.file content) }
    | .taken place =>
      if (files.tree.at? place).any FileTree.isDirectory then throw .isDirectory
      return { files with tree := files.tree.put place (.file content) }

def save (files : Files) (path text : String) : Files × Except AccessError Unit :=
  match files.ensureDirectories (files.start path) (Path.names path).dropLast.reverse with
  | (files, .error cause) => (files, .error cause)
  | (files, .ok ()) =>
    match files.write path (Text.Utf8.encode text) with
    | .ok files => (files, .ok ())
    | .error cause => (files, .error cause)

def remove (files : Files) (path : String) : Except AccessError Files := do
  check path
  let place ← walk files.tree (files.start path) (Path.names path)
  return { files with tree := files.tree.erase place }

def listing (files : Files) : List String :=
  let paths := ((files.tree.at? files.here).getD .empty).files.map fun names => "/".intercalate names
  paths.mergeSort

end Files

end ApiBindings
