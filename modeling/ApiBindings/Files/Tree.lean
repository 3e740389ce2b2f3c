import ApiBindings.Data.Dictionary
import ApiBindings.Text.Utf8
set_option autoImplicit false

namespace ApiBindings

open Text.Utf8 (Bytes)

inductive FileTree where
  | file (content : Bytes)
  | directory (entries : List (String × FileTree))

instance : Inhabited FileTree := ⟨.directory []⟩

namespace FileTree

def empty : FileTree := .directory []

def isDirectory : FileTree → Bool
  | .directory _ => true
  | .file _ => false

def entries : FileTree → List (String × FileTree)
  | .directory entries => entries
  | .file _ => []

def at? : FileTree → List String → Option FileTree
  | tree, [] => some tree
  | tree, name :: rest =>
    match tree.entries.lookup name with
    | some child => child.at? rest
    | none => none

def put : FileTree → List String → FileTree → FileTree
  | _, [], new => new
  | tree, name :: rest, new =>
    .directory (Data.insert name (((tree.entries.lookup name).getD empty).put rest new) tree.entries)

def erase : FileTree → List String → FileTree
  | tree, [] => tree
  | tree, [name] => .directory (tree.entries.filter (·.1 ≠ name))
  | tree, name :: rest =>
    match tree.entries.lookup name with
    | some child => .directory (Data.insert name (child.erase rest) tree.entries)
    | none => tree

mutual

def files : FileTree → List (List String)
  | .file _ => [[]]
  | .directory entries => filesIn entries

def filesIn : List (String × FileTree) → List (List String)
  | [] => []
  | entry :: rest => filesUnder entry ++ filesIn rest

def filesUnder : String × FileTree → List (List String)
  | (name, tree) => tree.files.map (name :: ·)

end

end FileTree

end ApiBindings
