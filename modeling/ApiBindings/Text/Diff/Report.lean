import ApiBindings.Text.Diff.Compaction
set_option autoImplicit false

namespace ApiBindings.Text.Diff

def splitLines (line : List Char) : List Char → List (List Char)
  | [] => if line.isEmpty then [] else [line.reverse]
  | '\r' :: '\n' :: rest => ('\n' :: '\r' :: line).reverse :: splitLines [] rest
  | c :: rest =>
    if c = '\n' ∨ c = '\r' then (c :: line).reverse :: splitLines [] rest
    else splitLines (c :: line) rest

def lines (text : String) : List String := (splitLines [] text.toList).map String.ofList

inductive Part where
  | kept (lines : List String)
  | changed (deleted inserted : List String)

def addRun : Run → List Part → List Part
  | .keep lines, .kept others :: rest => .kept (lines ++ others) :: rest
  | .keep lines, rest => .kept lines :: rest
  | .delete lines, .changed deleted inserted :: rest => .changed (lines ++ deleted) inserted :: rest
  | .delete lines, rest => .changed lines [] :: rest
  | .insert lines, .changed deleted inserted :: rest => .changed deleted (lines ++ inserted) :: rest
  | .insert lines, rest => .changed [] lines :: rest

def parts (script : List Run) : List Part := script.foldr addRun []

def context : Nat := 3

def lastLines (n : Nat) (lines : List String) : List String := lines.drop (lines.length - n)

def trimFirst : List Part → List Part
  | .kept lines :: rest => .kept (lastLines context lines) :: rest
  | parts => parts

def trimLast (parts : List Part) : List Part :=
  match parts.getLast? with
  | some (.kept lines) => parts.dropLast ++ [.kept (lines.take context)]
  | _ => parts

-- Groups of parts, cut where many lines are kept; `group` is the open one,
-- last part first.
def groupsFrom (group : List Part) : List Part → List (List Part)
  | [] =>
    match group with
    | [] | [.kept _] => []
    | group => [group.reverse]
  | .kept lines :: rest =>
    if 2 * context < lines.length then
      (.kept (lines.take context) :: group).reverse :: groupsFrom [.kept (lastLines context lines)] rest
    else groupsFrom (.kept lines :: group) rest
  | part :: rest => groupsFrom (part :: group) rest

def groups (parts : List Part) : List (List Part) := groupsFrom [] (trimLast (trimFirst parts))

def signed (sign line : String) : String :=
  match line.toList.getLast? with
  | some '\n' | some '\r' => sign ++ line
  | _ => sign ++ line ++ "\n"

def Part.render : Part → String
  | .kept lines => String.join (lines.map (signed " "))
  | .changed deleted inserted =>
    String.join (deleted.map (signed "-")) ++ String.join (inserted.map (signed "+"))

def renderGroup (group : List Part) : String := String.join (group.map Part.render)

def report (label old new : String) : String :=
  let groups := groups (parts (compact (script (lines old) (lines new))))
  s!"--- {label} (current)\n+++ {label} (new)\n" ++ "...\n".intercalate (groups.map renderGroup)

end ApiBindings.Text.Diff
