set_option autoImplicit false

namespace ApiBindings.Path

def segments : List Char → List (List Char)
  | [] => [[]]
  | c :: rest =>
    if c = '/' then [] :: segments rest
    else match segments rest with
      | [] => [[c]]
      | segment :: others => (c :: segment) :: others

def names (path : String) : List String :=
  ((segments path.toList).filter fun s => s ≠ [] && s ≠ ['.']).map String.ofList

def isAbsolute (path : String) : Bool := path.toList.head? == some '/'

def endsInSlash (path : String) : Bool := path.toList.getLast? == some '/'

def endsInDot (path : String) : Bool :=
  ((segments path.toList).filter (· ≠ [])).getLast? == some ['.']

def dropTail : List Char → List Char
  | ['/'] => ['/']
  | '/' :: rest => dropTail rest
  | '.' :: '/' :: rest => dropTail ('/' :: rest)
  | path => path
termination_by path => path.length

def parent (path : String) : String :=
  String.ofList (dropTail ((dropTail path.toList.reverse).dropWhile (· ≠ '/'))).reverse

def join (directory path : String) : String :=
  if isAbsolute path || directory.isEmpty then path
  else if endsInSlash directory then directory ++ path
  else directory ++ "/" ++ path

def extension (path : String) : Option String :=
  match (names path).getLast? with
  | none | some ".." => none
  | some name =>
    let (last, before) := name.toList.reverse.span (· ≠ '.')
    if before.length ≤ 1 then none else some (String.ofList last.reverse)

end ApiBindings.Path
