import ApiBindings.Document.Scalar
set_option autoImplicit false

namespace ApiBindings

inductive TypeExpr where
  | named (name : String)
  | pointer (target : TypeExpr)
  | slice (item : TypeExpr)
  | map (value : TypeExpr)
  | any
deriving DecidableEq, Repr, Inhabited

namespace TypeExpr

def toPointer : TypeExpr → TypeExpr
  | .pointer target => .pointer target
  | type => .pointer type

def isNilable : TypeExpr → Bool
  | .named _ => false
  | _ => true

def isSlice : TypeExpr → Bool
  | .slice _ => true
  | _ => false

def render : TypeExpr → String
  | .named name => name
  | .pointer target => "*" ++ target.render
  | .slice item => "[]" ++ item.render
  | .map value => "map[string]" ++ value.render
  | .any => "any"

def qualifierOf (name : List Char) : Option (List Char) :=
  if '.' ∈ name then some (name.takeWhile (· ≠ '.')) else none

def qualifier? : TypeExpr → Option String
  | .named name => (qualifierOf name.toList).map String.ofList
  | .pointer inner => inner.qualifier?
  | .slice inner => inner.qualifier?
  | .map inner => inner.qualifier?
  | .any => none

def ofScalar : ScalarType → TypeExpr
  | .bytes => .slice (.named "byte")
  | scalar => .named scalar.name

end TypeExpr

inductive Package where
  | context
  | fmt
  | uuid
  | net
  | http
  | url
  | time
deriving DecidableEq, Repr

namespace Package

def all : List Package := [.context, .fmt, .uuid, .net, .http, .url, .time]

def qualifier : Package → String
  | .context => "context"
  | .fmt => "fmt"
  | .uuid => "uuid"
  | .net => "net"
  | .http => "http"
  | .url => "url"
  | .time => "time"

def path : Package → String
  | .context => "context"
  | .fmt => "fmt"
  | .uuid => "github.com/google/uuid"
  | .net => "net"
  | .http => "net/http"
  | .url => "net/url"
  | .time => "time"

def ofQualifier? (qualifier : String) : Option Package := all.find? (·.qualifier = qualifier)

def isStandard : Package → Bool
  | .uuid => false
  | _ => true

end Package

end ApiBindings
