set_option autoImplicit false

namespace ApiBindings

inductive ScalarType where
  | string
  | int
  | int32
  | int64
  | float32
  | float64
  | bool
  | time
  | uuid
  | ip
  | bytes
deriving DecidableEq, Repr

namespace ScalarType

def name : ScalarType → String
  | .string => "string"
  | .int => "int"
  | .int32 => "int32"
  | .int64 => "int64"
  | .float32 => "float32"
  | .float64 => "float64"
  | .bool => "bool"
  | .time => "time.Time"
  | .uuid => "uuid.UUID"
  | .ip => "net.IP"
  | .bytes => "[]byte"

def hasConstants : ScalarType → Bool
  | .string | .int | .int32 | .int64 | .float32 | .float64 | .bool => true
  | .time | .uuid | .ip | .bytes => false

def ofTypeName? : String → Option ScalarType
  | "string" => some .string
  | "integer" => some .int
  | "number" => some .float64
  | "boolean" => some .bool
  | _ => none

def ofFormat? (format : String) (numeric : Bool) : Option ScalarType :=
  match format with
  | "date-time" => some .time
  | "uuid" => some .uuid
  | "ipv4" | "ipv6" => some .ip
  | "byte" | "binary" => some .bytes
  | "int32" => if numeric then some .int32 else none
  | "int64" => if numeric then some .int64 else none
  | "float" => if numeric then some .float32 else none
  | "double" => if numeric then some .float64 else none
  | _ => none

end ScalarType

end ApiBindings
