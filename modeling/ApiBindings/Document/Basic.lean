import ApiBindings.Document.Schema
set_option autoImplicit false

namespace ApiBindings

inductive Method where
  | get
  | put
  | post
  | patch
  | delete
deriving DecidableEq, Repr

namespace Method

def name : Method → String
  | .get => "GET"
  | .put => "PUT"
  | .post => "POST"
  | .patch => "PATCH"
  | .delete => "DELETE"

def constant : Method → String
  | .get => "http.MethodGet"
  | .put => "http.MethodPut"
  | .post => "http.MethodPost"
  | .patch => "http.MethodPatch"
  | .delete => "http.MethodDelete"

def ofName? : String → Option Method
  | "GET" => some .get
  | "PUT" => some .put
  | "POST" => some .post
  | "PATCH" => some .patch
  | "DELETE" => some .delete
  | _ => none

end Method

structure Parameter where
  name : String
  location : String
  required : Bool := false
  description : Option String := none
  schema : Option Schema := none

inductive ParameterEntry where
  | reference (path : String)
  | inline (parameter : Parameter)

abbrev Content := List (String × Option Schema)

structure RequestBody where
  required : Bool := false
  content : Content := []

structure Response where
  description : Option String := none
  content : Content := []

structure Operation where
  id : Option String := none
  summary : Option String := none
  description : Option String := none
  parameters : List ParameterEntry := []
  requestBody : Option RequestBody := none
  responses : List (String × Response) := []

structure PathItem where
  get : Option Operation := none
  put : Option Operation := none
  post : Option Operation := none
  patch : Option Operation := none
  delete : Option Operation := none
  parameters : List ParameterEntry := []

def PathItem.operations (item : PathItem) : List (Method × Operation) :=
  [(Method.get, item.get), (.put, item.put), (.post, item.post), (.patch, item.patch),
    (.delete, item.delete)].filterMap fun (method, operation) => operation.map (method, ·)

structure Components where
  schemas : List (String × Schema) := []
  parameters : List (String × Parameter) := []

structure Document where
  paths : List (String × PathItem) := []
  components : Option Components := none

namespace Document

def schemas (doc : Document) : List (String × Schema) :=
  match doc.components with
  | some components => components.schemas
  | none => []

structure Entry where
  path : String
  item : PathItem
  method : Method
  operation : Operation

def entries (doc : Document) : List Entry :=
  doc.paths.flatMap fun (path, item) =>
    item.operations.map fun (method, operation) => { path, item, method, operation }

end Document

end ApiBindings
