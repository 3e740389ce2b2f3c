import ApiBindings.Document.Schema
set_option autoImplicit false

namespace ApiBindings

open Number (Double)

-- Rules for a bound and the exclusive bound beside it; a flag makes the plain
-- bound exclusive.
def boundRules (bound : Option Double) (exclusive : Option ExclusiveBound) (inclusiveRule exclusiveRule : String) :
    List String :=
  let own := match exclusive with
    | some (.value x) => [exclusiveRule ++ "=" ++ x.format]
    | _ => []
  let plain := match bound with
    | some x =>
      let rule := if exclusive = some (.flag true) then exclusiveRule else inclusiveRule
      [rule ++ "=" ++ x.format]
    | none => []
  own ++ plain

def sizeRule (rule : String) (bound : Option Nat) : List String :=
  match bound with
  | some n => [rule ++ "=" ++ toString n]
  | none => []

def Limits.rules (l : Limits) : List String :=
  boundRules l.minimum l.exclusiveMinimum "gte" "gt" ++
    boundRules l.maximum l.exclusiveMaximum "lte" "lt" ++
    sizeRule "min" l.minLength ++ sizeRule "max" l.maxLength ++
    sizeRule "min" l.minItems ++ sizeRule "max" l.maxItems

def Schema.validationRules (s : Schema) (required : Bool) : Option String :=
  let rules := s.limits.rules
  if rules.isEmpty then none
  else some (",".intercalate (if required then rules else "omitempty" :: rules))

end ApiBindings
