import ApiBindings.Proofs.Operation.Compiled
import ApiBindings.Proofs.Rendering.Names
set_option autoImplicit false

namespace ApiBindings

theorem parameter_typed_grows (components : Components) (hint : String) (s : Option Schema) (type : TypeExpr)
    (before after : SourceUnit) (typed : ParameterTyped components hint s before type after) :
    before.Grows [] after := by
  cases typed with
  | given rendered => exact rendered_grows components _ before after rendered
  | text => exact SourceUnit.Grows.refl [] before

theorem path_typed_grows (components : Components) (operation : String) (bound : List BoundParameter)
    (inPath : List Variable) (before after : SourceUnit)
    (typed : PathTyped components operation bound before inPath after) : before.Grows [] after := by
  induction typed with
  | none => exact SourceUnit.Grows.refl [] _
  | next typed _ ih => exact (parameter_typed_grows components _ _ _ _ _ typed).trans ih

theorem payload_typed_grows (components : Components) (operation role : String) (s : Schema) (result : Payload)
    (before after : SourceUnit) (typed : PayloadTyped components operation role s before result after) :
    before.Grows [] after := by
  cases typed with
  | component | list => exact SourceUnit.Grows.refl [] _
  | declared _ _ claimed rendered =>
      exact SourceUnit.claimed_grows _ _ _ _ _ claimed (rendered_grows components _ _ _ rendered)

theorem body_typed_grows (components : Components) (operation : String) (schema : Option Schema)
    (body : Option Payload) (before after : SourceUnit)
    (typed : BodyTyped components operation schema before body after) : before.Grows [] after := by
  cases typed with
  | none => exact SourceUnit.Grows.refl [] before
  | some typed => exact payload_typed_grows components operation "Request" _ _ before after typed

-- The options are declared long after their name was claimed.
theorem option_claimed_grows (operation : String) (query : List Parameter) (option : Option String)
    (given : List String) (before middle after : SourceUnit)
    (claimed : OptionClaimed operation query before option middle) (grows : middle.Grows (option.toList ++ given) after) :
    before.Grows given after := by
  cases claimed with
  | none => exact grows
  | some _ claimed => exact SourceUnit.claimed_grows before middle after _ _ claimed grows

theorem constructed_grows (components : Components) (operation option : String) (names : Names)
    (query : List Parameter) (before after : SourceUnit)
    (constructed : Constructed components operation option names query before after) : before.Grows [] after := by
  induction constructed with
  | none => exact SourceUnit.Grows.refl [] _
  | next _ typed _ ih =>
      exact ((parameter_typed_grows components _ _ _ _ _ typed).trans (SourceUnit.push_grows _ [] _)).trans ih

theorem options_declared_grows (components : Components) (operation : String) (query : List Parameter)
    (option : Option String) (before after : SourceUnit)
    (declared : OptionsDeclared components operation query option before after) :
    before.Grows option.toList after := by
  cases declared with
  | none => exact SourceUnit.Grows.refl _ before
  | some declared constructed =>
      have last := constructed_grows components operation _ {} query _ after constructed
      exact (SourceUnit.declare_grows _ _ _ declared).trans (last.free _)

theorem not_found_grows (before after : SourceUnit) (declared : NotFoundDeclared before after) :
    before.Grows [notFoundName] after := by
  cases declared with
  | known => exact SourceUnit.Grows.refl _ before
  | new _ declared => exact (SourceUnit.declare_grows _ _ _ declared).trans (SourceUnit.push_grows _ _ _)

theorem response_searched_grows (components : Components) (operation : String) (s : Schema) (response : Payload)
    (before after : SourceUnit) (searched : ResponseSearched components operation s response before after) :
    before.Grows [notFoundName] after := by
  cases searched with
  | skipped => exact SourceUnit.Grows.refl _ before
  | searched _ _ finder =>
      cases finder with
      | none => exact SourceUnit.Grows.refl _ before
      | found _ _ error => exact (not_found_grows _ _ error).trans (SourceUnit.push_grows _ _ _)

theorem method_grows (components : Components) {operation : String} {bound : List BoundParameter}
    {inPath : List Variable} {schema : Option Schema} {body : Option Payload} {query : List Parameter}
    {option : Option String} {s : Schema} {response : Payload} {method : Function}
    {before first second third fourth after : SourceUnit}
    (pathTyped : PathTyped components operation bound before inPath first)
    (bodyTyped : BodyTyped components operation schema first body second)
    (optionClaimed : OptionClaimed operation query second option third)
    (responseTyped : PayloadTyped components operation "Response" s third response fourth)
    (optionsDeclared : OptionsDeclared components operation query option (fourth.push method) after) :
    before.Grows [] after := by
  have path := path_typed_grows components _ _ _ _ _ pathTyped
  have body := body_typed_grows components _ _ _ _ _ bodyTyped
  have response := payload_typed_grows components _ _ _ _ _ _ responseTyped
  have options := options_declared_grows components _ _ _ _ _ optionsDeclared
  have declared := (response.free _).trans ((SourceUnit.push_grows _ _ _).trans options)
  have opened := option_claimed_grows _ _ _ [] _ _ _ optionClaimed (by rwa [List.append_nil])
  exact (path.trans body).trans opened

theorem compiled_grows (components : Components) (earlier : List String) (entry : Document.Entry)
    (before after : SourceUnit) (outcome : Outcome)
    (compiled : Compiled components earlier entry before outcome after) : before.Grows [notFoundName] after := by
  cases compiled with
  | skipped => exact SourceUnit.Grows.refl _ before
  | emitted _ _ _ pathTyped bodyTyped optionClaimed responseTyped _ optionsDeclared searched =>
      have method := method_grows components pathTyped bodyTyped optionClaimed responseTyped optionsDeclared
      exact (method.free _).trans (response_searched_grows components _ _ _ _ _ searched)

end ApiBindings
