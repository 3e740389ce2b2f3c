import ApiBindings.Proofs.Except
import ApiBindings.Proofs.Operation.Growth
set_option autoImplicit false

namespace ApiBindings

namespace SourceUnit

def Finds (unit : SourceUnit) : Prop := ∃ f ∈ unit.functions, ∃ finder, f.body = .finder finder

-- Holds from the start of the operations on if the name is taken there. Where it
-- is free, an operation can claim it for a type of its own, and a finder then
-- takes that type for the error.
structure Balanced (unit : SourceUnit) : Prop where
  taken : notFoundName ∈ unit.names.taken
  declared : unit.Declares notFoundName ↔ unit.Finds

theorem Grows.finds {given : List String} {before after : SourceUnit} (grows : before.Grows given after)
    (finds : before.Finds) : after.Finds := by
  obtain ⟨f, member, finder⟩ := finds
  exact ⟨f, grows.functions.subset member, finder⟩

-- A name that is taken and was not given can only have been declared before.
theorem taken_declared (before after : SourceUnit) (grows : before.Grows [] after) (name : String)
    (taken : name ∈ before.names.taken) (declared : after.Declares name) : before.Declares name := by
  obtain ⟨d, member, rfl⟩ := declared
  rcases grows.fresh d member with old | named | ⟨free, _⟩
  · exact ⟨d, old, rfl⟩
  · exact absurd named List.not_mem_nil
  · exact absurd taken free

theorem balanced_kept (before after : SourceUnit) (grows : before.Grows [] after)
    (finds : after.Finds → before.Finds) (balanced : before.Balanced) : after.Balanced := by
  refine ⟨grows.taken notFoundName balanced.taken, fun declared => ?_, fun found => ?_⟩
  · have first := taken_declared before after grows notFoundName balanced.taken declared
    exact grows.finds (balanced.declared.mp first)
  · exact grows.declares notFoundName (balanced.declared.mpr (finds found))

end SourceUnit

theorem parameter_typed_functions (components : Components) (hint : String) (s : Option Schema) (type : TypeExpr)
    (before after : SourceUnit) (typed : ParameterTyped components hint s before type after) :
    after.functions = before.functions := by
  cases typed with
  | given rendered => exact rendered_functions components _ before after rendered
  | text => rfl

theorem path_typed_functions (components : Components) (operation : String) (bound : List BoundParameter)
    (inPath : List Variable) (before after : SourceUnit)
    (typed : PathTyped components operation bound before inPath after) : after.functions = before.functions := by
  induction typed with
  | none => rfl
  | next typed _ ih => rw [ih, parameter_typed_functions components _ _ _ _ _ typed]

theorem payload_typed_functions (components : Components) (operation role : String) (s : Schema) (result : Payload)
    (before after : SourceUnit) (typed : PayloadTyped components operation role s before result after) :
    after.functions = before.functions := by
  cases typed with
  | component | list => rfl
  | declared _ _ claimed rendered =>
      rw [rendered_functions components _ _ _ rendered, SourceUnit.claim_functions _ _ _ _ claimed]

theorem body_typed_functions (components : Components) (operation : String) (schema : Option Schema)
    (body : Option Payload) (before after : SourceUnit)
    (typed : BodyTyped components operation schema before body after) : after.functions = before.functions := by
  cases typed with
  | none => rfl
  | some typed => exact payload_typed_functions components operation "Request" _ _ before after typed

theorem option_claimed_functions (operation : String) (query : List Parameter) (option : Option String)
    (before after : SourceUnit) (claimed : OptionClaimed operation query before option after) :
    after.functions = before.functions := by
  cases claimed with
  | none => rfl
  | some _ claimed => exact SourceUnit.claim_functions before after _ _ claimed

theorem payloads_functions (components : Components) {operation : String} {bound : List BoundParameter}
    {inPath : List Variable} {schema : Option Schema} {body : Option Payload} {query : List Parameter}
    {option : Option String} {s : Schema} {response : Payload} {before first second third fourth : SourceUnit}
    (pathTyped : PathTyped components operation bound before inPath first)
    (bodyTyped : BodyTyped components operation schema first body second)
    (optionClaimed : OptionClaimed operation query second option third)
    (responseTyped : PayloadTyped components operation "Response" s third response fourth) :
    fourth.functions = before.functions := by
  rw [payload_typed_functions components _ _ _ _ _ _ responseTyped, option_claimed_functions _ _ _ _ _ optionClaimed,
    body_typed_functions components _ _ _ _ _ bodyTyped, path_typed_functions components _ _ _ _ _ pathTyped]

theorem constructed_functions (components : Components) (operation option : String) (names : Names)
    (query : List Parameter) (before after : SourceUnit)
    (constructed : Constructed components operation option names query before after) :
    ∀ f ∈ after.functions, f ∈ before.functions ∨
      ∃ suffix parameter type, f = optionConstructor operation option suffix parameter type := by
  induction constructed with
  | none => exact fun f member => Or.inl member
  | next _ typed _ ih =>
      intro f member
      rcases ih f member with earlier | later
      · rcases List.mem_append.mp earlier with old | new
        · exact Or.inl (parameter_typed_functions components _ _ _ _ _ typed ▸ old)
        · exact Or.inr ⟨_, _, _, List.mem_singleton.mp new⟩
      · exact Or.inr later

theorem options_declared_finders (components : Components) (operation : String) (query : List Parameter)
    (option : Option String) (before after : SourceUnit)
    (declared : OptionsDeclared components operation query option before after) (f : Function) (finder : Finder)
    (body : f.body = .finder finder) (member : f ∈ after.functions) : f ∈ before.functions := by
  cases declared with
  | none => exact member
  | some declared constructed =>
      rcases constructed_functions components _ _ _ _ _ _ constructed f member with old | ⟨suffix, parameter, type, rfl⟩
      · exact SourceUnit.declare_functions _ _ _ declared ▸ old
      · cases body

theorem method_finders (components : Components) {operation : String} {bound : List BoundParameter}
    {inPath : List Variable} {schema : Option Schema} {body : Option Payload} {query : List Parameter}
    {option : Option String} {s : Schema} {response : Payload} {entry : Document.Entry} {path : PathExpr}
    {before first second third fourth after : SourceUnit}
    (pathTyped : PathTyped components operation bound before inPath first)
    (bodyTyped : BodyTyped components operation schema first body second)
    (optionClaimed : OptionClaimed operation query second option third)
    (responseTyped : PayloadTyped components operation "Response" s third response fourth)
    (optionsDeclared : OptionsDeclared components operation query option
      (fourth.push (clientMethod entry path inPath body option response)) after)
    (f : Function) (finder : Finder) (searches : f.body = .finder finder) (member : f ∈ after.functions) :
    f ∈ before.functions := by
  have pushed := options_declared_finders components _ _ _ _ _ optionsDeclared f finder searches member
  rcases List.mem_append.mp pushed with old | new
  · exact payloads_functions components pathTyped bodyTyped optionClaimed responseTyped ▸ old
  · rw [List.mem_singleton.mp new] at searches
    cases searches

theorem finder_declared_balanced (components : Components) (operation responseName : String) (response : Schema)
    (before after : SourceUnit)
    (declared : FinderDeclared components operation responseName response before after) (balanced : before.Balanced) :
    after.Balanced := by
  cases declared with
  | none => exact balanced
  | @found _ _ _ plan _ middle _ _ error =>
      have grows := (not_found_grows before middle error).trans
        (SourceUnit.push_grows middle _ (finderMethod responseName plan))
      have present : middle.Declares notFoundName := by
        cases error with
        | known present => exact SourceUnit.find_declares before notFoundName present
        | new _ declared =>
            obtain ⟨stored, member, named, _⟩ := SourceUnit.declare_declares _ _ _ declared
            exact ⟨stored, member, named⟩
      have finds : (middle.push (finderMethod responseName plan)).Finds :=
        ⟨_, List.mem_append_right _ (List.mem_singleton_self _), plan.finder, rfl⟩
      exact ⟨grows.taken notFoundName balanced.taken, ⟨fun _ => finds, fun _ => present⟩⟩

theorem compiled_balanced (components : Components) (earlier : List String) (entry : Document.Entry)
    (before after : SourceUnit) (outcome : Outcome)
    (compiled : Compiled components earlier entry before outcome after) (balanced : before.Balanced) :
    after.Balanced := by
  cases compiled with
  | skipped => exact balanced
  | @emitted _ _ _ _ _ _ _ _ first second third fourth fifth _ _ _ _ pathTyped bodyTyped optionClaimed responseTyped _
      optionsDeclared searched =>
      have grows := method_grows components pathTyped bodyTyped optionClaimed responseTyped optionsDeclared
      have finds : fifth.Finds → before.Finds := by
        rintro ⟨f, member, finder, searches⟩
        have old := method_finders components pathTyped bodyTyped optionClaimed responseTyped optionsDeclared f finder
          searches member
        exact ⟨f, old, finder, searches⟩
      have method := SourceUnit.balanced_kept before fifth grows finds balanced
      cases searched with
      | skipped => exact method
      | searched _ _ finder => exact finder_declared_balanced components _ _ _ _ _ finder method

theorem payload_declared (components : Components) (operation role : String) (s : Schema) (result : Payload)
    (before after : SourceUnit) (typed : PayloadTyped components operation role s before result after) (name : String)
    (declared : result.declared = some name) :
    result.type = .named name ∧
      ∃ start, Rendered components (.declaration (Guard.enter {} s name) name s) start after := by
  cases typed with
  | component | list => cases declared
  | declared _ _ _ rendered =>
      obtain rfl := Option.some.inj declared
      exact ⟨rfl, _, rendered⟩

structure Found (components : Components) (unit : SourceUnit) (entry : Document.Entry) (response : Schema) (name : String)
    (fields : List Field) (plan : FinderPlan) : Prop where
  responded : entry.operation.responseSchema = some response
  returned : ∃ method ∈ unit.functions, method.name = entry.name ∧
    method.results = [.pointer (.named name), .named "error"]
  record : ∃ d ∈ unit.declarations, d.name = name ∧ d.shape = .record fields
  rendered : ∃ before after, Rendered components (.declaration (Guard.enter {} response name) name response) before after ∧
    ∀ d ∈ after.declarations, d ∈ unit.declarations
  planned : FinderPlanned components fields response plan

theorem found_kept (components : Components) (given : List String) (before after : SourceUnit)
    (grows : before.Grows given after) (entry : Document.Entry) (response : Schema) (name : String) (fields : List Field)
    (plan : FinderPlan) (found : Found components before entry response name fields plan) :
    Found components after entry response name fields plan := by
  obtain ⟨responded, ⟨method, listed, results⟩, ⟨d, member, shape⟩, ⟨start, last, rendered, kept⟩, planned⟩ := found
  exact ⟨responded, ⟨method, grows.functions.subset listed, results⟩, ⟨d, grows.keep d member, shape⟩,
    ⟨start, last, rendered, fun d member => grows.keep d (kept d member)⟩, planned⟩

theorem compiled_finders (components : Components) (earlier : List String) (entry : Document.Entry)
    (before after : SourceUnit) (outcome : Outcome)
    (compiled : Compiled components earlier entry before outcome after) (f : Function) (finder : Finder)
    (searches : f.body = .finder finder) (member : f ∈ after.functions) :
    f ∈ before.functions ∨ ∃ response name fields plan, f = finderMethod name plan ∧
      Found components after entry response name fields plan := by
  cases compiled with
  | skipped => exact Or.inl member
  | @emitted s _ inPath body option response path _ first second third fourth fifth _ _ responded _ pathTyped bodyTyped
      optionClaimed responseTyped _ optionsDeclared searched =>
      have old := method_finders components pathTyped bodyTyped optionClaimed responseTyped optionsDeclared f finder searches
      have grows := response_searched_grows components _ _ _ _ _ searched
      have options := options_declared_grows components _ _ _ _ _ optionsDeclared
      cases searched with
      | skipped => exact Or.inl (old member)
      | @searched name _ _ declared record searched =>
          cases searched with
          | none => exact Or.inl (old member)
          | @found _ fields _ plan _ middle located planned error =>
              rcases List.mem_append.mp member with early | new
              · cases error with
                | known => exact Or.inl (old early)
                | new _ added =>
                    rcases List.mem_append.mp early with first | message
                    · exact Or.inl (old (SourceUnit.declare_functions _ _ _ added ▸ first))
                    · rw [List.mem_singleton.mp message] at searches
                      cases searches
              · obtain rfl := List.mem_singleton.mp new
                obtain ⟨typed, start, rendered⟩ := payload_declared components _ _ _ _ _ _ responseTyped name declared
                obtain ⟨listed, named⟩ := SourceUnit.find_some _ _ _ located
                have pushed := options.functions.subset (List.mem_append_right _ List.mem_cons_self)
                refine Or.inr ⟨s, name, fields, plan, rfl, responded, ⟨_, grows.functions.subset pushed, rfl, ?_⟩,
                  ⟨_, grows.keep _ listed, named, rfl⟩, ⟨start, fourth, rendered, ?_⟩, planned⟩
                · simp [clientMethod, ResponseBinding.result, record, typed, TypeExpr.toPointer]
                · exact fun d member => grows.keep d (options.keep d member)

def Shape.isText : Shape → Bool
  | .scalar type => type = .string
  | _ => false

def Shape.isBytes : Shape → Bool
  | .scalar type => type = .bytes
  | _ => false

theorem finder_field_some (components : Components) (item : Schema) (names : List (String × String)) (wire : String)
    (read : FinderField) (found : finderField components item names wire = .ok (some read)) :
    ∃ own property name direct shape, item.properties = some own ∧ own.lookup wire = some property ∧
      names.lookup wire = some name ∧ property.effective = .ok direct ∧ components.targetShape property = .ok shape ∧
      shape.isSimple = true ∧ read =
        { name, pointer := !item.requires wire && !shape.isBytes, isString := direct.ref.isNone && shape.isText } := by
  unfold finderField at found
  split at found
  next property name listed named =>
    obtain ⟨direct, bare, found⟩ := except_bind_ok _ _ _ found
    obtain ⟨shape, shaped, found⟩ := except_bind_ok _ _ _ found
    obtain ⟨own, held⟩ : ∃ own, item.properties = some own := by
      cases held : item.properties with
      | some own => exact ⟨own, rfl⟩
      | none =>
          rw [held] at listed
          cases listed
    rw [held] at listed
    refine ⟨own, property, name, direct, shape, held, listed, named, bare, shaped, ?_⟩
    cases shape with
    | scalar type => exact ⟨rfl, (Option.some.inj (Except.ok.inj found)).symm⟩
    | enumeration type values =>
        refine ⟨rfl, ?_⟩
        simpa [Shape.isBytes, Shape.isText] using (Option.some.inj (Except.ok.inj found)).symm
    | array | object | map => cases found
  next => cases found

end ApiBindings
