import ApiBindings.Proofs.Operation.Growth
import ApiBindings.Proofs.Rendering.Mention
set_option autoImplicit false

namespace ApiBindings

def clientTypes : List String := ["context.Context", "url.Values", "error", "Client"]

theorem function_within (scope : Scope) (f : Function)
    (receiver : ∀ slot ∈ f.receiver, slot.type.Within scope)
    (parameters : ∀ slot ∈ f.parameters, slot.type.Within scope)
    (results : ∀ type ∈ f.results, type.Within scope) (body : ∀ type ∈ f.body.types, type.Within scope) :
    f.Within scope := by
  intro type member
  rcases List.mem_append.mp member with signature | inBody
  · rcases List.mem_append.mp signature with received | typed
    · obtain ⟨slot, given, rfl⟩ := Option.map_eq_some_iff.mp (Option.mem_toList.mp received)
      exact receiver slot given
    · rcases List.mem_append.mp typed with taken | returned
      · obtain ⟨slot, listed, rfl⟩ := List.mem_map.mp taken
        exact parameters slot listed
      · exact results type returned
  · exact body type inBody

theorem option_declares (components : Components) (operation : String) (query : List Parameter) (option : Option String)
    (before after : SourceUnit) (declared : OptionsDeclared components operation query option before after) :
    ∀ name ∈ option, after.Declares name := by
  intro name given
  cases declared with
  | none => exact absurd given (Option.not_mem_none _)
  | some declared constructed =>
      obtain rfl := Option.some.inj given
      obtain ⟨stored, member, named, _⟩ := SourceUnit.declare_declares _ _ _ declared
      exact ⟨stored, (constructed_grows components _ _ _ _ _ _ constructed).keep stored member, named⟩

theorem option_claimed_keeps (operation : String) (query : List Parameter) (option : Option String)
    (before after : SourceUnit) (claimed : OptionClaimed operation query before option after) :
    ∀ d ∈ before.declarations, d ∈ after.declarations := by
  cases claimed with
  | none => exact fun d member => member
  | some _ claimed => exact (SourceUnit.claim_grows _ _ _ _ claimed).1.keep

theorem option_claimed_within (scope : Scope) (operation : String) (query : List Parameter) (option : Option String)
    (before after : SourceUnit) (claimed : OptionClaimed operation query before option after)
    (within : before.Within scope) : after.Within scope := by
  cases claimed with
  | none => exact within
  | some _ claimed => exact SourceUnit.claim_within scope _ _ _ _ claimed within

section

variable (components : Components) (unit : SourceUnit) (scope : Scope) (client : ∀ name ∈ clientTypes, scope name)
  (known : ∀ name, Known components unit name → scope name)

include known

theorem string_within : (TypeExpr.named "string").Within scope :=
  TypeExpr.within_named _ _ (known _ (Or.inl (by decide)))

theorem parameter_typed_within (hint : String) (s : Option Schema) (type : TypeExpr) (before after : SourceUnit)
    (typed : ParameterTyped components hint s before type after) (within : before.Within scope)
    (kept : ∀ d ∈ after.declarations, d ∈ unit.declarations) : after.Within scope ∧ type.Within scope := by
  cases typed with
  | given rendered => exact rendered_within components unit scope known _ before after rendered within kept
  | text => exact ⟨within, string_within components unit scope known⟩

theorem path_typed_within (operation : String) (bound : List BoundParameter) (inPath : List Variable)
    (before after : SourceUnit) (typed : PathTyped components operation bound before inPath after)
    (within : before.Within scope) (kept : ∀ d ∈ after.declarations, d ∈ unit.declarations) :
    after.Within scope ∧ ∀ slot ∈ inPath, slot.type.Within scope := by
  induction typed with
  | none => exact ⟨within, List.forall_mem_nil _⟩
  | next typed later ih =>
      have grows := path_typed_grows components operation _ _ _ _ later
      obtain ⟨middle, type⟩ := parameter_typed_within components unit scope known _ _ _ _ _ typed within
        (fun d member => kept d (grows.keep d member))
      obtain ⟨final, others⟩ := ih middle kept
      refine ⟨final, fun slot member => ?_⟩
      rcases List.mem_cons.mp member with same | rest
      · rw [same]
        exact type
      · exact others slot rest

theorem payload_typed_within (operation role : String) (s : Schema) (result : Payload) (before after : SourceUnit)
    (typed : PayloadTyped components operation role s before result after) (within : before.Within scope)
    (kept : ∀ d ∈ after.declarations, d ∈ unit.declarations) : after.Within scope ∧ result.type.Within scope := by
  cases typed with
  | component _ named => exact ⟨within, reference_within components unit scope known _ _ named⟩
  | list _ _ named => exact ⟨within, reference_within components unit scope known _ _ named⟩
  | declared _ _ claimed rendered =>
      have start := SourceUnit.claim_within _ _ _ _ _ claimed within
      obtain ⟨final, _⟩ := rendered_within components unit scope known _ _ _ rendered start kept
      obtain ⟨stored, member, named⟩ := declaration_declares components _ _ _ _ _ rendered
      exact ⟨final, declared_within components unit scope known _ ⟨stored, kept stored member, named⟩⟩

theorem body_typed_within (operation : String) (schema : Option Schema) (body : Option Payload)
    (before after : SourceUnit) (typed : BodyTyped components operation schema before body after)
    (within : before.Within scope) (kept : ∀ d ∈ after.declarations, d ∈ unit.declarations) :
    after.Within scope ∧ ∀ payload ∈ body, payload.type.Within scope := by
  cases typed with
  | none => exact ⟨within, fun _ member => absurd member (Option.not_mem_none _)⟩
  | some typed =>
      obtain ⟨final, type⟩ := payload_typed_within components unit scope known operation "Request" _ _ _ _ typed within kept
      refine ⟨final, fun payload member => ?_⟩
      rwa [← Option.some.inj member]

theorem constructed_within (operation option : String) (names : Names) (query : List Parameter)
    (before after : SourceUnit) (constructed : Constructed components operation option names query before after)
    (within : before.Within scope) (kept : ∀ d ∈ after.declarations, d ∈ unit.declarations)
    (optionKnown : (TypeExpr.named option).Within scope) : after.Within scope := by
  induction constructed with
  | none => exact within
  | next _ typed later ih =>
      have grows := constructed_grows components operation option _ _ _ _ later
      obtain ⟨middle, type⟩ := parameter_typed_within components unit scope known _ _ _ _ _ typed within
        (fun d member => kept d (grows.keep d member))
      refine ih (SourceUnit.push_within scope _ _ middle ?_) kept
      refine function_within scope _ (fun _ given => absurd given (Option.not_mem_none _)) ?_ (single_within _ _ optionKnown)
        (List.forall_mem_nil _)
      intro slot member
      rw [List.mem_singleton.mp member]
      exact type

include client

theorem options_declared_within (operation : String) (query : List Parameter) (option : Option String)
    (before after : SourceUnit) (declared : OptionsDeclared components operation query option before after)
    (within : before.Within scope) (kept : ∀ d ∈ after.declarations, d ∈ unit.declarations) : after.Within scope := by
  cases declared with
  | none => exact within
  | @some name _ middle _ declared constructed =>
      obtain ⟨stored, member, named⟩ :=
        option_declares components operation query (some name) before after (.some declared constructed) name rfl
      have optionKnown := declared_within components unit scope known name ⟨stored, kept stored member, named⟩
      have values : (TypeExpr.named "url.Values").Within scope :=
        TypeExpr.within_named _ _ (client _ (by decide))
      have start := SourceUnit.declare_within scope before middle _ declared within (single_within scope _ values)
      exact constructed_within components unit scope known operation name {} query middle after constructed start kept
        optionKnown

omit client in
theorem item_type_within (list : TypeExpr) (items : Schema) (type : TypeExpr) (within : list.Within scope)
    (typed : itemType components list items = .ok (some type)) : type.Within scope := by
  unfold itemType at typed
  split at typed
  next item =>
    rw [← Option.some.inj (Except.ok.inj typed)]
    exact within
  next =>
    split at typed
    next path _ =>
      cases named : components.typeName path with
      | error defect => simp [named, Except.map] at typed
      | ok name =>
          simp only [named, Except.map, Except.ok.injEq, Option.some.injEq] at typed
          rw [← typed]
          exact reference_within components unit scope known path name named
    next => cases typed
  next => cases typed

omit client in
theorem not_found_within (before after : SourceUnit) (declared : NotFoundDeclared before after)
    (within : before.Within scope) (kept : ∀ d ∈ after.declarations, d ∈ unit.declarations) :
    after.Within scope ∧ (TypeExpr.named notFoundName).Within scope := by
  have text := string_within components unit scope known
  cases declared with
  | known present =>
      obtain ⟨d, found⟩ := Option.isSome_iff_exists.mp present
      obtain ⟨member, named⟩ := SourceUnit.find_some before notFoundName d found
      exact ⟨within, declared_within components unit scope known _ ⟨d, kept d member, named⟩⟩
  | new _ declared =>
      obtain ⟨stored, member, named, _⟩ := SourceUnit.declare_declares _ _ _ declared
      have error := declared_within components unit scope known notFoundName ⟨stored, kept stored member, named⟩
      refine ⟨SourceUnit.push_within scope _ _ (SourceUnit.declare_within scope _ _ _ declared within ?_) ?_, error⟩
      · intro type member
        rcases List.mem_cons.mp member with same | same
        · rwa [same]
        · rwa [List.mem_singleton.mp same]
      · refine function_within scope _ ?_ (List.forall_mem_nil _) (single_within scope _ text)
          (List.forall_mem_nil _)
        intro slot given
        rw [← Option.some.inj given]
        exact error

theorem response_searched_within (operation : String) (s : Schema) (response : Payload) (before after : SourceUnit)
    (searched : ResponseSearched components operation s response before after) (within : before.Within scope)
    (kept : ∀ d ∈ after.declarations, d ∈ unit.declarations) : after.Within scope := by
  cases searched with
  | skipped => exact within
  | @searched name _ _ _ _ finder =>
      cases finder with
      | none => exact within
      | @found doc fields other plan _ middle record planned error =>
          obtain ⟨final, notFound⟩ := not_found_within components unit scope known before middle error within kept
          obtain ⟨member, named⟩ := SourceUnit.find_some before name _ record
          have received := declared_within components unit scope known name
            ⟨_, kept _ ((not_found_grows before middle error).keep _ member), named⟩
          have item : plan.item.Within scope := by
            cases planned with
            | found _ _ _ _ _ field typed =>
                have listed := List.mem_map_of_mem (f := Field.type) (List.mem_of_find?_eq_some field)
                exact item_type_within components unit scope known _ _ _ (within.declarations _ member _ listed) typed
          have failure : (TypeExpr.named "error").Within scope := TypeExpr.within_named _ _ (client _ (by decide))
          refine SourceUnit.push_within scope middle _ final (function_within scope _ ?_ ?_ ?_ ?_)
          · intro slot given
            rw [← Option.some.inj given]
            exact received
          · intro slot listed
            rw [List.mem_singleton.mp listed]
            exact string_within components unit scope known
          · intro type listed
            rcases List.mem_cons.mp listed with same | same
            · rw [same]
              exact TypeExpr.within_pointer scope plan.item item
            · rwa [List.mem_singleton.mp same]
          · exact single_within scope _ notFound

omit known in
theorem client_method_within (entry : Document.Entry) (path : PathExpr) (inPath : List Variable) (body : Option Payload)
    (option : Option String) (response : Payload) (pathKnown : ∀ slot ∈ inPath, slot.type.Within scope)
    (bodyKnown : ∀ payload ∈ body, payload.type.Within scope)
    (optionKnown : ∀ name ∈ option, (TypeExpr.named name).Within scope) (responseKnown : response.type.Within scope) :
    (clientMethod entry path inPath body option response).Within scope := by
  have clientType : ∀ name ∈ clientTypes, (TypeExpr.named name).Within scope := fun name member =>
    TypeExpr.within_named scope name (client name member)
  refine function_within scope _ ?_ ?_ ?_ (single_within scope _ responseKnown)
  · intro slot given
    rw [← Option.some.inj given]
    exact clientType "Client" (by decide)
  · intro slot listed
    rcases List.mem_append.mp listed with listed | inQuery
    · rcases List.mem_append.mp listed with listed | inBody
      · rcases List.mem_cons.mp listed with same | listed
        · rw [same]
          exact clientType "context.Context" (by decide)
        · exact pathKnown slot listed
      · cases body with
        | none => exact absurd inBody List.not_mem_nil
        | some payload =>
            rw [List.mem_singleton.mp inBody]
            dsimp only
            split
            · exact TypeExpr.within_pointer scope payload.type (bodyKnown payload rfl)
            · exact bodyKnown payload rfl
    · cases option with
      | none => exact absurd inQuery List.not_mem_nil
      | some name =>
          rw [List.mem_singleton.mp inQuery]
          exact optionKnown name rfl
  · intro type listed
    rcases List.mem_cons.mp listed with same | same
    · rw [same]
      unfold ResponseBinding.result
      split
      · exact TypeExpr.within_pointer scope response.type responseKnown
      · exact responseKnown
    · rw [List.mem_singleton.mp same]
      exact clientType "error" (by decide)

theorem compiled_within (earlier : List String) (entry : Document.Entry) (before after : SourceUnit)
    (outcome : Outcome) (compiled : Compiled components earlier entry before outcome after)
    (within : before.Within scope) (kept : ∀ d ∈ after.declarations, d ∈ unit.declarations) : after.Within scope := by
  cases compiled with
  | skipped => exact within
  | @emitted _ _ inPath body option response path _ first second third fourth fifth _ _ _ _ pathTyped bodyTyped
      optionClaimed responseTyped _ optionsDeclared searched =>
      have bodyGrows := body_typed_grows components _ _ _ _ _ bodyTyped
      have responseGrows := payload_typed_grows components _ _ _ _ _ _ responseTyped
      have optionsGrow := options_declared_grows components _ _ _ _ _ optionsDeclared
      have finderGrows := response_searched_grows components _ _ _ _ _ searched
      have inFifth : ∀ d ∈ fifth.declarations, d ∈ unit.declarations := fun d member =>
        kept d (finderGrows.keep d member)
      have inFourth : ∀ d ∈ fourth.declarations, d ∈ unit.declarations := fun d member =>
        inFifth d (optionsGrow.keep d member)
      have inSecond : ∀ d ∈ second.declarations, d ∈ unit.declarations := fun d member =>
        inFourth d (responseGrows.keep d (option_claimed_keeps _ _ _ second third optionClaimed d member))
      obtain ⟨firstWithin, pathKnown⟩ := path_typed_within components unit scope known _ _ _ before first pathTyped within
        (fun d member => inSecond d (bodyGrows.keep d member))
      obtain ⟨secondWithin, bodyKnown⟩ :=
        body_typed_within components unit scope known _ _ _ first second bodyTyped firstWithin inSecond
      have thirdWithin := option_claimed_within scope _ _ _ second third optionClaimed secondWithin
      obtain ⟨fourthWithin, responseKnown⟩ :=
        payload_typed_within components unit scope known _ _ _ _ third fourth responseTyped thirdWithin inFourth
      have optionKnown : ∀ name ∈ option, (TypeExpr.named name).Within scope := by
        intro name given
        obtain ⟨stored, member, named⟩ := option_declares components _ _ _ _ _ optionsDeclared name given
        exact declared_within components unit scope known name ⟨stored, inFifth stored member, named⟩
      have method := client_method_within scope client entry path inPath body option response pathKnown bodyKnown
        optionKnown responseKnown
      have fifthWithin := options_declared_within components unit scope client known _ _ _ _ fifth optionsDeclared
        (SourceUnit.push_within scope fourth _ fourthWithin method) inFifth
      exact response_searched_within components unit scope client known _ _ _ fifth after searched fifthWithin kept

end

end ApiBindings
