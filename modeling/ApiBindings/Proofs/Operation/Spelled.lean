import ApiBindings.Proofs.Data.Dictionary
import ApiBindings.Proofs.Operation.Declarations
import ApiBindings.Proofs.Operation.Finder
import ApiBindings.Proofs.Rendering.Spelled
set_option autoImplicit false

namespace ApiBindings

theorem claimed_word (names others : Names) (base name : String) (claimed : names.claim base = (name, others))
    (word : Naming.Word base) : Naming.Word name := by
  obtain ⟨number, chars, extended⟩ := Names.claim_extends names base
  obtain rfl : name = base ++ number := by rw [← extended, claimed]
  exact Naming.word_append _ _ word chars

theorem bound_idents_claimed (names : Names) (parameters : List Parameter) :
    ∀ b ∈ bindPathParameters names parameters, ∃ earlier : Names, b.ident = (earlier.claim (Naming.localName b.wire)).1 := by
  induction parameters generalizing names with
  | nil => exact List.forall_mem_nil _
  | cons parameter rest ih =>
      unfold bindPathParameters
      split
      next => exact List.forall_mem_cons.mpr ⟨⟨names, rfl⟩, ih _⟩
      next => exact ih names

theorem bound_idents_words (names : Names) (parameters : List Parameter) :
    ∀ b ∈ bindPathParameters names parameters, Naming.Word b.ident := by
  intro b member
  obtain ⟨earlier, claimed⟩ := bound_idents_claimed names parameters b member
  exact claimed_word earlier _ _ _ (Prod.ext claimed.symm rfl) (Naming.local_name_word _)

theorem find_bound_member (bound : List BoundParameter) (placeholder : String) (b : BoundParameter)
    (found : findBound bound placeholder = some b) : b ∈ bound := by
  unfold findBound at found
  rcases Option.or_eq_some_iff.mp found with exact | ⟨_, loose⟩
  · exact List.mem_of_find?_eq_some exact
  · exact List.mem_of_find?_eq_some loose

theorem parts_arguments (template : String) (bound : List BoundParameter) (parts : List PathPart) (format : List Char)
    (arguments : List String) (made : PathExpr.ofParts template bound parts = .ok (format, arguments)) :
    ∀ argument ∈ arguments, ∃ b ∈ bound, b.ident = argument := by
  induction parts generalizing format arguments with
  | nil =>
      obtain ⟨_, rfl⟩ := Prod.mk.inj (Except.ok.inj made)
      exact List.forall_mem_nil _
  | cons part rest ih =>
      cases part with
      | unterminated => cases made
      | text chars =>
          unfold PathExpr.ofParts at made
          cases others : PathExpr.ofParts template bound rest with
          | error cause => simp [others, Except.map] at made
          | ok later =>
              rw [others] at made
              obtain ⟨_, rfl⟩ := Prod.mk.inj (Except.ok.inj made)
              exact ih later.1 later.2 others
      | placeholder chars =>
          unfold PathExpr.ofParts at made
          dsimp only at made
          split at made
          next => cases made
          next b found =>
            cases others : PathExpr.ofParts template bound rest with
            | error cause => simp [others, Except.map] at made
            | ok later =>
                rw [others] at made
                obtain ⟨_, rfl⟩ := Prod.mk.inj (Except.ok.inj made)
                intro argument member
                rcases List.mem_cons.mp member with rfl | inRest
                · exact ⟨b, find_bound_member _ _ _ found, rfl⟩
                · exact ih later.1 later.2 others argument inRest

theorem template_arguments (template : String) (bound : List BoundParameter) (path : PathExpr)
    (made : PathExpr.ofTemplate template bound = .ok path) : ∀ argument ∈ path.arguments, ∃ b ∈ bound, b.ident = argument := by
  unfold PathExpr.ofTemplate at made
  split at made
  next =>
    cases parts : PathExpr.ofParts template bound (PathPart.ofTemplate template.toList) with
    | error cause => simp [parts, Except.map] at made
    | ok result =>
        rw [parts] at made
        obtain rfl := Except.ok.inj made
        exact parts_arguments template bound _ result.1 result.2 parts
  next =>
    obtain rfl := Except.ok.inj made
    exact List.forall_mem_nil _

theorem path_typed_names (components : Components) (operation : String) (bound : List BoundParameter)
    (inPath : List Variable) (before after : SourceUnit)
    (typed : PathTyped components operation bound before inPath after) :
    inPath.map Variable.name = bound.map BoundParameter.ident := by
  induction typed with
  | none => rfl
  | next _ _ ih => rw [List.map_cons, List.map_cons, ih]

theorem path_typed_bound (components : Components) (operation : String) (bound : List BoundParameter)
    (inPath : List Variable) (before after : SourceUnit)
    (typed : PathTyped components operation bound before inPath after) : ∀ slot ∈ inPath, ∃ b ∈ bound, b.ident = slot.name := by
  intro slot member
  have named := List.mem_map_of_mem (f := Variable.name) member
  rw [path_typed_names components _ _ _ _ _ typed] at named
  exact List.mem_map.mp named

theorem client_method_spelled (entry : Document.Entry) (path : PathExpr) (inPath : List Variable) (body : Option Payload)
    (option : Option String) (response : Payload) (arguments : ∀ argument ∈ path.arguments, Naming.Word argument)
    (slots : ∀ slot ∈ inPath, Naming.Word slot.name) : (clientMethod entry path inPath body option response).Spelled := by
  refine ⟨operation_name_word entry, ?_, ?_, arguments, ?_, ?_⟩
  · intro slot given
    rw [← Option.some.inj given]
    exact ⟨by decide, by decide⟩
  · intro slot listed
    rcases List.mem_append.mp listed with listed | inQuery
    · rcases List.mem_append.mp listed with listed | inBody
      · rcases List.mem_cons.mp listed with same | listed
        · rw [same]
          exact ⟨by decide, by decide⟩
        · exact slots slot listed
      · cases body with
        | none => exact absurd inBody List.not_mem_nil
        | some payload =>
            rw [List.mem_singleton.mp inBody]
            exact (⟨by decide, by decide⟩ : Naming.Word "body")
    · cases option with
      | none => exact absurd inQuery List.not_mem_nil
      | some name =>
          rw [List.mem_singleton.mp inQuery]
          exact (⟨by decide, by decide⟩ : Naming.Word "opts")
  · intro name given
    obtain ⟨_, _, rfl⟩ := Option.map_eq_some_iff.mp given
    exact ⟨by decide, by decide⟩
  · intro name given
    obtain ⟨_, _, rfl⟩ := Option.map_eq_some_iff.mp given
    exact ⟨by decide, by decide⟩

theorem option_constructor_spelled (operation option suffix : String) (parameter : Parameter) (type : TypeExpr)
    (named : Naming.Word operation) (ended : Naming.Word suffix) :
    (optionConstructor operation option suffix parameter type).Spelled := by
  refine ⟨?_, fun _ given => absurd given (Option.not_mem_none _), fun slot listed => ?_, trivial⟩
  · exact Naming.word_append _ _ (Naming.word_append _ _ named (by decide)) ended.chars
  · rw [List.mem_singleton.mp listed]
    exact (⟨by decide, by decide⟩ : Naming.Word "v")

theorem constructed_spelled (components : Components) (operation option : String) (names : Names)
    (query : List Parameter) (before after : SourceUnit)
    (constructed : Constructed components operation option names query before after) (named : Naming.Word operation)
    (spelled : ∀ f ∈ before.functions, f.Spelled) : ∀ f ∈ after.functions, f.Spelled := by
  induction constructed with
  | none => exact spelled
  | next claimed typed _ ih =>
      refine ih fun f member => ?_
      rcases List.mem_append.mp member with old | new
      · exact spelled f (parameter_typed_functions components _ _ _ _ _ typed ▸ old)
      · rw [List.mem_singleton.mp new]
        exact option_constructor_spelled _ _ _ _ _ named (field_name_word _ _ _ _ claimed)

theorem field_names_words (names : Names) (properties : List (String × Schema)) :
    ∀ entry ∈ fieldNames names properties, Naming.Word entry.2 := by
  induction properties generalizing names with
  | nil => exact List.forall_mem_nil _
  | cons property rest ih =>
      intro entry member
      rcases List.mem_cons.mp member with rfl | later
      · exact field_name_word names _ _ _ rfl
      · exact ih _ entry later

theorem finder_field_named (components : Components) (item : Schema) (names : List (String × String)) (wire : String)
    (field : FinderField) (words : ∀ entry ∈ names, Naming.Word entry.2)
    (found : finderField components item names wire = .ok (some field)) : Naming.Word field.name := by
  obtain ⟨_, _, name, _, _, _, _, looked, _, _, _, rfl⟩ := finder_field_some components item names wire field found
  exact words (wire, name) (Data.lookup_mem wire name names looked)

theorem plan_finder_spelled (components : Components) (fields : List Field) (response : Schema) (plan : FinderPlan)
    (planned : FinderPlanned components fields response plan) (spelled : ∀ field ∈ fields, field.Spelled) :
    plan.finder.Spelled ∧ Naming.WordChars plan.singular := by
  cases planned with
  | @found _ item _ _ others first wire _ _ _ _ _ _ _ _ _ field _ named identified =>
      have words := field_names_words {} (first :: others)
      exact ⟨⟨(spelled _ (List.mem_of_find?_eq_some field)).name, finder_field_named components item _ _ _ words named,
        finder_field_named components item _ _ _ words identified⟩,
        Naming.singular_word_chars _ (Naming.pascal_word_chars wire)⟩

theorem not_found_spelled (before after : SourceUnit) (declared : NotFoundDeclared before after)
    (spelled : ∀ f ∈ before.functions, f.Spelled) : ∀ f ∈ after.functions, f.Spelled := by
  cases declared with
  | known => exact spelled
  | new _ declared =>
      intro f member
      rcases List.mem_append.mp member with old | new
      · exact spelled f (SourceUnit.declare_functions _ _ _ declared ▸ old)
      · rw [List.mem_singleton.mp new]
        refine ⟨⟨by decide, by decide⟩, fun slot given => ?_, fun _ listed => absurd listed List.not_mem_nil, trivial⟩
        rw [← Option.some.inj given]
        exact ⟨by decide, by decide⟩

theorem response_searched_spelled (components : Components) (operation : String) (s : Schema) (response : Payload)
    (before after : SourceUnit) (searched : ResponseSearched components operation s response before after)
    (declarations : ∀ d ∈ before.declarations, d.Spelled) (spelled : ∀ f ∈ before.functions, f.Spelled) :
    ∀ f ∈ after.functions, f.Spelled := by
  cases searched with
  | skipped => exact spelled
  | searched _ _ finder =>
      cases finder with
      | none => exact spelled
      | found record planned error =>
          have fields := (declarations _ (SourceUnit.find_some _ _ _ record).1).shape
          obtain ⟨finder, singular⟩ := plan_finder_spelled components _ _ _ planned fields
          intro f member
          rcases List.mem_append.mp member with old | new
          · exact not_found_spelled _ _ error spelled f old
          · rw [List.mem_singleton.mp new]
            refine ⟨Naming.word_append _ _ ⟨by decide, by decide⟩ singular, fun slot given => ?_, fun slot listed => ?_,
              finder⟩
            · rw [← Option.some.inj given]
              exact (⟨by decide, by decide⟩ : Naming.Word "r")
            · rw [List.mem_singleton.mp listed]
              exact ⟨by decide, by decide⟩

theorem compiled_declarations_spelled (components : Components) (earlier : List String) (entry : Document.Entry)
    (before after : SourceUnit) (outcome : Outcome)
    (compiled : Compiled components earlier entry before outcome after)
    (declarations : ∀ d ∈ before.declarations, d.Spelled) : ∀ d ∈ after.declarations, d.Spelled := by
  intro d member
  refine (compiled_adds components Naming.Word word_kept Declaration.Spelled ?_ earlier entry before after outcome
    compiled (operation_name_word entry) (fun name word => ⟨word, trivial⟩) ⟨⟨by decide, by decide⟩, ?_⟩ d member).elim
    (declarations d) id
  · intro guard name target shape start next doc named shaped
    exact ⟨named, shape_spelled components guard name target shape start next named shaped⟩
  · intro field listed
    rcases List.mem_cons.mp listed with rfl | listed
    · exact ⟨⟨by decide, by decide⟩, fun _ given => absurd given (Option.not_mem_none _)⟩
    · rw [List.mem_singleton.mp listed]
      exact ⟨⟨by decide, by decide⟩, fun _ given => absurd given (Option.not_mem_none _)⟩

theorem bound_method_spelled (components : Components) (entry : Document.Entry) (parameters : List Parameter)
    (inPath : List Variable) (body : Option Payload) (option : Option String) (response : Payload) (path : PathExpr)
    (before after : SourceUnit)
    (typed : PathTyped components entry.name (bindPathParameters {} parameters) before inPath after)
    (template : PathExpr.ofTemplate entry.path (bindPathParameters {} parameters) = .ok path) :
    (clientMethod entry path inPath body option response).Spelled := by
  have idents := bound_idents_words {} parameters
  refine client_method_spelled entry path inPath body option response (fun argument member => ?_) fun slot member => ?_
  · obtain ⟨b, listed, rfl⟩ := template_arguments _ _ _ template argument member
    exact idents b listed
  · obtain ⟨b, listed, same⟩ := path_typed_bound components _ _ _ _ _ typed slot member
    exact same ▸ idents b listed

theorem compiled_spelled (components : Components) (earlier : List String) (entry : Document.Entry)
    (before after : SourceUnit) (outcome : Outcome)
    (compiled : Compiled components earlier entry before outcome after) :
    (∀ d ∈ before.declarations, d.Spelled) → (∀ f ∈ before.functions, f.Spelled) →
      (∀ d ∈ after.declarations, d.Spelled) ∧ ∀ f ∈ after.functions, f.Spelled := by
  intro declarations functions
  have shown := compiled_declarations_spelled components earlier entry before after outcome compiled declarations
  refine ⟨shown, ?_⟩
  cases compiled with
  | skipped => exact functions
  | @emitted _ parameters inPath body option response path _ first second third fourth fifth _ _ _ _ pathTyped bodyTyped
      optionClaimed responseTyped template optionsDeclared searched =>
      have same := payloads_functions components pathTyped bodyTyped optionClaimed responseTyped
      have method := bound_method_spelled components entry parameters inPath body option response path _ _ pathTyped template
      have pushed : ∀ f ∈ (fourth.push (clientMethod entry path inPath body option response)).functions, f.Spelled := by
        intro f member
        rcases List.mem_append.mp member with old | new
        · exact functions f (same ▸ old)
        · exact List.mem_singleton.mp new ▸ method
      have constructed : ∀ f ∈ fifth.functions, f.Spelled := by
        cases optionsDeclared with
        | none => exact pushed
        | some declared constructed =>
            refine constructed_spelled components _ _ _ _ _ _ constructed (operation_name_word entry) ?_
            rwa [SourceUnit.declare_functions _ _ _ declared]
      have grows := response_searched_grows components _ _ _ _ _ searched
      exact response_searched_spelled components _ _ _ _ _ searched (fun d member => shown d (grows.keep d member))
        constructed

end ApiBindings
