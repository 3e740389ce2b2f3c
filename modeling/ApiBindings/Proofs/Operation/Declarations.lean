import ApiBindings.Proofs.Operation.Growth
set_option autoImplicit false

namespace ApiBindings

theorem operation_name_exported (entry : Document.Entry) : ∃ text, entry.name = Naming.exported text := by
  unfold Document.Entry.name operationName
  split
  · exact ⟨_, rfl⟩
  · exact ⟨_, rfl⟩

theorem operation_name_word (entry : Document.Entry) : Naming.Word entry.name := by
  obtain ⟨text, named⟩ := operation_name_exported entry
  exact named ▸ Naming.exported_word text

theorem operation_name_capital (entry : Document.Entry) : Naming.Capital entry.name := by
  obtain ⟨text, named⟩ := operation_name_exported entry
  exact named ▸ Naming.exported_capital text

section

variable (components : Components) (named : String → Prop) (kept : KeptByEndings named)
  (holds : Declaration → Prop)
  (shaped : ∀ guard name target shape start next doc, named name →
    Rendered components (.shape guard name target shape) start next → holds { name, doc, shape })

include kept shaped

theorem parameter_typed_adds (hint : String) (s : Option Schema) (type : TypeExpr) (before after : SourceUnit)
    (typed : ParameterTyped components hint s before type after) (based : named hint) : before.Adds holds after := by
  cases typed with
  | given rendered => exact rendered_declarations components _ before after rendered named kept based holds shaped
  | text => exact SourceUnit.same_adds _ _ _ rfl

theorem path_typed_adds (operation : String) (bound : List BoundParameter) (inPath : List Variable)
    (before after : SourceUnit) (typed : PathTyped components operation bound before inPath after)
    (based : named operation) : before.Adds holds after := by
  induction typed with
  | none => exact SourceUnit.same_adds _ _ _ rfl
  | @next bound _ _ _ _ _ _ typed _ ih =>
      have hinted := kept operation _ (Naming.exported_word bound.wire).chars based
      exact (parameter_typed_adds components named kept holds shaped _ _ _ _ _ typed hinted).trans ih

theorem payload_typed_adds (operation role : String) (s : Schema) (result : Payload) (before after : SourceUnit)
    (typed : PayloadTyped components operation role s before result after) (chars : Naming.WordChars role)
    (based : named operation) : before.Adds holds after := by
  cases typed with
  | component | list => exact SourceUnit.same_adds _ _ _ rfl
  | declared _ _ claimed rendered =>
      obtain ⟨same, based⟩ := claim_based named kept _ _ _ _ claimed (kept operation role chars based)
      exact (SourceUnit.same_adds _ _ _ same).trans
        (rendered_declarations components _ _ _ rendered named kept based holds shaped)

theorem body_typed_adds (operation : String) (schema : Option Schema) (body : Option Payload)
    (before after : SourceUnit) (typed : BodyTyped components operation schema before body after)
    (based : named operation) : before.Adds holds after := by
  cases typed with
  | none => exact SourceUnit.same_adds _ _ _ rfl
  | some typed =>
      exact payload_typed_adds components named kept holds shaped operation "Request" _ _ _ _ typed (by decide) based

theorem constructed_adds (operation option : String) (names : Names) (query : List Parameter)
    (before after : SourceUnit) (constructed : Constructed components operation option names query before after)
    (based : named operation) : before.Adds holds after := by
  induction constructed with
  | none => exact SourceUnit.same_adds _ _ _ rfl
  | next claimed typed _ ih =>
      have hinted := kept operation _ (field_name_word _ _ _ _ claimed).chars based
      exact (parameter_typed_adds components named kept holds shaped _ _ _ _ _ typed hinted).trans ih

theorem options_declared_adds (operation : String) (query : List Parameter) (option : Option String)
    (before after : SourceUnit) (declared : OptionsDeclared components operation query option before after)
    (based : named operation) (optional : ∀ name ∈ option, holds (optionDeclaration operation name)) :
    before.Adds holds after := by
  cases declared with
  | none => exact SourceUnit.same_adds _ _ _ rfl
  | some declared constructed =>
      exact (SourceUnit.declare_adds _ _ _ _ declared (optional _ rfl)).trans
        (constructed_adds components named kept holds shaped _ _ _ _ _ _ constructed based)

omit kept shaped in
theorem response_searched_adds (operation : String) (s : Schema) (response : Payload) (before after : SourceUnit)
    (searched : ResponseSearched components operation s response before after) (error : holds notFoundDeclaration) :
    before.Adds holds after := by
  cases searched with
  | skipped => exact SourceUnit.same_adds _ _ _ rfl
  | searched _ _ finder =>
      cases finder with
      | none => exact SourceUnit.same_adds _ _ _ rfl
      | found _ _ missing =>
          cases missing with
          | known => exact SourceUnit.same_adds _ _ _ rfl
          | new _ declared =>
              exact (SourceUnit.declare_adds _ _ _ _ declared error).trans (SourceUnit.same_adds _ _ _ rfl)

theorem compiled_adds (earlier : List String) (entry : Document.Entry) (before after : SourceUnit) (outcome : Outcome)
    (compiled : Compiled components earlier entry before outcome after) (based : named entry.name)
    (optional : ∀ name, named name → holds (optionDeclaration entry.name name)) (error : holds notFoundDeclaration) :
    before.Adds holds after := by
  cases compiled with
  | skipped => exact SourceUnit.same_adds _ _ _ rfl
  | @emitted _ _ _ _ option _ _ _ first second third fourth fifth _ _ _ _ pathTyped bodyTyped optionClaimed
      responseTyped _ optionsDeclared searched =>
      have path := path_typed_adds components named kept holds shaped _ _ _ _ _ pathTyped based
      have body := body_typed_adds components named kept holds shaped _ _ _ _ _ bodyTyped based
      have claimed : second.Adds holds third ∧ ∀ name ∈ option, named name := by
        cases optionClaimed with
        | none => exact ⟨SourceUnit.same_adds _ _ _ rfl, fun _ member => absurd member (Option.not_mem_none _)⟩
        | some _ claimed =>
            obtain ⟨same, based⟩ :=
              claim_based named kept _ _ _ _ claimed (kept entry.name "Option" (by decide) based)
            exact ⟨SourceUnit.same_adds _ _ _ same, fun name given => Option.some.inj given ▸ based⟩
      have response := payload_typed_adds components named kept holds shaped _ "Response" _ _ _ _ responseTyped
        (by decide) based
      have options := options_declared_adds components named kept holds shaped _ _ _ _ _ optionsDeclared based
        fun name given => optional name (claimed.2 name given)
      have finder := response_searched_adds components holds _ _ _ _ _ searched error
      exact ((((path.trans body).trans claimed.1).trans response).trans options).trans finder

end

end ApiBindings
