import ApiBindings.Proofs.Number.Numeral
import ApiBindings.Proofs.Rendering.Constants
import ApiBindings.Proofs.Rendering.Rules
import ApiBindings.Proofs.Unit.Spelled
set_option autoImplicit false

namespace ApiBindings

namespace TagSafe

theorem append (first last : String) (before : TagSafe first) (after : TagSafe last) : TagSafe (first ++ last) := by
  intro c member
  rw [String.toList_append] at member
  exact (List.mem_append.mp member).elim (before c) (after c)

theorem separated (separator : String) (texts : List String) (between : TagSafe separator)
    (each : ∀ text ∈ texts, TagSafe text) : TagSafe (separator.intercalate texts) := by
  induction texts with
  | nil => exact fun c member => absurd member List.not_mem_nil
  | cons text others ih =>
      have own := each text List.mem_cons_self
      cases others with
      | nil => simpa using own
      | cons next rest =>
          rw [String.intercalate_cons_cons]
          exact append _ _ (append _ _ own between) (ih fun other member => each other (List.mem_cons_of_mem _ member))

theorem numeral (text : String) (numeral : Number.Numeral text) : TagSafe text := by
  have chars : ∀ c, Number.isNumeralChar c = true → isTagSafe c = true := by
    refine Naming.ascii_checked (fun c kind => ?_) (by decide)
    rcases Number.numeral_char_kind c kind with alphanumeric | rfl
    · exact Naming.alphanumeric_ascii c alphanumeric
    · decide
  obtain ⟨rest, unsigned, same | same⟩ := numeral
  · exact fun c member => chars c (unsigned.chars c (same ▸ member))
  · intro c member
    rw [same] at member
    rcases List.mem_cons.mp member with rfl | inside
    · decide
    · exact chars c (unsigned.chars c inside)

end TagSafe

theorem limit_rule_safe (name text : String) (named : name ∈ ["gte", "gt", "lte", "lt", "min", "max"])
    (numeral : Number.Numeral text) : TagSafe (name ++ "=" ++ text) := by
  have safe : ∀ name ∈ ["gte", "gt", "lte", "lt", "min", "max"], TagSafe name := by decide
  exact .append _ _ (.append _ _ (safe name named) (by decide)) (.numeral text numeral)

theorem rule_safe (s : Schema) (required : Bool) (rule : String) (listed : s.RuleFor required rule) : TagSafe rule := by
  rcases listed with ⟨_, rfl⟩ | ⟨name, x, asked | asked, rfl⟩ | ⟨name, n, ⟨rfl, _⟩ | ⟨rfl, _⟩, rfl⟩
  · decide
  · exact limit_rule_safe name _ (by cases asked <;> simp) (Number.format_numeral x)
  · exact limit_rule_safe name _ (by cases asked <;> simp) (Number.format_numeral x)
  · exact limit_rule_safe _ _ (by simp) (Number.int_numeral n)
  · exact limit_rule_safe _ _ (by simp) (Number.int_numeral n)

theorem validation_rules_safe (s : Schema) (required : Bool) : ∀ rules ∈ s.validationRules required, TagSafe rules := by
  intro made given
  obtain ⟨rules, rfl, listed⟩ := s.validation_rules_listed required made given
  exact .separated _ _ (by decide) fun rule member => rule_safe s required rule ((listed rule).mp member)

theorem property_field_spelled (components : Components) (guard : Guard Schema) (object : Schema) (name wire : String)
    (property : Schema) (type : TypeExpr) (collection : Bool) (named : Naming.Word name)
    (safe : wire.toList.find? (!isTagSafe ·) = none) :
    (propertyField components guard object name wire property type collection).Spelled := by
  refine ⟨named, fun tag given => ?_⟩
  obtain rfl := Option.some.inj given
  exact ⟨fun c member => by simpa using List.find?_eq_none.mp safe c member, validation_rules_safe _ _⟩

theorem fields_spelled (components : Components) (guard : Guard Schema) (parent : String) (object : Schema)
    (names : Names) (properties : List (String × Schema)) (fields : List Field) (before after : SourceUnit)
    (rendered : Rendered components (.fields guard parent object names properties fields) before after) :
    ∀ field ∈ fields, field.Spelled := by
  induction properties generalizing names fields before with
  | nil =>
      cases rendered
      exact List.forall_mem_nil _
  | cons property rest ih =>
      cases rendered with
      | field safe claimed _ _ _ compiled =>
          intro field member
          rcases List.mem_cons.mp member with rfl | later
          · exact property_field_spelled _ _ _ _ _ _ _ _ (field_name_word _ _ _ _ claimed) safe
          · exact ih _ _ _ compiled field later

theorem shape_spelled (components : Components) (guard : Guard Schema) (name : String) (target : Schema)
    (shape : DeclarationShape) (before after : SourceUnit) (named : Naming.Word name)
    (rendered : Rendered components (.shape guard name target shape) before after) : shape.Spelled := by
  cases rendered with
  | enumeration _ _ fits =>
      intro constant member
      obtain ⟨ending, word, extended⟩ := ((enum_constants_named _ _ _ _ _ fits).2 constant member).2
      exact extended ▸ Naming.word_append name ending named word.chars
  | record _ _ compiled => exact fields_spelled _ _ _ _ _ _ _ _ _ compiled
  | aliasReference | aliasScalar | slice | openMap | map => trivial

theorem word_kept : KeptByEndings Naming.Word := fun name ending chars word => Naming.word_append name ending word chars

theorem rendered_spelled (components : Components) (task : Rendering) (before after : SourceUnit)
    (rendered : Rendered components task before after) (named : Naming.Word task.base) :
    before.Adds Declaration.Spelled after :=
  rendered_declarations components task before after rendered Naming.Word word_kept named Declaration.Spelled
    fun guard name target shape start next _ named shaped =>
      ⟨named, shape_spelled components guard name target shape start next named shaped⟩

end ApiBindings
