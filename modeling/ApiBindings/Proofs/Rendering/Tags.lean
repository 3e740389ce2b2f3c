import ApiBindings.Proofs.Rendering.Equations
import ApiBindings.Proofs.Rendering.Spelled
import ApiBindings.Proofs.Unit.Tag
set_option autoImplicit false

namespace ApiBindings

def DeclaredFor (components : Components) (guard : Guard Schema) (object : Schema) (entry : String × Schema)
    (field : Field) : Prop :=
  ∃ name type collection, Naming.Word name ∧ entry.1.toList.find? (!isTagSafe ·) = none ∧
    field = propertyField components guard object name entry.1 entry.2 type collection

theorem fields_declared (components : Components) (guard : Guard Schema) (parent : String) (object : Schema)
    (names : Names) (properties : List (String × Schema)) (fields : List Field) (before after : SourceUnit)
    (done : (declareFields components guard parent object names properties).result before = (.ok fields, after)) :
    List.Forall₂ (DeclaredFor components guard object) properties fields := by
  induction properties generalizing names fields before with
  | nil =>
      rw [declare_fields_nil] at done
      obtain ⟨rfl, _⟩ := Build.pure_ok _ _ _ _ done
      exact .nil
  | cons entry rest ih =>
      obtain ⟨wire, property⟩ := entry
      rw [declare_fields_eq] at done
      cases safe : wire.toList.find? (!isTagSafe ·) with
      | some bad =>
          rw [safe] at done
          exact (Build.throw_ok _ _ _ _ done).elim
      | none =>
          rw [safe] at done
          dsimp only at done
          cases stripped : property.effective with
          | error defect =>
              rw [stripped] at done
              exact (Build.throw_ok _ _ _ _ done).elim
          | ok target =>
              rw [stripped] at done
              dsimp only at done
              obtain ⟨collection, _, _, done⟩ := Build.bind_ok _ _ _ _ _ done
              obtain ⟨type, _, _, done⟩ := Build.bind_ok _ _ _ _ _ done
              obtain ⟨others, last, later, done⟩ := Build.bind_ok _ _ _ _ _ done
              obtain ⟨rfl, rfl⟩ := Build.pure_ok _ _ _ _ done
              exact .cons ⟨_, type, collection, field_name_word _ _ _ _ rfl, safe, rfl⟩ (ih _ others _ later)

-- What a tag says of a property: the rules for its value, and its name with the
-- flag unless the name is one that tags have another meaning for.
def TagRead (object : Schema) (entry : String × Schema) (field : Field) : Prop :=
  ∃ tag encoding, field.tag = some tag ∧
    StructTag.read? field.name tag.render.toList = some (encoding,
      (entry.2.nullablePartner.getD entry.2).validationRules (object.requires entry.1)) ∧
    (encoding = .named entry.1 (!object.requires entry.1) ↔
      ',' ∉ entry.1.toList ∧ entry.1 ≠ "" ∧ (entry.1 = "-" → object.requires entry.1 = false))

theorem declared_tag_read (components : Components) (guard : Guard Schema) (object : Schema) (entry : String × Schema)
    (field : Field) (declared : DeclaredFor components guard object entry field) : TagRead object entry field := by
  obtain ⟨name, type, collection, named, safe, rfl⟩ := declared
  have spelled := property_field_spelled components guard object name entry.1 entry.2 type collection named safe
  obtain ⟨encoding, read, exact⟩ := StructTag.tag_read name _ named (spelled.tag _ rfl)
  refine ⟨_, encoding, rfl, read, exact.trans ?_⟩
  simp only [Bool.not_eq_true']

theorem field_tags_read (components : Components) (guard : Guard Schema) (parent : String) (object : Schema)
    (names : Names) (properties : List (String × Schema)) (fields : List Field) (before after : SourceUnit)
    (done : (declareFields components guard parent object names properties).result before = (.ok fields, after)) :
    List.Forall₂ (TagRead object) properties fields :=
  (fields_declared components guard parent object names properties fields before after done).imp fun entry field =>
    declared_tag_read components guard object entry field

def objectOf (required : List String) (properties : List (String × Schema)) : Schema :=
  { type := some (.single "object"), required, properties }

theorem optional_hyphen_read :
    let text : Schema := { type := some (.single "string"), limits := { minLength := some 1 } }
    let properties := [("-", text), ("id", text)]
    let unit : SourceUnit := { package := "models" }
    ∃ fields after, (declareFields {} {} "Thing" (objectOf ["id"] properties) {} properties).result unit =
        (.ok fields, after) ∧
      (fields.map fun field => field.tag.map FieldTag.render) =
        [some "\x60json:\"-,omitempty\" validate:\"omitempty,min=1\"\x60", some "\x60json:\"id\" validate:\"min=1\"\x60"] ∧
      List.Forall₂ (TagRead (objectOf ["id"] properties)) properties fields := by
  intro text properties unit
  obtain ⟨fields, done, tags⟩ := ok_holds
    ((declareFields {} {} "Thing" (objectOf ["id"] properties) {} properties).result unit).1
    (fun fields => (fields.map fun field => field.tag.map FieldTag.render) =
      [some "\x60json:\"-,omitempty\" validate:\"omitempty,min=1\"\x60", some "\x60json:\"id\" validate:\"min=1\"\x60"])
    (by decide +kernel)
  exact ⟨fields, _, Prod.ext done rfl, of_decide_eq_true tags,
    field_tags_read {} {} "Thing" (objectOf ["id"] properties) {} properties fields unit _ (Prod.ext done rfl)⟩

-- The empty name stands for that of the field, the hyphen leaves the field out,
-- and a comma ends the name.
theorem odd_names_misread :
    let text : Schema := { type := some (.single "string") }
    let properties := [("", text), ("-", text), ("a,b", text)]
    let unit : SourceUnit := { package := "models" }
    ∃ fields after, (declareFields {} {} "Thing" (objectOf ["-"] properties) {} properties).result unit =
        (.ok fields, after) ∧
      (fields.map fun field => field.tag.bind fun tag => StructTag.read? field.name tag.render.toList) =
        [some (.named "Unnamed" true, none), some (.ignored, none), some (.named "a" true, none)] := by
  intro text properties unit
  obtain ⟨fields, done, tags⟩ := ok_holds
    ((declareFields {} {} "Thing" (objectOf ["-"] properties) {} properties).result unit).1
    (fun fields => (fields.map fun field => field.tag.bind fun tag => StructTag.read? field.name tag.render.toList) =
      [some (.named "Unnamed" true, none), some (.ignored, none), some (.named "a" true, none)]) (by decide +kernel)
  exact ⟨fields, _, Prod.ext done rfl, of_decide_eq_true tags⟩

end ApiBindings
