import ApiBindings.Proofs.Naming.Exported
import ApiBindings.Proofs.Rendering.Rendered
import ApiBindings.Proofs.Unit.Growth
set_option autoImplicit false

namespace ApiBindings

namespace Rendering

def given : Rendering → List String
  | .declaration _ name _ => [name]
  | _ => []

def base : Rendering → String
  | .declaration _ name _ => name
  | .shape _ name _ _ => name
  | .element _ hint _ _ => hint
  | .fields _ parent _ _ _ _ => parent

end Rendering

theorem scalar_not_capital (type : ScalarType) (name : String) (scalar : TypeExpr.named name = .ofScalar type) :
    ¬ Naming.Capital name := by
  rintro ⟨c, rest, spelled, upper⟩
  cases type
  case bytes => cases scalar
  all_goals
    cases scalar
    obtain ⟨rfl, _⟩ := List.cons.inj spelled
    exact absurd upper (by decide)

theorem rendered_grows (components : Components) (task : Rendering) (before after : SourceUnit)
    (rendered : Rendered components task before after) : before.Grows task.given after := by
  induction rendered with
  | declaration _ _ declared ih =>
      have last := SourceUnit.declare_grows _ _ _ declared
      exact (ih.free _).trans last
  | aliasReference | aliasScalar | enumeration | openMap => exact SourceUnit.Grows.refl _ _
  | slice _ _ _ ih => exact ih
  | record _ _ _ ih => exact ih
  | map _ _ _ ih => exact ih
  | elementReference | elementScalar | elementOpenMap => exact SourceUnit.Grows.refl _ _
  | elementEnumeration _ _ _ claimed _ declared =>
      exact SourceUnit.claimed_grows _ _ _ _ _ claimed (SourceUnit.declare_grows _ _ _ declared)
  | elementSlice _ _ _ _ ih => exact ih
  | elementMap _ _ _ _ ih => exact ih
  | elementRecord _ _ _ claimed _ ih => exact SourceUnit.claimed_grows _ _ _ _ _ claimed ih
  | noFields => exact SourceUnit.Grows.refl _ _
  | field _ _ _ _ _ _ first last => exact first.trans last

theorem rendered_functions (components : Components) (task : Rendering) (before after : SourceUnit)
    (rendered : Rendered components task before after) : after.functions = before.functions := by
  induction rendered with
  | declaration _ _ declared ih => rw [SourceUnit.declare_functions _ _ _ declared, ih]
  | aliasReference | aliasScalar | enumeration | openMap => rfl
  | slice _ _ _ ih => exact ih
  | record _ _ _ ih => exact ih
  | map _ _ _ ih => exact ih
  | elementReference | elementScalar | elementOpenMap => rfl
  | elementEnumeration _ _ _ claimed _ declared =>
      rw [SourceUnit.declare_functions _ _ _ declared, SourceUnit.claim_functions _ _ _ _ claimed]
  | elementSlice _ _ _ _ ih => exact ih
  | elementMap _ _ _ _ ih => exact ih
  | elementRecord _ _ _ claimed _ ih => rw [ih, SourceUnit.claim_functions _ _ _ _ claimed]
  | noFields => rfl
  | field _ _ _ _ _ _ first last => rw [last, first]

def KeptByEndings (holds : String → Prop) : Prop :=
  ∀ name ending, Naming.WordChars ending → holds name → holds (name ++ ending)

theorem claim_based (holds : String → Prop) (kept : KeptByEndings holds) (unit after : SourceUnit) (base name : String)
    (claimed : unit.claim base = (name, after)) (based : holds base) :
    after.declarations = unit.declarations ∧ holds name := by
  obtain ⟨same, number, chars, rfl⟩ := SourceUnit.claim_declarations _ _ _ _ claimed
  exact ⟨same, kept base number chars based⟩

theorem field_name_word (names others : Names) (wire name : String)
    (claimed : names.claim (Naming.exported wire) = (name, others)) : Naming.Word name := by
  obtain ⟨number, chars, extended⟩ := Names.claim_extends names (Naming.exported wire)
  obtain rfl : name = Naming.exported wire ++ number := by rw [← extended, claimed]
  exact Naming.word_append _ _ (Naming.exported_word wire) chars

theorem rendered_declarations (components : Components) (task : Rendering) (before after : SourceUnit)
    (rendered : Rendered components task before after) (named : String → Prop) (kept : KeptByEndings named)
    (based : named task.base) (holds : Declaration → Prop)
    (shaped : ∀ guard name target shape start next doc, named name →
      Rendered components (.shape guard name target shape) start next → holds { name, doc, shape }) :
    before.Adds holds after := by
  have item : Naming.WordChars "Item" := by decide
  have value : Naming.WordChars "Value" := by decide
  induction rendered with
  | declaration _ rendered declared ih =>
      exact (ih based).trans (SourceUnit.declare_adds _ _ _ _ declared (shaped _ _ _ _ _ _ _ based rendered))
  | aliasReference | aliasScalar | enumeration | openMap => exact SourceUnit.same_adds _ _ _ rfl
  | slice _ _ _ ih => exact ih (kept _ _ item based)
  | record _ _ _ ih => exact ih based
  | map _ _ _ ih => exact ih (kept _ _ value based)
  | elementReference | elementScalar | elementOpenMap => exact SourceUnit.same_adds _ _ _ rfl
  | elementEnumeration _ inline classified claimed fits declared =>
      obtain ⟨same, based⟩ := claim_based named kept _ _ _ _ claimed based
      refine (SourceUnit.same_adds _ _ _ same).trans (SourceUnit.declare_adds _ _ _ _ declared ?_)
      exact shaped {} _ _ _ { package := "" } _ _ based (.enumeration inline classified fits)
  | elementSlice _ _ _ _ ih => exact ih (kept _ _ item based)
  | elementMap _ _ _ _ ih => exact ih (kept _ _ value based)
  | elementRecord _ _ _ claimed _ ih =>
      obtain ⟨same, based⟩ := claim_based named kept _ _ _ _ claimed based
      exact (SourceUnit.same_adds _ _ _ same).trans (ih based)
  | noFields => exact SourceUnit.same_adds _ _ _ rfl
  | field _ claimed _ _ _ _ first last =>
      exact (first (kept _ _ (field_name_word _ _ _ _ claimed).chars based)).trans (last based)

theorem rendered_names (components : Components) (task : Rendering) (before after : SourceUnit)
    (rendered : Rendered components task before after) (holds : String → Prop) (kept : KeptByEndings holds)
    (based : holds task.base) : before.Adds (fun d => holds d.name) after :=
  rendered_declarations components task before after rendered holds kept based (fun d => holds d.name)
    fun _ _ _ _ _ _ _ named _ => named

end ApiBindings
