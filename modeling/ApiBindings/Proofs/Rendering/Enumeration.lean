import ApiBindings.Proofs.Naming.Identifier
import ApiBindings.Proofs.Operation.Path
import ApiBindings.Proofs.Rendering.Constants
set_option autoImplicit false

namespace ApiBindings

namespace EnumValue

open Number

structure Unfit (type : ScalarType) (value : EnumValue) : Prop where
  present : value ≠ .null
  unwritten : value.literal? type = none

instance (type : ScalarType) : DecidablePred (Unfit type) := fun value =>
  decidable_of_iff (value ≠ .null ∧ value.literal? type = none)
    ⟨fun unfit => ⟨unfit.1, unfit.2⟩, fun unfit => ⟨unfit.present, unfit.unwritten⟩⟩

def Marked (ending : String) : Prop := ending = "inf" ∨ ∃ c ∈ ending.toList, c.isLower = false

theorem marked_not_keyword (name ending : String) (marked : Marked ending) : name ++ ending ∉ Naming.keywords := by
  intro keyword
  rcases marked with rfl | ⟨c, member, upper⟩
  · have all : ∀ name ∈ Naming.keywords, "inf".toList.isSuffixOf name.toList = false := by decide
    have ends := all _ keyword
    rw [String.toList_append, List.isSuffixOf_iff_suffix.mpr (List.suffix_append _ _)] at ends
    cases ends
  · have lower := Naming.keyword_lower _ keyword c (by simp [String.toList_append, member])
    rw [upper] at lower
    cases lower

theorem number_marked (n : Nat) : ∃ c ∈ (toString n).toList, c.isLower = false := by
  rw [Nat.toString_eq_repr, Nat.toList_repr]
  obtain ⟨c, rest, digits⟩ := List.exists_cons_of_ne_nil (Nat.toDigits_ne_nil (b := 10) (n := n))
  have member : c ∈ Nat.toDigits 10 n := digits ▸ List.mem_cons_self
  have digit := Nat.isDigit_of_mem_toDigits (by decide) (Nat.le_refl 10) member
  exact ⟨c, member, Naming.capital_or_digit_not_lower c (Or.inr digit)⟩

theorem number_suffix_marked (text : List Char) (marked : ∃ c ∈ text, c.isLower = false) :
    ∃ c ∈ numberSuffix text, c.isLower = false := by
  unfold numberSuffix
  split
  next => exact ⟨'N', by simp, rfl⟩
  next =>
    obtain ⟨c, member, upper⟩ := marked
    refine ⟨if c = '.' ∨ c = '+' then '_' else c, List.mem_map_of_mem member, ?_⟩
    split
    · rfl
    · exact upper

theorem positional_marked (digits : Nat) (place : Int) : ∃ c ∈ (positional digits place).toList, c.isLower = false := by
  unfold positional
  dsimp only
  split
  · obtain ⟨c, member, upper⟩ := number_marked digits
    rw [Nat.toString_eq_repr, Nat.toList_repr] at member
    exact ⟨c, by rw [String.toList_ofList]; exact List.mem_append_left _ member, upper⟩
  · exact ⟨'.', by rw [String.toList_ofList]; simp, rfl⟩

theorem display_marked (x : Double) : x.display = "inf" ∨ ∃ c ∈ x.display.toList, c.isLower = false := by
  unfold Double.display
  split
  · exact Or.inr ⟨'N', by decide, rfl⟩
  · exact Or.inl rfl
  · exact Or.inr ⟨'-', by decide, rfl⟩
  next negative units =>
    generalize shortest units = found
    obtain ⟨digits, place⟩ := found
    obtain ⟨c, member, upper⟩ := positional_marked digits place
    dsimp only
    right
    split
    · exact ⟨'0', by simp [String.toList_append], rfl⟩
    · exact ⟨c, by rw [String.toList_append]; exact List.mem_append_right _ member, upper⟩

theorem int_marked (n : Int) : ∃ c ∈ (toString n).toList, c.isLower = false := by
  cases n with
  | ofNat m => exact number_marked m
  | negSucc m =>
      have sign : (toString (Int.negSucc m)).toList = '-' :: m.succ.repr.toList := String.toList_append
      exact ⟨'-', by rw [sign]; exact List.mem_cons_self, rfl⟩

theorem pascal_marked (s : String) (filled : Naming.pascal s ≠ "") : ∃ c ∈ (Naming.pascal s).toList, c.isLower = false := by
  have alphanumeric := Text.words_alphanumeric s.toList
  unfold Naming.pascal Naming.pascalChars at filled ⊢
  cases parts : Text.words s.toList with
  | nil => simp [parts] at filled
  | cons part others =>
      obtain ⟨nonempty, letters⟩ := alphanumeric part (by simp [parts])
      obtain ⟨c, word, rfl⟩ := List.exists_cons_of_ne_nil nonempty
      obtain ⟨d, rest, head, kind⟩ := Naming.pascal_word_head c word (letters c List.mem_cons_self)
      exact ⟨d, by simp [head], Naming.capital_or_digit_not_lower d kind⟩

theorem suffix_marked (value : EnumValue) (filled : value.suffix ≠ "") : Marked value.suffix := by
  have written {text : String} (marked : ∃ c ∈ text.toList, c.isLower = false) :
      ∃ c ∈ (String.ofList (numberSuffix text.toList)).toList, c.isLower = false := by
    rw [String.toList_ofList]
    exact number_suffix_marked _ marked
  cases value with
  | text s => exact Or.inr (pascal_marked s filled)
  | integer n => exact Or.inr (written (int_marked n))
  | double x =>
      have marked : x.format = "inf" ∨ ∃ c ∈ x.format.toList, c.isLower = false := by
        unfold Double.format
        split
        · exact Or.inr (int_marked x.truncate)
        · exact display_marked x
      rcases marked with infinite | marked
      · left
        change String.ofList (numberSuffix x.format.toList) = "inf"
        rw [infinite]
        rfl
      · exact Or.inr (written marked)
  | flag b =>
      right
      cases b with
      | true => exact ⟨'T', by decide, rfl⟩
      | false => exact ⟨'F', by decide, rfl⟩
  | null => exact Or.inr ⟨'N', by decide, rfl⟩

theorem base_marked (name : String) (value : EnumValue) : ∃ ending, Marked ending ∧ value.base name = name ++ ending := by
  unfold base
  split
  next => exact ⟨"Empty", Or.inr ⟨'E', by decide, rfl⟩, rfl⟩
  next filled => exact ⟨value.suffix, value.suffix_marked fun empty => filled (by rw [empty]; rfl), rfl⟩

theorem attempt_not_keyword (name : String) (value : EnumValue) (tries : Nat) :
    Names.attempt (value.base name) tries ∉ Naming.keywords := by
  cases tries with
  | zero =>
      obtain ⟨ending, marked, same⟩ := base_marked name value
      rw [Names.attempt, same]
      exact marked_not_keyword name ending marked
  | succ n => exact marked_not_keyword _ _ (Or.inr (number_marked (n + 2)))

end EnumValue

theorem chosen_paired (type : ScalarType) (name : String) (used : List String) (values : List EnumValue)
    (constants : List EnumConstant) (chosen : Chosen type name used values constants) :
    List.Forall₂ (fun value constant => value.literal? type = some constant.value) (values.filter (· ≠ .null)) constants := by
  induction chosen with
  | done => exact List.Forall₂.nil
  | null _ _ _ _ ih => simpa using ih
  | value _ value _ _ _ _ valued _ _ ih =>
      have present := EnumValue.written_present type value _ valued
      rw [List.filter_cons_of_pos (by simpa using present)]
      exact List.Forall₂.cons valued ih

theorem chosen_found (type : ScalarType) (name : String) (used : List String) (values : List EnumValue)
    (constants : List EnumConstant) (chosen : Chosen type name used values constants) :
    ∀ i value constant, (values.filter (· ≠ .null))[i]? = some value → constants[i]? = some constant →
      ∃ tries, Names.Found (used ++ (constants.take i).map EnumConstant.name) (value.base name) tries constant.name := by
  induction chosen with
  | done => exact fun _ _ _ _ listed => by cases listed
  | null _ _ _ _ ih => simpa using ih
  | value _ value _ _ _ _ valued found _ ih =>
      have present := EnumValue.written_present type value _ valued
      rw [List.filter_cons_of_pos (by simpa using present)]
      intro i other constant first second
      cases i with
      | zero =>
          obtain rfl := Option.some.inj first
          obtain rfl := Option.some.inj second
          exact ⟨_, by simpa using found⟩
      | succ i =>
          obtain ⟨tries, later⟩ := ih i other constant first second
          exact ⟨tries, by simpa using later⟩

theorem enum_constants_error (type : ScalarType) (name : String) (names : Names) (values : List EnumValue)
    (cause : Malformation) :
    enumConstants type name names values = .error cause ↔
      ∃ value, FirstWith (EnumValue.Unfit type) values value ∧ cause = .unfitEnumValue value type := by
  simp only [first_with_iff]
  induction values generalizing names with
  | nil => simp [enumConstants]
  | cons value rest ih =>
      unfold enumConstants
      cases valued : value.literal? type with
      | some literal =>
          have fit : ¬ value.Unfit type := fun unfit => by
            rw [unfit.unwritten] at valued
            cases valued
          rw [List.find?_cons_of_neg (by simpa using fit), ← ih (names.claim (value.base name)).2]
          change Except.map _ (enumConstants type name (names.claim (value.base name)).2 rest) = .error cause ↔ _
          cases enumConstants type name (names.claim (value.base name)).2 rest with
          | error other => simp [Except.map]
          | ok constants => simp [Except.map]
      | none =>
          dsimp only
          by_cases null : value = .null
          · have fit : ¬ value.Unfit type := fun unfit => unfit.present null
            rw [if_pos null, List.find?_cons_of_neg (by simpa using fit), ih names]
          · have unfit : value.Unfit type := ⟨null, valued⟩
            rw [if_neg null, List.find?_cons_of_pos (by simpa using unfit)]
            simp [eq_comm]

structure EnumConstants (name : String) (type : ScalarType) (values : List EnumValue) (constants : List EnumConstant) :
    Prop where
  paired : List.Forall₂ (fun value constant => value.literal? type = some constant.value) (values.filter (· ≠ .null)) constants
  distinct : (constants.map EnumConstant.name).Nodup
  found : ∀ i value constant, (values.filter (· ≠ .null))[i]? = some value → constants[i]? = some constant →
    ∃ tries ≤ i, Names.Found ((constants.take i).map EnumConstant.name) (value.base name) tries constant.name
  continued : ∀ constant ∈ constants, Naming.Begins name constant.name
  identifiers : ∀ alphabet : Naming.Alphabet, alphabet.Spelled name →
    ∀ constant ∈ constants, alphabet.Identifier constant.name

theorem chosen_constants (name : String) (type : ScalarType) (values : List EnumValue) (constants : List EnumConstant)
    (fits : enumConstants type name {} values = .ok constants) : EnumConstants name type values constants := by
  obtain ⟨distinct, named⟩ := enum_constants_named type name {} values constants fits
  have chosen := enum_constants_chosen type name {} [] values constants (fun _ => Iff.rfl) fits
  have paired := chosen_paired type name [] values constants chosen
  have found := chosen_found type name [] values constants chosen
  simp only [List.nil_append] at found
  refine ⟨paired, distinct, fun i value constant first second => ?_, fun constant member => ?_,
    fun alphabet spelled constant member => ?_⟩
  · obtain ⟨tries, met⟩ := found i value constant first second
    refine ⟨tries, (Names.found_bounded _ _ _ _ met).trans ?_, met⟩
    rw [List.length_map, List.length_take]
    exact Nat.min_le_left _ _
  · obtain ⟨_, ending, word, same⟩ := named constant member
    exact ⟨ending, word.nonempty, same⟩
  · obtain ⟨_, ending, word, same⟩ := named constant member
    obtain ⟨i, below, listed⟩ := List.mem_iff_getElem.mp member
    have partner : i < (values.filter (· ≠ .null)).length := paired.length_eq ▸ below
    obtain ⟨tries, met⟩ := found i _ constant (List.getElem?_eq_getElem partner)
      ((List.getElem?_eq_getElem below).trans (congrArg some listed))
    refine ⟨same ▸ alphabet.spelled_append name ending spelled word.chars, ?_⟩
    rw [met.attempted]
    exact EnumValue.attempt_not_keyword name _ tries

theorem enum_shape_error_iff (name : String) (type : ScalarType) (values : List EnumValue) (cause : Malformation) :
    enumShape name type values = .error cause ↔
      ∃ value, FirstWith (EnumValue.Unfit type) values value ∧ cause = .unfitEnumValue value type := by
  rw [← enum_constants_error type name {} values cause, enumShape]
  cases enumConstants type name {} values <;> simp [Except.map]

theorem enum_shape_refused_iff (name : String) (type : ScalarType) (values : List EnumValue) :
    (∃ cause, enumShape name type values = .error cause) ↔ ∃ value ∈ values, value.Unfit type := by
  simp only [enum_shape_error_iff]
  constructor
  · rintro ⟨_, value, ⟨before, after, split, unfit, _⟩, _⟩
    exact ⟨value, by simp [split], unfit⟩
  · rintro ⟨value, member, unfit⟩
    obtain ⟨other, first⟩ : ∃ other, values.find? (EnumValue.Unfit type ·) = some other :=
      Option.isSome_iff_exists.mp (List.find?_isSome.mpr ⟨value, member, decide_eq_true unfit⟩)
    exact ⟨_, other, (first_with_iff _ _ _).mpr first, rfl⟩

theorem enum_shape_made (name : String) (type : ScalarType) (values : List EnumValue) (shape : DeclarationShape)
    (made : enumShape name type values = .ok shape) :
    ∃ constants, shape = .enumeration (.named type.name) constants ∧ EnumConstants name type values constants := by
  obtain ⟨constants, fits, rfl⟩ := enum_shape_constants name type values shape made
  exact ⟨constants, rfl, chosen_constants name type values constants fits⟩

end ApiBindings
