import ApiBindings.Proofs.Number.Numeral
import ApiBindings.Proofs.Rendering.Names
set_option autoImplicit false

namespace ApiBindings

def Declaration.constants (d : Declaration) : List String :=
  match d.shape with
  | .enumeration _ constants => constants.map EnumConstant.name
  | _ => []

namespace EnumValue

open Number

theorem numeral_suffix_word_chars (text : String) (numeral : Numeral text) :
    Naming.WordChars (String.ofList (numberSuffix text.toList)) := by
  have spelled (rest : List Char) (unsigned : Unsigned rest) (c : Char)
      (member : c ∈ rest.map fun c => if c = '.' ∨ c = '+' then '_' else c) : Naming.isWordChar c = true := by
    obtain ⟨d, inside, rfl⟩ := List.mem_map.mp member
    have numeral := unsigned.chars d inside
    split
    · rfl
    next plain =>
      obtain ⟨point, _⟩ := not_or.mp plain
      exact Naming.alphanumeric_word_char d ((numeral_char_kind d numeral).resolve_right point)
  obtain ⟨rest, unsigned, same | same⟩ := numeral
  · intro c member
    rw [String.toList_ofList, same] at member
    unfold numberSuffix at member
    dsimp only at member
    split at member
    next =>
      have sign := unsigned.chars '-' List.mem_cons_self
      exact absurd sign (by decide)
    next => exact spelled rest unsigned c member
  · intro c member
    rw [String.toList_ofList, same] at member
    rcases List.mem_append.mp member with sign | digits
    · exact (by decide : Naming.WordChars "Neg") c sign
    · exact spelled rest unsigned c digits

theorem suffix_word_chars (value : EnumValue) : Naming.WordChars value.suffix := by
  cases value with
  | text s => exact Naming.pascal_word_chars s
  | integer n => exact numeral_suffix_word_chars _ (int_numeral n)
  | double x => exact numeral_suffix_word_chars _ (format_numeral x)
  | flag b => cases b <;> decide
  | null => decide

def base (name : String) (value : EnumValue) : String :=
  if value.suffix.isEmpty then name ++ "Empty" else name ++ value.suffix

theorem base_word (name : String) (value : EnumValue) :
    ∃ ending, Naming.Word ending ∧ value.base name = name ++ ending := by
  unfold base
  split
  next => exact ⟨"Empty", ⟨by decide, by decide⟩, rfl⟩
  next filled =>
    refine ⟨value.suffix, ⟨fun empty => filled ?_, value.suffix_word_chars⟩, rfl⟩
    rw [empty]
    rfl

theorem null_unwritten (type : ScalarType) : EnumValue.null.literal? type = none := by
  cases type <;> rfl

theorem written_present (type : ScalarType) (value : EnumValue) (literal : Literal)
    (valued : value.literal? type = some literal) : value ≠ .null := by
  rintro rfl
  rw [null_unwritten] at valued
  cases valued

end EnumValue

-- Each value that is not null takes the first of its names that no constant before it has.
inductive Chosen (type : ScalarType) (name : String) : List String → List EnumValue → List EnumConstant → Prop where
  | done (used : List String) : Chosen type name used [] []
  | null (used : List String) (rest : List EnumValue) (constants : List EnumConstant)
      (chosen : Chosen type name used rest constants) : Chosen type name used (.null :: rest) constants
  | value (used : List String) (value : EnumValue) (rest : List EnumValue) (constant : EnumConstant)
      (constants : List EnumConstant) (tries : Nat) (valued : value.literal? type = some constant.value)
      (found : Names.Found used (value.base name) tries constant.name)
      (chosen : Chosen type name (used ++ [constant.name]) rest constants) :
      Chosen type name used (value :: rest) (constant :: constants)

theorem enum_constants_chosen (type : ScalarType) (name : String) (names : Names) (used : List String)
    (values : List EnumValue) (constants : List EnumConstant) (taken : ∀ other, other ∈ names.taken ↔ other ∈ used)
    (fits : enumConstants type name names values = .ok constants) : Chosen type name used values constants := by
  induction values generalizing names used constants with
  | nil =>
      obtain rfl := Except.ok.inj fits
      exact Chosen.done used
  | cons value rest ih =>
      unfold enumConstants at fits
      split at fits
      next literal valued =>
        change Except.map _ (enumConstants type name (names.claim (value.base name)).2 rest) = .ok constants at fits
        cases others : enumConstants type name (names.claim (value.base name)).2 rest with
        | error cause =>
            rw [others] at fits
            cases fits
        | ok later =>
            rw [others] at fits
            obtain rfl := Except.ok.inj fits
            obtain ⟨tries, attempted, free, earlier⟩ := names.claim_found (value.base name)
            refine Chosen.value used value rest _ later tries valued
              ⟨attempted, fun member => free ((taken _).mpr member), fun n below => (taken _).mp (earlier n below)⟩
              (ih _ _ later (fun other => ?_) others)
            rw [Names.claim_mem, taken, List.mem_append, List.mem_singleton]
            exact or_comm
      next =>
        split at fits
        next null =>
          obtain rfl := null
          exact Chosen.null used rest constants (ih names used constants taken fits)
        next => cases fits

theorem chosen_named (type : ScalarType) (name : String) (used : List String) (values : List EnumValue)
    (constants : List EnumConstant) (chosen : Chosen type name used values constants) :
    (constants.map EnumConstant.name).Nodup ∧
      ∀ constant ∈ constants, constant.name ∉ used ∧ ∃ ending, Naming.Word ending ∧ constant.name = name ++ ending := by
  induction chosen with
  | done => exact ⟨List.nodup_nil, List.forall_mem_nil _⟩
  | null _ _ _ _ ih => exact ih
  | value _ value _ constant _ tries _ found _ ih =>
      obtain ⟨distinct, named⟩ := ih
      obtain ⟨ending, word, same⟩ := value.base_word name
      obtain ⟨number, chars, tried⟩ := Names.attempt_extends (value.base name) tries
      refine ⟨List.nodup_cons.mpr ⟨fun again => ?_, distinct⟩,
        List.forall_mem_cons.mpr ⟨⟨found.free, ending ++ number, Naming.word_append _ _ word chars, ?_⟩, fun other listed => ?_⟩⟩
      · obtain ⟨other, listed, twin⟩ := List.mem_map.mp again
        exact (named other listed).1 (by rw [twin]; exact List.mem_append_right _ (List.mem_singleton_self _))
      · rw [found.attempted, tried, same, String.append_assoc]
      · obtain ⟨absent, after⟩ := named other listed
        exact ⟨fun known => absent (List.mem_append_left _ known), after⟩

theorem enum_constants_named (type : ScalarType) (name : String) (names : Names) (values : List EnumValue)
    (constants : List EnumConstant) (fits : enumConstants type name names values = .ok constants) :
    (constants.map EnumConstant.name).Nodup ∧
      ∀ constant ∈ constants, constant.name ∉ names.taken ∧ ∃ ending, Naming.Word ending ∧ constant.name = name ++ ending :=
  chosen_named type name _ values constants
    (enum_constants_chosen type name names _ values constants (fun _ => Iff.rfl) fits)

theorem chosen_values (type : ScalarType) (name : String) (used : List String) (values : List EnumValue)
    (constants : List EnumConstant) (chosen : Chosen type name used values constants) :
    constants.map EnumConstant.value = values.filterMap (·.literal? type) := by
  induction chosen with
  | done => rfl
  | null _ _ _ _ ih => rw [List.filterMap_cons_none (EnumValue.null_unwritten type), ih]
  | value _ _ _ _ _ _ valued _ _ ih => rw [List.filterMap_cons_some valued, List.map_cons, ih]

theorem enum_constants_values (type : ScalarType) (name : String) (names : Names) (values : List EnumValue)
    (constants : List EnumConstant) (fits : enumConstants type name names values = .ok constants) :
    constants.map EnumConstant.value = values.filterMap (·.literal? type) :=
  chosen_values type name _ values constants
    (enum_constants_chosen type name names _ values constants (fun _ => Iff.rfl) fits)

structure Declaration.ConstantsNamed (d : Declaration) : Prop where
  distinct : d.constants.Nodup
  ended : ∀ constant ∈ d.constants, ∃ ending, Naming.Word ending ∧ constant = d.name ++ ending

theorem shape_constants_named (components : Components) (guard : Guard Schema) (name : String) (target : Schema)
    (shape : DeclarationShape) (before after : SourceUnit) (doc : Option String)
    (rendered : Rendered components (.shape guard name target shape) before after) :
    Declaration.ConstantsNamed { name, doc, shape } := by
  cases rendered with
  | enumeration _ _ fits =>
      obtain ⟨distinct, named⟩ := enum_constants_named _ _ _ _ _ fits
      refine ⟨distinct, fun constant member => ?_⟩
      obtain ⟨other, listed, rfl⟩ := List.mem_map.mp member
      exact (named other listed).2
  | aliasReference | aliasScalar | slice | record | openMap | map =>
      exact ⟨List.nodup_nil, List.forall_mem_nil _⟩

theorem rendered_constants_named (components : Components) (task : Rendering) (before after : SourceUnit)
    (rendered : Rendered components task before after) :
    before.Adds Declaration.ConstantsNamed after :=
  rendered_declarations components task before after rendered (fun _ => True) (fun _ _ _ _ => trivial) trivial
    Declaration.ConstantsNamed
    fun guard name target shape start next doc _ shaped =>
      shape_constants_named components guard name target shape start next doc shaped

theorem enum_shape_constants (name : String) (type : ScalarType) (values : List EnumValue) (shape : DeclarationShape)
    (fits : enumShape name type values = .ok shape) :
    ∃ constants, enumConstants type name {} values = .ok constants ∧ shape = .enumeration (.named type.name) constants := by
  unfold enumShape at fits
  cases found : enumConstants type name {} values with
  | error cause =>
      rw [found] at fits
      cases fits
  | ok constants =>
      rw [found] at fits
      exact ⟨constants, rfl, (Except.ok.inj fits).symm⟩

end ApiBindings
