import ApiBindings.Proofs.Operation.Path
import ApiBindings.Proofs.Shape.Reference
import ApiBindings.Proofs.Unit.Identifiers
set_option autoImplicit false

namespace ApiBindings

structure NamesApart (parameters : List Parameter) (idents : List String) (method : Function) : Prop where
  bound : idents = (bindPathParameters {} parameters).map BoundParameter.ident
  named : ∃ others, others.Sublist ["body", "opts"] ∧ method.parameters.map Variable.name = "ctx" :: (idents ++ others)
  distinct : (method.parameters.map Variable.name).Nodup
  identifiers : ∀ alphabet : Naming.Alphabet, ∀ name ∈ method.parameters.map Variable.name, alphabet.Identifier name
  body : ∃ call front back, method.body = .call call ∧ (∀ argument ∈ call.path.arguments, argument ∈ idents) ∧
    Identifiers.ofText call.render = front ++ call.path.arguments ++ back ∧
    (∀ name ∈ front ++ back, name = "nil" ∨ name = "_" ∨ name ∈ Naming.bodyNames ∨ Naming.Capital name) ∧
    ∀ ident ∈ idents, ident ∈ front ++ back ↔ ident = "nil"
  hidden : "nil" ∈ idents ↔ ∃ parameter ∈ parameters, parameter.location = "path" ∧
    Naming.localName (String.ofList (withoutStars parameter.name.toList)) = "nil"

theorem payload_typed_named (components : Components) (entry : Document.Entry) (role : String) (s : Schema)
    (before after : SourceUnit) (result : Payload) (word : Naming.WordChars role)
    (typed : PayloadTyped components entry.name role s before result after) :
    ∃ name, Naming.Word name ∧ Naming.Capital name ∧ (result.type = .named name ∨ result.type = .slice (.named name)) := by
  have component (path name : String) (known : components.typeName path = .ok name) : Naming.Word name := by
    obtain ⟨entry, _, rfl, _⟩ := reference_component components path name known
    exact Naming.exported_word entry.1
  cases typed with
  | @component path name _ _ _ known _ =>
      exact ⟨name, component path name known, type_name_capital components path name known, Or.inl rfl⟩
  | @list path name _ _ _ known =>
      exact ⟨name, component path name known, type_name_capital components path name known, Or.inr rfl⟩
  | @declared name _ middle _ _ _ claimed _ =>
      obtain ⟨number, chars, extended⟩ := Names.claim_extends before.names (entry.name ++ role)
      have same : name = entry.name ++ role ++ number := (congrArg Prod.fst claimed).symm.trans extended
      refine ⟨name, ?_, ?_, Or.inl rfl⟩
      · rw [same]
        exact Naming.word_append _ _ (Naming.word_append _ _ (operation_name_word entry) word) chars
      · rw [same]
        exact Naming.capital_append _ _ chars (Naming.capital_append _ _ word (operation_name_capital entry))

theorem bound_idents_local (names : Names) (parameters : List Parameter) :
    ∀ b ∈ bindPathParameters names parameters, Naming.Local b.ident := by
  intro b member
  obtain ⟨earlier, claimed⟩ := bound_idents_claimed names parameters b member
  obtain ⟨number, _, extended⟩ := Names.claim_extends earlier (Naming.localName b.wire)
  have small : Naming.Small b.ident := by
    rw [claimed, extended]
    exact Naming.small_append _ _ (Naming.local_name_small _)
  exact ⟨bound_idents_words names parameters b member, small, ((bound_idents_free names parameters).1 b member).1⟩

-- A name that ends in no digit is never made by numbering another.
theorem claim_plain_iff (names : Names) (stem name : String) (plain : ∀ c ∈ name.toList.getLast?, c.isDigit = false) :
    name = (names.claim stem).1 ↔ stem = name ∧ name ∉ names.taken := by
  constructor
  · intro same
    have absent := names.claim_absent stem
    rw [← same] at absent
    rcases names.claim_cases stem with kept | ⟨number, numbered⟩
    · exact ⟨kept.symm.trans same.symm, absent⟩
    · obtain ⟨c, last, digit⟩ := Naming.numbered_last stem number
      rw [← numbered, ← same] at last
      rw [plain c last] at digit
      cases digit
  · rintro ⟨rfl, free⟩
    simp only [Names.claim, if_neg free]

theorem bound_ident_plain (name : String) (plain : ∀ c ∈ name.toList.getLast?, c.isDigit = false) (names : Names)
    (parameters : List Parameter) :
    name ∈ (bindPathParameters names parameters).map BoundParameter.ident ↔
      name ∉ names.taken ∧ ∃ parameter ∈ parameters, parameter.location = "path" ∧
        Naming.localName (String.ofList (withoutStars parameter.name.toList)) = name := by
  induction parameters generalizing names with
  | nil => simp [bindPathParameters]
  | cons parameter rest ih =>
      rw [bindPathParameters, List.exists_mem_cons_iff]
      split
      next inPath =>
        have settle {claimed taken own later : Prop} (known : claimed ↔ own ∧ ¬ taken) :
            claimed ∨ ¬ (claimed ∨ taken) ∧ later ↔ ¬ taken ∧ (own ∨ later) := by
          rw [known]
          tauto
        dsimp only
        rw [List.map_cons, List.mem_cons, ih, Names.claim_mem, and_iff_right inPath]
        exact settle (claim_plain_iff names _ name plain)
      next elsewhere => rw [ih names, or_iff_right fun own => elsewhere own.1]

theorem back_names (call : ClientCall) (body : call.body = none ∨ call.body = some "body")
    (options : call.options = none ∨ call.options = some "opts") :
    "nil" ∈ call.back ∧ ∀ name ∈ call.back, Identifiers.isIdentifier name = true →
      name = "nil" ∨ name = "_" ∨ name ∈ Naming.bodyNames := by
  unfold ClientCall.back
  rcases body with body | body <;> rcases options with options | options <;> rw [body, options] <;>
    cases call.response.byPointer <;> decide

theorem front_names (call : ClientCall) (type : String) (capital : Naming.Capital type) :
    ∀ name ∈ call.front type, Identifiers.isIdentifier name = true → name ∈ Naming.bodyNames ∨ Naming.Capital name := by
  intro name member identifier
  have fixed : ∀ name ∈ ["var", "out", "path", "fmt"], Identifiers.isIdentifier name = true → name ∈ Naming.bodyNames := by
    decide
  by_cases same : name = type
  · exact Or.inr (same ▸ capital)
  · refine Or.inl (fixed name ?_ identifier)
    have listed : name ∈ ["var", "out", "path"] ∨ name = "fmt" := by
      unfold ClientCall.front at member
      split at member
      · exact Or.inl (by simpa [same] using member)
      · simpa [same, or_assoc] using member
    rcases listed with listed | rfl
    · exact List.mem_append_left ["fmt"] listed
    · decide

theorem call_names_apart (call : ClientCall) (type : String) (idents : List String) (spelled : call.Spelled)
    (word : Naming.Word type) (capital : Naming.Capital type)
    (typed : call.response.type = .named type ∨ call.response.type = .slice (.named type))
    (body : call.body = none ∨ call.body = some "body") (options : call.options = none ∨ call.options = some "opts")
    (arguments : ∀ argument ∈ call.path.arguments, argument ∈ idents) (own : ∀ ident ∈ idents, Naming.Local ident) :
    ∃ front back, Identifiers.ofText call.render = front ++ call.path.arguments ++ back ∧
      (∀ name ∈ front ++ back, name = "nil" ∨ name = "_" ∨ name ∈ Naming.bodyNames ∨ Naming.Capital name) ∧
      ∀ ident ∈ idents, ident ∈ front ++ back ↔ ident = "nil" := by
  obtain ⟨nil, behind⟩ := back_names call body options
  have kept : call.path.arguments.filter Identifiers.isIdentifier = call.path.arguments :=
    List.filter_eq_self.mpr fun argument member =>
      Identifiers.identifier_read argument (Naming.local_identifier _ argument (own argument (arguments argument member)))
  have kinds : ∀ name ∈ (call.front type).filter Identifiers.isIdentifier ++ call.back.filter Identifiers.isIdentifier,
      name = "nil" ∨ name = "_" ∨ name ∈ Naming.bodyNames ∨ Naming.Capital name := by
    intro name member
    rcases List.mem_append.mp member with before | after
    · obtain ⟨listed, identifier⟩ := List.mem_filter.mp before
      exact Or.inr (Or.inr (front_names call type capital name listed identifier))
    · obtain ⟨listed, identifier⟩ := List.mem_filter.mp after
      rcases behind name listed identifier with nil | blank | reserved
      · exact Or.inl nil
      · exact Or.inr (Or.inl blank)
      · exact Or.inr (Or.inr (Or.inl reserved))
  refine ⟨_, _, ?_, kinds, fun ident member => ⟨fun again => ?_, ?_⟩⟩
  · rw [(call_words call spelled type word typed).of_text, List.filter_append, List.filter_append, kept]
  · obtain ⟨_, small, free⟩ := own ident member
    rcases kinds ident again with nil | rfl | reserved | upper
    · exact nil
    · obtain ⟨c, rest, chars, lower⟩ := small
      obtain ⟨rfl, _⟩ := List.cons.inj (chars : ['_'] = c :: rest)
      cases lower
    · exact absurd (Or.inr reserved) free
    · exact absurd upper (Naming.small_not_capital ident small)
  · rintro rfl
    exact List.mem_append_right _ (List.mem_filter.mpr ⟨nil, by decide⟩)

theorem fixed_names_identifiers (alphabet : Naming.Alphabet) : ∀ name ∈ ["ctx", "body", "opts"], alphabet.Identifier name := by
  have plain (name : String) (word : Naming.Word name) (small : Naming.Small name) (free : name ∉ Naming.keywords) :=
    Naming.small_identifier alphabet name word small free
  simp only [List.forall_mem_cons, List.not_mem_nil, false_imp_iff, implies_true, and_true]
  exact ⟨plain _ ⟨by decide, by decide⟩ ⟨_, _, rfl, rfl⟩ (by decide),
    plain _ ⟨by decide, by decide⟩ ⟨_, _, rfl, rfl⟩ (by decide),
    plain _ ⟨by decide, by decide⟩ ⟨_, _, rfl, rfl⟩ (by decide)⟩

theorem method_names_apart (components : Components) (earlier : List String) (entry : Document.Entry)
    (before after : SourceUnit) (operation : CompiledOperation)
    (compiled : Compiled components earlier entry before (.emitted operation) after) :
    ∃ parameters idents, mergedParameters components entry.item entry.operation = .ok parameters ∧
      NamesApart parameters idents operation.signature := by
  cases compiled with
  | @emitted _ parameters inPath body option response path _ first second third fourth _ _ _ _ merged pathTyped _ _
      responseTyped template _ _ =>
      obtain ⟨free, distinct⟩ := bound_idents_free {} parameters
      obtain ⟨others, known, named⟩ :=
        method_names components entry _ path inPath body option response before first pathTyped
      obtain ⟨type, word, capital, typed⟩ :=
        payload_typed_named components entry "Response" _ _ _ response (by decide) responseTyped
      have own : ∀ ident ∈ (bindPathParameters {} parameters).map BoundParameter.ident, Naming.Local ident := by
        intro ident member
        obtain ⟨b, listed, rfl⟩ := List.mem_map.mp member
        exact bound_idents_local {} parameters b listed
      have arguments : ∀ argument ∈ path.arguments, argument ∈ (bindPathParameters {} parameters).map BoundParameter.ident := by
        intro argument member
        obtain ⟨b, listed, rfl⟩ := template_arguments _ _ path template argument member
        exact List.mem_map_of_mem listed
      have spelled := bound_method_spelled components entry parameters inPath body option response path _ _ pathTyped template
      refine ⟨parameters, _, merged, rfl, ⟨others, known, named⟩, ?_, fun alphabet name member => ?_, ?_, ?_⟩
      · rw [named]
        exact method_names_distinct _ others (fun ident member => (own ident member).free) distinct known
      · have fixed := fixed_names_identifiers alphabet
        rw [named] at member
        rcases List.mem_cons.mp member with rfl | member
        · exact fixed "ctx" List.mem_cons_self
        · rcases List.mem_append.mp member with bound | other
          · exact Naming.local_identifier alphabet name (own name bound)
          · exact fixed name (List.mem_cons_of_mem _ (known.subset other))
      · obtain ⟨front, back, read, kinds, apart⟩ := call_names_apart _ type _ spelled.body word capital typed
          (by cases body <;> simp) (by cases option <;> simp) arguments own
        exact ⟨_, front, back, rfl, arguments, read, kinds, apart⟩
      · rw [bound_ident_plain "nil" (by simp)]
        exact and_iff_right List.not_mem_nil

end ApiBindings
