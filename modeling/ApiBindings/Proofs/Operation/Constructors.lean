import ApiBindings.Generation
import ApiBindings.Proofs.Operation.Finder
import ApiBindings.Proofs.Generation.Gather
set_option autoImplicit false

namespace ApiBindings

def SourceUnit.plainFunctions (unit : SourceUnit) : List String :=
  (unit.functions.filter fun f => f.receiver.isNone).map Function.name

def constructorName (operation suffix : String) : String := operation ++ "With" ++ suffix

namespace SourceUnit

theorem same_plain_functions (before after : SourceUnit) (same : after.functions = before.functions) :
    after.plainFunctions = before.plainFunctions := by
  rw [plainFunctions, plainFunctions, same]

theorem push_method (unit : SourceUnit) (f : Function) (method : f.receiver.isSome = true) :
    (unit.push f).plainFunctions = unit.plainFunctions := by
  have attached : f.receiver.isNone = false := by rw [Option.isNone_eq_false_iff, method]
  simp [plainFunctions, push, List.filter_append, attached]

theorem push_plain (unit : SourceUnit) (f : Function) (plain : f.receiver = none) :
    (unit.push f).plainFunctions = unit.plainFunctions ++ [f.name] := by
  simp [plainFunctions, push, List.filter_append, plain]

end SourceUnit

theorem constructed_plain_functions (components : Components) (operation option : String) (names : Names)
    (query : List Parameter) (before after : SourceUnit)
    (constructed : Constructed components operation option names query before after) :
    ∃ suffixes : List String, after.plainFunctions = before.plainFunctions ++ suffixes.map (constructorName operation) ∧
      suffixes.Nodup ∧ ∀ suffix ∈ suffixes, suffix ∉ names.taken ∧ Naming.Word suffix := by
  induction constructed with
  | none => exact ⟨[], (List.append_nil _).symm, List.nodup_nil, List.forall_mem_nil _⟩
  | @next names others parameter rest suffix type before middle after claimed typed _ ih =>
      obtain ⟨suffixes, added, distinct, free⟩ := ih
      have absent := Names.claim_absent names (Naming.exported parameter.name)
      have taken := Names.claim_mem names (Naming.exported parameter.name)
      obtain ⟨number, chars, extended⟩ := Names.claim_extends names (Naming.exported parameter.name)
      rw [claimed] at absent taken extended
      change suffix = _ at extended
      refine ⟨suffix :: suffixes, ?_, List.nodup_cons.mpr ⟨fun again => ?_, distinct⟩, fun other member => ?_⟩
      · rw [added, SourceUnit.push_plain _ _ rfl,
          SourceUnit.same_plain_functions before middle (parameter_typed_functions components _ _ _ _ _ typed),
          List.append_assoc]
        rfl
      · exact (free suffix again).1 ((taken suffix).mpr (Or.inl rfl))
      · rcases List.mem_cons.mp member with rfl | later
        · exact ⟨absent, extended ▸ Naming.word_append _ _ (Naming.exported_word parameter.name) chars⟩
        · exact ⟨fun known => (free other later).1 ((taken other).mpr (Or.inr known)), (free other later).2⟩

theorem finder_plain_functions (components : Components) (operation : String) (s : Schema) (response : Payload)
    (before after : SourceUnit) (searched : ResponseSearched components operation s response before after) :
    after.plainFunctions = before.plainFunctions := by
  cases searched with
  | skipped => rfl
  | searched _ _ finder =>
      cases finder with
      | none => rfl
      | found _ _ error =>
          rw [SourceUnit.push_method _ _ rfl]
          cases error with
          | known => rfl
          | new _ declared =>
              rw [SourceUnit.push_method _ _ rfl]
              exact SourceUnit.same_plain_functions _ _ (SourceUnit.declare_functions _ _ _ declared)

theorem compiled_plain_functions (components : Components) (earlier : List String) (entry : Document.Entry)
    (before after : SourceUnit) (outcome : Outcome)
    (compiled : Compiled components earlier entry before outcome after) :
    entry.name ∉ earlier ∧
      ∃ suffixes : List String, after.plainFunctions = before.plainFunctions ++ suffixes.map (constructorName entry.name) ∧
        suffixes.Nodup ∧ (∀ suffix ∈ suffixes, Naming.Word suffix) ∧
        (suffixes ≠ [] → ∃ operation, outcome = .emitted operation ∧ operation.signature.name = entry.name) := by
  cases compiled with
  | skipped fresh =>
      exact ⟨fresh, [], (List.append_nil _).symm, List.nodup_nil, List.forall_mem_nil _,
        fun nonempty => absurd rfl nonempty⟩
  | @emitted _ _ _ _ _ _ _ _ first second third fourth fifth _ fresh _ _ pathTyped bodyTyped optionClaimed
      responseTyped _ optionsDeclared searched =>
      refine ⟨fresh, ?_⟩
      have same := payloads_functions components pathTyped bodyTyped optionClaimed responseTyped
      have method : ∃ suffixes : List String, fifth.plainFunctions = before.plainFunctions ++ suffixes.map (constructorName entry.name) ∧
          suffixes.Nodup ∧ ∀ suffix ∈ suffixes, Naming.Word suffix := by
        cases optionsDeclared with
        | none =>
            refine ⟨[], ?_, List.nodup_nil, List.forall_mem_nil _⟩
            rw [SourceUnit.push_method _ _ rfl, SourceUnit.same_plain_functions _ _ same]
            exact (List.append_nil _).symm
        | some declared constructed =>
            obtain ⟨suffixes, added, distinct, free⟩ := constructed_plain_functions components _ _ _ _ _ _ constructed
            refine ⟨suffixes, ?_, distinct, fun suffix member => (free suffix member).2⟩
            rw [added, SourceUnit.same_plain_functions _ _ (SourceUnit.declare_functions _ _ _ declared),
              SourceUnit.push_method _ _ rfl, SourceUnit.same_plain_functions _ _ same]
      obtain ⟨suffixes, added, distinct, words⟩ := method
      exact ⟨suffixes, (finder_plain_functions components _ _ _ _ _ searched).trans added, distinct, words,
        fun _ => ⟨_, rfl, rfl⟩⟩

-- Operations have different names, so a constructor is told by its operation and
-- its suffix.
theorem operations_plain_functions (components : Components) (earlier : List String) (entries : List Document.Entry)
    (before after : SourceUnit) (outcomes : List Outcome)
    (steps : Steps (fun (earlier, entry) => compileOperation components earlier entry) (withEarlier earlier entries)
      before outcomes after) :
    ∃ made : List (String × String),
      after.plainFunctions = before.plainFunctions ++ made.map (fun (operation, suffix) => constructorName operation suffix) ∧
      made.Nodup ∧ ∀ m ∈ made, m.1 ∉ earlier ∧ Naming.Word m.2 ∧
        ∃ operation ∈ outcomes.filterMap Outcome.emitted?, operation.signature.name = m.1 := by
  induction entries generalizing earlier before outcomes with
  | nil =>
      cases steps
      exact ⟨[], (List.append_nil _).symm, List.nodup_nil, List.forall_mem_nil _⟩
  | cons entry rest ih =>
      cases steps with
      | @next _ _ outcome outcomes _ middle _ ran others =>
      obtain ⟨made, added, distinct, known⟩ := ih (entry.name :: earlier) middle outcomes others
      obtain ⟨fresh, suffixes, own, different, words, emitted⟩ := compiled_plain_functions components earlier entry before
        middle outcome (compile_operation_compiled components earlier entry before middle outcome ran)
      refine ⟨suffixes.map (entry.name, ·) ++ made, ?_, ?_, fun m member => ?_⟩
      · rw [added, own, List.map_append, List.map_map, List.append_assoc]
        rfl
      · refine List.nodup_append.mpr ⟨different.map fun a b same => (Prod.mk.inj same).2, distinct, ?_⟩
        rintro m own n later rfl
        obtain ⟨suffix, _, rfl⟩ := List.mem_map.mp own
        exact (known _ later).1 List.mem_cons_self
      · rcases List.mem_append.mp member with own | later
        · obtain ⟨suffix, listed, rfl⟩ := List.mem_map.mp own
          obtain ⟨operation, rfl, named⟩ := emitted (List.ne_nil_of_mem listed)
          exact ⟨fresh, words suffix listed, operation, List.mem_cons_self, named⟩
        · obtain ⟨new, word, operation, listed, named⟩ := known m later
          refine ⟨fun old => new (List.mem_cons_of_mem _ old), word, operation, ?_, named⟩
          obtain ⟨other, present, kept⟩ := List.mem_filterMap.mp listed
          exact List.mem_filterMap.mpr ⟨other, List.mem_cons_of_mem _ present, kept⟩

end ApiBindings
