import ApiBindings.Proofs.Document.Reading
import ApiBindings.Proofs.Generation.Gather
import ApiBindings.Proofs.Generation.Types
import ApiBindings.Proofs.Operation.Growth
set_option autoImplicit false

namespace ApiBindings

def Document.Keyed (doc : Document) : Prop :=
  ∀ entry ∈ doc.entries, ∀ s ∈ entry.operation.responseSchema, ∀ target ∈ s.effective.toOption,
    ∀ properties ∈ target.properties, (properties.map Prod.fst).Nodup

theorem response_schema_enclosed (doc : Document) (entry : Document.Entry) (s : Schema) (listed : entry ∈ doc.entries)
    (given : entry.operation.responseSchema = some s) : doc.Encloses s := by
  obtain ⟨response, success, json⟩ := Option.bind_eq_some_iff.mp given
  have member := Data.lookup_mem _ _ _ success
  unfold Content.jsonSchema at json
  split at json
  next schema found => exact .response listed member (Data.lookup_mem _ _ _ found) json
  next =>
    obtain ⟨content, found, same⟩ := Option.map_eq_some_iff.mp (Option.join_eq_some_iff.mp json)
    exact .response listed member (List.mem_of_find?_eq_some found) same

theorem read_keyed (format : DataFormat) (text : String) (doc : Document) (done : Document.read format text = .ok doc) :
    doc.Keyed := by
  obtain ⟨_, _, sound⟩ := read_well_formed format text doc done
  intro entry listed s given target stripped properties held
  have outer := response_schema_enclosed doc entry s listed given
  cases bare : s.effective with
  | error defect =>
      rw [bare] at stripped
      cases stripped
  | ok found =>
      rw [bare] at stripped
      obtain rfl := Option.some.inj stripped
      exact Data.ordered_keys properties ((sound found (effective_enclosed doc s found outer bare)).properties properties held)

theorem generate_operations_unit (doc : Document) (options : UnitOptions) (generated : Generated)
    (done : generateOperations doc options = .ok generated) :
    ∃ outcomes unit, buildOperations doc options.package = .ok (outcomes, unit) ∧
      formatUnit options .operations unit.render = .ok generated.source := by
  unfold generateOperations at done
  obtain ⟨⟨outcomes, unit⟩, built, done⟩ := except_bind_ok _ _ _ done
  obtain ⟨source, formatted, done⟩ := except_bind_ok _ _ _ done
  obtain rfl := Except.ok.inj done
  exact ⟨outcomes, unit, built, formatted⟩

def operationsStart (doc : Document) (package : String) : SourceUnit :=
  (typesUnitNames doc).foldl SourceUnit.reserve { package }

theorem build_operations_steps (doc : Document) (package : String) (outcomes : List Outcome) (unit : SourceUnit)
    (built : buildOperations doc package = .ok (outcomes, unit)) :
    Steps (fun (earlier, entry) => compileOperation doc.componentsOrNone earlier entry) (compileEntries doc)
      (operationsStart doc package) outcomes unit := by
  unfold buildOperations at built
  dsimp only at built
  rw [← operationsStart] at built
  cases ran : (gatherAll (fun (earlier, entry) => compileOperation doc.componentsOrNone earlier entry)
      (compileEntries doc)).result (operationsStart doc package) with
  | mk result last =>
      rw [ran] at built
      cases result with
      | error failure => cases built
      | ok results =>
          obtain ⟨rfl, rfl⟩ := Prod.mk.inj (Except.ok.inj built)
          exact gather_all_steps _ _ _ _ _ ran

theorem operation_grows (doc : Document) (entries : List (List String × Document.Entry))
    (entry : List String × Document.Entry) (_ : entry ∈ entries) (outcome : Outcome) (before after : SourceUnit)
    (done : (compileOperation doc.componentsOrNone entry.1 entry.2).result before = (.ok outcome, after)) :
    before.Grows [notFoundName] after :=
  compiled_grows doc.componentsOrNone entry.1 entry.2 before after outcome
    (compile_operation_compiled doc.componentsOrNone entry.1 entry.2 before after outcome done)

theorem build_operations_grow (doc : Document) (package : String) (outcomes : List Outcome) (unit : SourceUnit)
    (built : buildOperations doc package = .ok (outcomes, unit)) :
    (operationsStart doc package).Grows [notFoundName] unit :=
  steps_grow _ _ _ _ _ _ (build_operations_steps doc package outcomes unit built)
    (operation_grows doc (compileEntries doc))

theorem build_operations_distinct (doc : Document) (package : String) (outcomes : List Outcome) (unit : SourceUnit)
    (built : buildOperations doc package = .ok (outcomes, unit)) : unit.Distinct := by
  refine (build_operations_grow doc package outcomes unit built).distinct ?_
  rw [SourceUnit.Distinct, operationsStart, (reserve_all_declarations (typesUnitNames doc) { package }).1]
  exact List.nodup_nil

theorem with_earlier_entry (earlier : List String) (entries : List Document.Entry) (entry : List String × Document.Entry)
    (member : entry ∈ withEarlier earlier entries) : entry.2 ∈ entries := by
  induction entries generalizing earlier with
  | nil => exact absurd member List.not_mem_nil
  | cons first rest ih =>
      rcases List.mem_cons.mp member with rfl | later
      · exact List.mem_cons_self
      · exact List.mem_cons_of_mem _ (ih _ later)

theorem operations_keep (doc : Document) (package : String) (outcomes : List Outcome) (unit : SourceUnit)
    (holds : SourceUnit → Prop) (built : buildOperations doc package = .ok (outcomes, unit))
    (start : ∀ empty : SourceUnit, empty.declarations = [] → empty.functions = [] → holds empty)
    (kept : ∀ earlier, ∀ entry ∈ doc.entries, ∀ outcome before after,
      Compiled doc.componentsOrNone earlier entry before outcome after →
      (∀ d ∈ after.declarations, d ∈ unit.declarations) → holds before → holds after) : holds unit := by
  obtain ⟨noDeclarations, noFunctions⟩ := reserve_all_declarations (typesUnitNames doc) { package }
  refine steps_keep _ _ _ _ _ _ holds (build_operations_steps doc package outcomes unit built)
    (operation_grows doc (compileEntries doc)) ?_ (start _ noDeclarations noFunctions)
  intro entry listed outcome before after ran below held
  exact kept entry.1 entry.2 (with_earlier_entry [] doc.entries entry listed) outcome before after
    (compile_operation_compiled doc.componentsOrNone entry.1 entry.2 before after outcome ran) below held

end ApiBindings
