import ApiBindings.Proofs.Documentation.Gather
import ApiBindings.Proofs.Documentation.Operation
import ApiBindings.Proofs.Generation.Components
import ApiBindings.Proofs.Generation.Layout
set_option autoImplicit false

namespace ApiBindings

namespace Document

def componentSchemas (doc : Document) : List Schema := doc.schemas.map Prod.snd

def allSchemas (doc : Document) : List Schema :=
  doc.componentSchemas ++ doc.entries.flatMap (Entry.schemas doc.componentsOrNone)

end Document

section

variable (doc other : Document) (same : doc.Agrees other)
include same

theorem components_agree : doc.componentsOrNone.Agrees other.componentsOrNone := by
  have both : doc.undocumented.components = other.undocumented.components := congrArg _ same
  change doc.components.map Components.undocumented = other.components.map Components.undocumented at both
  unfold Document.componentsOrNone
  rcases option_cases _ _ (option_of_map _ _ _ _ both) with ⟨none, absent⟩ | ⟨own, beside, held, kept, alike⟩
  · rw [none, absent]
    rfl
  · rw [held, kept]
    exact alike

theorem schemas_agree : List.Forall₂ (EntryRelated Schema.Agrees) doc.schemas other.schemas := by
  have entries := doc.componentsOrNone.agrees_schemas other.componentsOrNone (components_agree doc other same)
  rwa [component_schemas, component_schemas] at entries

theorem schema_names_same : doc.schemas.map Prod.fst = other.schemas.map Prod.fst :=
  entries_names _ _ _ (schemas_agree doc other same)

theorem type_names_same : doc.typeNames = other.typeNames := by
  have names := congrArg (List.map Naming.exported) (schema_names_same doc other same)
  rwa [List.map_map, List.map_map] at names

theorem documents_paired (loose : Prop) (roots others : List Schema) (held : ∀ s ∈ doc.componentSchemas, s ∈ roots)
    (kept : ∀ t ∈ other.componentSchemas, t ∈ others) (twins : Twins roots ∨ Twins others → loose) :
    Paired loose doc.componentsOrNone other.componentsOrNone roots others := by
  refine ⟨components_agree doc other same, fun entry member => held _ ?_, fun entry member => kept _ ?_, twins⟩
  · exact List.mem_map_of_mem (component_schemas doc ▸ member)
  · exact List.mem_map_of_mem (component_schemas other ▸ member)

theorem entries_partners :
    List.Forall₂ (fun e f => EntryPartners doc.componentsOrNone other.componentsOrNone doc.allSchemas other.allSchemas e f ∧
      e ∈ doc.entries) doc.entries other.entries := by
  have entries : doc.entries.map Document.Entry.undocumented = other.entries.map Document.Entry.undocumented := by
    rw [← entries_undocumented, ← entries_undocumented, same]
  refine (forall_members _ _ (forall_of_map _ _ _ _ entries)).imp fun e f both => ⟨?_, both.2.1⟩
  refine entry_partners _ _ (components_agree doc other same) e f both.1 (fun s member => ?_) fun t member => ?_
  · exact List.mem_append_right _ (List.mem_flatMap.mpr ⟨e, both.2.1, member⟩)
  · exact List.mem_append_right _ (List.mem_flatMap.mpr ⟨f, both.2.2, member⟩)

end

theorem compile_entries_related {related : Document.Entry → Document.Entry → Prop}
    (named : ∀ e f, related e f → e.name = f.name) (earlier : List String) (entries others : List Document.Entry)
    (agree : List.Forall₂ related entries others) :
    List.Forall₂ (fun p q => p.1 = q.1 ∧ related p.2 q.2) (withEarlier earlier entries) (withEarlier earlier others) := by
  induction agree generalizing earlier with
  | nil => exact .nil
  | @cons e f _ _ head _ ih =>
      rw [withEarlier, withEarlier, named e f head]
      exact .cons ⟨rfl, head⟩ (ih _)

def Clash (failure : Failure) : Prop := ∃ name, failure = .malformed name .conflictingDeclarations

structure Rendering.Beside (names : List String) (loose : Prop) (a b : SourceUnit) : Prop where
  agree : a.Agrees loose b
  registered : a.TagsRegistered
  taken : ∀ name ∈ names, name ∈ a.names.taken

theorem started_beside (loose : Prop) (names : List String) (package : String) :
    Rendering.Beside names loose (names.foldl SourceUnit.reserve { package }) (names.foldl SourceUnit.reserve { package }) := by
  have empty := (reserve_all_declarations names { package }).1
  refine ⟨SourceUnit.agrees_reserve _ _ ⟨rfl, .nil, rfl, rfl⟩ names, fun d member => ?_, reserve_all_taken names { package }⟩
  rw [empty] at member
  exact absurd member List.not_mem_nil

theorem clash_supported (name : String) (shape : UnsupportedShape) : ¬ Clash (.unsupported name shape) := by
  rintro ⟨_, clash⟩
  cases clash

theorem component_beside (doc other : Document) (loose : Prop) (roots others : List Schema) (names : List String)
    (paired : Paired loose doc.componentsOrNone other.componentsOrNone roots others) (p q : String × Schema)
    (entry : EntryRelated (Partners roots others) p q) (listed : Naming.exported p.1 ∈ names) (a b : SourceUnit)
    (beside : Rendering.Beside names loose a b) :
    Rendering.Beside names loose ((renderComponent doc p).result a).2 ((renderComponent other q).result b).2 ∧
      RunsAgree (Rendering.Beside names loose) Clash (fun _ _ => True) ((renderComponent doc p).result a)
        ((renderComponent other q).result b) := by
  obtain ⟨key, s, t, rfl, rfl, partners⟩ := entry_cases _ p q entry
  obtain ⟨agree, leaves, outcome⟩ := component_agrees paired (Naming.exported key) s t partners a b beside.agree
    beside.registered (beside.taken _ listed)
  have after : Rendering.Beside names loose ((renderComponent doc (key, s)).result a).2
      ((renderComponent other (key, t)).result b).2 :=
    ⟨agree, leaves.registered, fun name member => leaves.taken name (beside.taken name member)⟩
  refine ⟨after, ?_⟩
  rcases outcome with results | clash | clash
  · exact Or.inl ⟨after, results⟩
  · exact Or.inr (Or.inl ⟨_, clash, _, rfl⟩)
  · exact Or.inr (Or.inr ⟨_, clash, _, rfl⟩)

-- The names that the types take do not even depend on clashes: a declaration that
-- is refused leaves the unit as it was.
theorem types_unit_names_same (doc other : Document) (same : doc.Agrees other) : typesUnitNames doc = typesUnitNames other := by
  have paired := documents_paired doc other same True doc.componentSchemas other.componentSchemas (fun _ member => member)
    (fun _ member => member) fun _ => trivial
  have entries := partners_components paired
  rw [component_schemas, component_schemas] at entries
  have run : ∀ first second, List.Forall₂ (fun p q =>
        EntryRelated (Partners doc.componentSchemas other.componentSchemas) p q ∧ p ∈ doc.schemas ∧ q ∈ other.schemas)
        first second → ∀ a b, Rendering.Beside doc.typeNames True a b →
      Rendering.Beside doc.typeNames True (first.foldl (fun unit entry => ((renderComponent doc entry).result unit).2) a)
        (second.foldl (fun unit entry => ((renderComponent other entry).result unit).2) b) := by
    intro first second agree
    induction agree with
    | nil => exact fun _ _ beside => beside
    | cons head _ ih =>
        exact fun a b beside => ih _ _ (component_beside doc other True _ _ doc.typeNames paired _ _ head.1
          (List.mem_map_of_mem head.2.1) a b beside).1
  have last := run _ _ (forall_members _ _ entries) _ _ (started_beside True doc.typeNames "scratch")
  unfold typesUnitNames reserveComponents
  rw [← type_names_same doc other same]
  exact congrArg Names.taken last.agree.names

theorem build_types_agree (doc other : Document) (same : doc.Agrees other) (package : String) :
    Results (SourceUnit.Agrees (Twins doc.componentSchemas ∨ Twins other.componentSchemas)) (buildTypes doc package)
        (buildTypes other package) ∨
      Ended Clash (buildTypes doc package) ∨ Ended Clash (buildTypes other package) := by
  have paired := documents_paired doc other same _ doc.componentSchemas other.componentSchemas (fun _ member => member)
    (fun _ member => member) id
  have entries := partners_components paired
  rw [component_schemas, component_schemas] at entries
  have run := gather_all_agrees clash_supported (renderComponent doc) (renderComponent other) _
    (fun p q a b head beside => (component_beside doc other _ _ _ doc.typeNames paired p q head.1
      (List.mem_map_of_mem head.2.1) a b beside).2) _ _ (forall_members _ _ entries) _ _
    (started_beside _ doc.typeNames package)
  unfold buildTypes reserveComponents
  dsimp only
  rw [← type_names_same doc other same]
  rcases run with ⟨held, results⟩ | clash | clash
  · exact Or.inl (results_map _ _ _ _ results fun _ _ _ => held.agree)
  · exact Or.inr (Or.inl (ended_map Clash _ _ clash))
  · exact Or.inr (Or.inr (ended_map Clash _ _ clash))

theorem build_operations_agree (doc other : Document) (same : doc.Agrees other) (keyed : doc.Keyed) (package : String) :
    Results (fun x y => x.1.map Outcome.undocumented = y.1.map Outcome.undocumented ∧
        x.2.Agrees (Twins doc.allSchemas ∨ Twins other.allSchemas) y.2)
      (buildOperations doc package) (buildOperations other package) := by
  have paired := documents_paired doc other same _ doc.allSchemas other.allSchemas
    (fun _ member => List.mem_append_left _ member) (fun _ member => List.mem_append_left _ member) id
  have entries := compile_entries_related (fun e f both => both.1.name) [] _ _ (entries_partners doc other same)
  have step (p q : List String × Document.Entry) (a b : SourceUnit)
      (head : p.1 = q.1 ∧ EntryPartners doc.componentsOrNone other.componentsOrNone doc.allSchemas other.allSchemas p.2 q.2 ∧
        p.2 ∈ doc.entries) (beside : Rendering.Beside [] (Twins doc.allSchemas ∨ Twins other.allSchemas) a b) :
      RunsAgree (Rendering.Beside [] (Twins doc.allSchemas ∨ Twins other.allSchemas)) (fun _ => False)
        (fun o p => o.undocumented = p.undocumented)
        ((compileOperation doc.componentsOrNone p.1 p.2).result a)
        ((compileOperation other.componentsOrNone q.1 q.2).result b) := by
    obtain ⟨earlier, partners, listed⟩ := head
    have distinct (s target : Schema) (properties : List (String × Schema))
        (given : p.2.operation.responseSchema = some s) (stripped : s.effective = .ok target)
        (held : target.properties = some properties) : (properties.map Prod.fst).Nodup :=
      keyed p.2 listed s given target (by rw [stripped]; rfl) properties held
    obtain ⟨agree, results, leaves⟩ := compile_operation_lockstep paired p.1 p.2 q.2 partners distinct a b
      beside.agree beside.registered (List.forall_mem_nil _)
    rw [← earlier]
    exact Or.inl ⟨⟨agree, leaves.registered, List.forall_mem_nil _⟩, results⟩
  have start := started_beside (Twins doc.allSchemas ∨ Twins other.allSchemas) (typesUnitNames doc) package
  have run := gather_all_agrees (fun _ _ => not_false) _ _ _ step _ _ entries _ _
    ⟨start.agree, start.registered, List.forall_mem_nil _⟩
  unfold buildOperations
  dsimp only
  rw [← types_unit_names_same doc other same]
  rcases run with ⟨held, results⟩ | ⟨_, _, never⟩ | ⟨_, _, never⟩
  · refine results_map _ _ _ _ results fun outcomes others alike => ⟨?_, held.agree⟩
    rw [← List.forall₂_eq_eq_eq, List.forall₂_map_left_iff, List.forall₂_map_right_iff]
    exact alike
  · exact never.elim
  · exact never.elim

-- A run comes to an end that the formatter decides. The builtin one takes every
-- unit of a package that has an accepted name.
def Finished (options : UnitOptions) (unit : SourceUnit) (run : Except Failure Generated) : Prop :=
  match Formatter.ofKind options.installed options.formatter with
  | .error failure => run = .error failure
  | .ok formatter =>
    (formatter = .builtin ∧ Command.isPackageName options.package = true) ∨ (formatter.format unit.render).isOk = true →
      ∃ generated, run = .ok generated ∧ formatter.format unit.render = .ok generated.source

theorem format_unit_finished (options : UnitOptions) (kind : UnitKind) (unit : SourceUnit)
    (fits : Command.isPackageName options.package = true → unit.FitsLayout) (finish : String → Generated)
    (kept : ∀ source, (finish source).source = source) :
    Finished options unit ((formatUnit options kind unit.render).map finish) := by
  unfold Finished formatUnit
  cases Formatter.ofKind options.installed options.formatter with
  | error failure => rfl
  | ok formatter =>
      intro taken
      have accepted : ∃ source, formatter.format unit.render = .ok source := by
        rcases taken with ⟨rfl, package⟩ | ok
        · obtain ⟨formatted, same, _⟩ := fits package
          exact ⟨String.ofList formatted, by rw [Formatter.format, same]⟩
        · exact ok_exists _ ok
      obtain ⟨source, formatted⟩ := accepted
      refine ⟨finish source, ?_, by rw [kept, formatted]⟩
      simp only [bind, Except.bind, formatted]
      rfl

theorem types_finished (doc : Document) (options : UnitOptions) (unit : SourceUnit)
    (built : buildTypes doc options.package = .ok unit) : Finished options unit (generateTypes doc options) := by
  have finished := format_unit_finished options .types unit
    (fun accepted => (types_unit_fits doc options (package_name_word _ accepted) unit built).2.1)
    (fun source => { kind := .types, source }) fun _ => rfl
  unfold generateTypes
  rw [built]
  exact finished

theorem operations_finished (doc : Document) (options : UnitOptions) (outcomes : List Outcome) (unit : SourceUnit)
    (built : buildOperations doc options.package = .ok (outcomes, unit)) :
    Finished options unit (generateOperations doc options) := by
  have finished := format_unit_finished options .operations unit
    (fun accepted => (operations_unit_fits doc options (package_name_word _ accepted) outcomes unit built).2.1)
    (fun source => {
      kind := .operations
      source
      operations := outcomes.filterMap Outcome.emitted?
      skipped := outcomes.filterMap Outcome.skipped? }) fun _ => rfl
  unfold generateOperations
  rw [built]
  exact finished

def ComponentsClash (doc : Document) (options : UnitOptions) : Prop :=
  ∃ name first last, generateTypes doc options = .error (.malformed name .conflictingDeclarations) ∧
    [first, last].Sublist (doc.schemas.map Prod.fst) ∧ Naming.exported first = name ∧ Naming.exported last = name

def TypesAgree (doc other : Document) (options : UnitOptions) : Prop :=
  (∃ failure, generateTypes doc options = .error failure ∧ generateTypes other options = .error failure) ∨
  (∃ unit twin, buildTypes doc options.package = .ok unit ∧ buildTypes other options.package = .ok twin ∧
    unit.Agrees (Twins doc.componentSchemas ∨ Twins other.componentSchemas) twin ∧
    Finished options unit (generateTypes doc options) ∧ Finished options twin (generateTypes other options)) ∨
  ComponentsClash doc options ∨ ComponentsClash other options

def OperationsAgree (doc other : Document) (options : UnitOptions) : Prop :=
  (∃ failure, generateOperations doc options = .error failure ∧ generateOperations other options = .error failure) ∨
  ∃ outcomes unit others twin, buildOperations doc options.package = .ok (outcomes, unit) ∧
    buildOperations other options.package = .ok (others, twin) ∧
    outcomes.map Outcome.undocumented = others.map Outcome.undocumented ∧
    unit.Agrees (Twins doc.allSchemas ∨ Twins other.allSchemas) twin ∧
    Finished options unit (generateOperations doc options) ∧ Finished options twin (generateOperations other options)

theorem components_clash (doc : Document) (options : UnitOptions) (ended : Ended Clash (buildTypes doc options.package)) :
    ComponentsClash doc options := by
  obtain ⟨_, failed, name, rfl⟩ := ended
  obtain ⟨first, last, both⟩ := build_types_clash doc options.package name failed
  exact ⟨name, first, last, by rw [generateTypes, failed]; rfl, both⟩

section

variable (doc other : Document) (options : UnitOptions) (same : doc.undocumented = other.undocumented)
include same

theorem types_agree : TypesAgree doc other options := by
  rcases build_types_agree doc other same options.package with results | clash | clash
  · rcases results_cases _ _ results with ⟨failure, failed, refused⟩ | ⟨unit, twin, built, again, agree⟩
    · exact Or.inl ⟨failure, by rw [generateTypes, failed]; rfl, by rw [generateTypes, refused]; rfl⟩
    · exact Or.inr (Or.inl ⟨unit, twin, built, again, agree, types_finished doc options unit built,
        types_finished other options twin again⟩)
  · exact Or.inr (Or.inr (Or.inl (components_clash doc options clash)))
  · exact Or.inr (Or.inr (Or.inr (components_clash other options clash)))

theorem operations_agree (keyed : doc.Keyed) : OperationsAgree doc other options := by
  rcases results_cases _ _ (build_operations_agree doc other same keyed options.package) with
    ⟨failure, failed, refused⟩ | ⟨⟨outcomes, unit⟩, ⟨others, twin⟩, built, again, alike, agree⟩
  · exact Or.inl ⟨failure, by rw [generateOperations, failed]; rfl, by rw [generateOperations, refused]; rfl⟩
  · exact Or.inr ⟨outcomes, unit, others, twin, built, again, alike, agree,
      operations_finished doc options outcomes unit built, operations_finished other options others twin again⟩

end

theorem units_agree_without_documentation (doc other : Document) (options : UnitOptions)
    (same : doc.undocumented = other.undocumented) (keyed : doc.Keyed) :
    TypesAgree doc other options ∧ OperationsAgree doc other options :=
  ⟨types_agree doc other options same, operations_agree doc other options same keyed⟩

theorem read_units_agree (format : DataFormat) (text : String) (doc other : Document) (options : UnitOptions)
    (read : Document.read format text = .ok doc) (same : doc.undocumented = other.undocumented) :
    TypesAgree doc other options ∧ OperationsAgree doc other options :=
  ⟨types_agree doc other options same, operations_agree doc other options same (read_keyed format text doc read)⟩

def described (text : Option String) : Document :=
  let id : Schema := { type := some (.single "string"), title := text }
  let widget : Schema := { ref := some "#/components/schemas/Widget" }
  let list : Schema := { type := some (.single "array"), description := text, items := some widget }
  { paths := [("/widgets", { get := some {
      summary := text
      description := text
      id := some "listWidgets"
      parameters := [.inline { name := "owner", location := "query", description := text, schema := some id }]
      responses := [("200", {
        description := text
        content := [("application/json", some {
          type := some (.single "object"), description := text, properties := some [("widgets", list)] })] })] } })]
    components := some { schemas := [("Widget", {
      type := some (.single "object")
      title := text
      description := text
      required := some ["id", "name"]
      properties := some [("id", id), ("name", { id with description := text }), ("parent", widget), ("parts", list)] })] } }

theorem described_units_agree :
    (described none).undocumented = (described (some "Text.")).undocumented ∧ (described none).Keyed ∧
    (generateTypes (described none) {}).isOk = true ∧ (generateOperations (described none) {}).isOk = true ∧
    TypesAgree (described none) (described (some "Text.")) {} ∧
    OperationsAgree (described none) (described (some "Text.")) {} := by
  have same : (described none).undocumented = (described (some "Text.")).undocumented := rfl
  have keyed : (described none).Keyed := by
    unfold Document.Keyed
    decide +kernel
  obtain ⟨unit, types⟩ := ok_exists (buildTypes (described none) "models") (by decide +kernel)
  obtain ⟨⟨outcomes, methods⟩, operations⟩ := ok_exists (buildOperations (described none) "models") (by decide +kernel)
  obtain ⟨_, generated, _⟩ := types_finished (described none) {} unit types (Or.inl ⟨rfl, by decide⟩)
  obtain ⟨_, compiled, _⟩ := operations_finished (described none) {} outcomes methods operations (Or.inl ⟨rfl, by decide⟩)
  obtain ⟨typesAgree, operationsAgree⟩ := units_agree_without_documentation (described none) (described (some "Text.")) {}
    same keyed
  exact ⟨same, keyed, by rw [generated]; rfl, by rw [compiled]; rfl, typesAgree, operationsAgree⟩

-- The parts of a tree are trees again, with a text or without.
def looped (text : Option String) : Document :=
  let object (property : String) (s : Schema) : Schema :=
    { type := some (.single "object"), required := some [property], properties := some [(property, s)] }
  let tree := object "x" { ref := some "#/components/schemas/B" }
  { components := some { schemas := [("A", tree), ("B", object "y" { tree with description := text })] } }

def shared (text : Option String) : Document :=
  let name : Schema := { type := some (.single "string") }
  { components := some { schemas := [("Widget", name), ("widget", { name with description := text })] } }

theorem texts_change_units :
    (looped none).undocumented = (looped (some "A tree.")).undocumented ∧
    (∃ unit twin, buildTypes (looped none) "models" = .ok unit ∧ buildTypes (looped (some "A tree.")) "models" = .ok twin ∧
      (unit.find? "A").map (·.shape.types) = some [.pointer (.named "B")] ∧
      (twin.find? "A").map (·.shape.types) = some [.named "B"]) ∧
    (shared none).undocumented = (shared (some "A widget.")).undocumented ∧
    (∃ generated, generateTypes (shared none) {} = .ok generated) ∧
    generateTypes (shared (some "A widget.")) {} = .error (.malformed "Widget" .conflictingDeclarations) := by
  obtain ⟨unit, built, pointer⟩ := ok_holds (buildTypes (looped none) "models")
    (fun unit => (unit.find? "A").map (·.shape.types) = some [.pointer (.named "B")]) (by decide +kernel)
  obtain ⟨twin, again, plain⟩ := ok_holds (buildTypes (looped (some "A tree.")) "models")
    (fun unit => (unit.find? "A").map (·.shape.types) = some [.named "B"]) (by decide +kernel)
  obtain ⟨widget, one⟩ := ok_exists (buildTypes (shared none) "models") (by decide +kernel)
  obtain ⟨generated, done, _⟩ := types_finished (shared none) {} widget one (Or.inl ⟨rfl, by decide⟩)
  obtain ⟨failure, failed, clash⟩ := error_holds (generateTypes (shared (some "A widget.")) {})
    (· = .malformed "Widget" .conflictingDeclarations) (by decide +kernel)
  obtain rfl := of_decide_eq_true clash
  exact ⟨rfl, ⟨unit, twin, built, again, of_decide_eq_true pointer, of_decide_eq_true plain⟩, rfl, ⟨generated, done⟩, failed⟩

end ApiBindings
