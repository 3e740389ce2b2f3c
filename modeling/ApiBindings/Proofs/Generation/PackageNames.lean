import ApiBindings.Proofs.Generation.SharedNames
import ApiBindings.Proofs.Operation.Constructors
import ApiBindings.Proofs.Operation.Declarations
import ApiBindings.Proofs.Rendering.Constants
import Mathlib.Data.List.Pairwise
set_option autoImplicit false

namespace ApiBindings

inductive NameOwner where
  | enumeration (name : String)
  | operation (name : String)
deriving DecidableEq, Repr

def NameOwner.stem : NameOwner → String
  | .enumeration name => name
  | .operation name => name ++ "With"

structure OwnedName where
  owner : NameOwner
  text : String
deriving DecidableEq, Repr

def SourceUnit.constants (unit : SourceUnit) : List String := unit.declarations.flatMap Declaration.constants

def packageNames (a b : SourceUnit) : List String :=
  a.constants ++ b.constants ++ (a.plainFunctions ++ b.plainFunctions)

def PackageNamesDistinct (a b : SourceUnit) : Prop :=
  (packageNames a b).Nodup ∧ ∀ name ∈ packageNames a b, ¬ a.Declares name ∧ ¬ b.Declares name

def Declaration.isEnumeration (d : Declaration) : Bool :=
  match d.shape with
  | .enumeration _ _ => true
  | _ => false

def nameOwners (a b : SourceUnit) (outcomes : List Outcome) : List NameOwner :=
  ((a.declarations ++ b.declarations).filter Declaration.isEnumeration).map (fun d => .enumeration d.name) ++
    (outcomes.filterMap Outcome.emitted?).map fun operation => .operation operation.signature.name

def Nested (first second : String) : Prop := first = second ∨ Naming.Begins first second ∨ Naming.Begins second first

instance (first second : String) : Decidable (Nested first second) :=
  inferInstanceAs (Decidable (first = second ∨ Naming.Begins first second ∨ Naming.Begins second first))

def OwnersApart (a b : SourceUnit) (outcomes : List Outcome) : Prop :=
  (nameOwners a b outcomes).Pairwise (fun first second => ¬ Nested first.stem second.stem) ∧
    ∀ owner ∈ nameOwners a b outcomes, ∀ d ∈ a.declarations ++ b.declarations, ¬ Naming.Begins owner.stem d.name

instance (a b : SourceUnit) (outcomes : List Outcome) : Decidable (OwnersApart a b outcomes) :=
  inferInstanceAs (Decidable (_ ∧ _))

theorem nested_symm (first second : String) (nested : Nested first second) : Nested second first := by
  rcases nested with same | begins | begins
  · exact Or.inl same.symm
  · exact Or.inr (Or.inr begins)
  · exact Or.inr (Or.inl begins)

def Declaration.ownedConstants (d : Declaration) : List OwnedName :=
  d.constants.map fun constant => { owner := .enumeration d.name, text := constant }

theorem owned_constants_enumeration (d : Declaration) (n : OwnedName) (member : n ∈ d.ownedConstants) :
    d.isEnumeration = true ∧ n.owner = .enumeration d.name ∧ n.text ∈ d.constants := by
  obtain ⟨constant, listed, rfl⟩ := List.mem_map.mp member
  refine ⟨?_, rfl, listed⟩
  cases shape : d.shape <;> simp_all [Declaration.constants, Declaration.isEnumeration]

theorem compiled_fresh (components : Components) (earlier : List String) (entry : Document.Entry)
    (before after : SourceUnit) (outcome : Outcome)
    (compiled : Compiled components earlier entry before outcome after) :
    ∀ d ∈ after.declarations, d ∈ before.declarations ∨ d = notFoundDeclaration ∨ d.name ∉ before.names.taken := by
  cases compiled with
  | skipped => exact fun d member => Or.inl member
  | @emitted _ _ _ _ _ _ _ _ _ _ _ _ fifth _ _ _ _ pathTyped bodyTyped optionClaimed responseTyped _ optionsDeclared
      searched =>
      intro d member
      have grows := method_grows components pathTyped bodyTyped optionClaimed responseTyped optionsDeclared
      rcases response_searched_adds components (· = notFoundDeclaration) _ _ _ _ _ searched rfl d member with old | error
      · rcases grows.fresh d old with older | none | ⟨free, _⟩
        · exact Or.inl older
        · exact absurd none List.not_mem_nil
        · exact Or.inr (Or.inr free)
      · exact Or.inr (Or.inl error)

theorem operations_unit_fresh (doc : Document) (package : String) (outcomes : List Outcome) (unit : SourceUnit)
    (built : buildOperations doc package = .ok (outcomes, unit)) :
    ∀ d ∈ unit.declarations, d = notFoundDeclaration ∨ d.name ∉ (operationsStart doc package).names.taken := by
  refine (steps_keep _ _ _ _ _ _ (fun part => (∀ name ∈ (operationsStart doc package).names.taken, name ∈ part.names.taken) ∧
    ∀ d ∈ part.declarations, d = notFoundDeclaration ∨ d.name ∉ (operationsStart doc package).names.taken)
    (build_operations_steps doc package outcomes unit built) (operation_grows doc (compileEntries doc)) ?_ ?_).2
  · intro entry listed outcome before after ran _ held
    have compiled := compile_operation_compiled doc.componentsOrNone entry.1 entry.2 before after outcome ran
    have grows := operation_grows doc (compileEntries doc) entry listed outcome before after ran
    refine ⟨fun name taken => grows.taken name (held.1 name taken), fun d member => ?_⟩
    rcases compiled_fresh doc.componentsOrNone entry.1 entry.2 before after outcome compiled d member with
      old | error | free
    · exact held.2 d old
    · exact Or.inl error
    · exact Or.inr fun taken => free (held.1 d.name taken)
  · refine ⟨fun name taken => taken, fun d member => ?_⟩
    rw [operationsStart, (reserve_all_declarations (typesUnitNames doc) { package }).1] at member
    exact absurd member List.not_mem_nil

theorem types_constants_named (doc : Document) (package : String) (unit : SourceUnit)
    (built : buildTypes doc package = .ok unit) : ∀ d ∈ unit.declarations, d.ConstantsNamed :=
  build_types_adds doc package unit Declaration.ConstantsNamed built fun _ _ before after rendered =>
    rendered_constants_named _ _ before after rendered

theorem types_plain_functions (doc : Document) (package : String) (unit : SourceUnit)
    (built : buildTypes doc package = .ok unit) : unit.plainFunctions = [] := by
  rw [SourceUnit.plainFunctions, types_unit_functions doc package unit built]
  rfl

theorem operations_constants_named (doc : Document) (package : String) (outcomes : List Outcome) (unit : SourceUnit)
    (built : buildOperations doc package = .ok (outcomes, unit)) : ∀ d ∈ unit.declarations, d.ConstantsNamed := by
  have bare (d : Declaration) (none : d.constants = []) : d.ConstantsNamed := by
    refine ⟨none ▸ List.nodup_nil, fun constant member => ?_⟩
    rw [none] at member
    exact absurd member List.not_mem_nil
  refine operations_keep doc package outcomes unit (fun part => ∀ d ∈ part.declarations, d.ConstantsNamed) built ?_ ?_
  · intro empty noDeclarations _ d member
    rw [noDeclarations] at member
    exact absurd member List.not_mem_nil
  · intro earlier entry _ outcome before after compiled _ named d member
    refine (compiled_adds doc.componentsOrNone (fun _ => True) (fun _ _ _ _ => trivial) Declaration.ConstantsNamed ?_
      earlier entry before after outcome compiled trivial (fun _ _ => bare _ rfl) (bare _ rfl) d member).elim (named d) id
    intro guard name target shape start next doc _ shaped
    exact shape_constants_named _ guard name target shape start next doc shaped

-- The declarations of the two units have different names, but for the error of a
-- look-up, which has no constants.
theorem owned_constants_distinct (doc : Document) (first second : String) (outcomes : List Outcome) (a b : SourceUnit)
    (types : buildTypes doc first = .ok a) (operations : buildOperations doc second = .ok (outcomes, b)) :
    ((a.declarations ++ b.declarations).flatMap Declaration.ownedConstants).Nodup := by
  have apart (d e : Declaration) (different : d.name ≠ e.name) : d.ownedConstants.Disjoint e.ownedConstants := by
    intro n inFirst inSecond
    obtain ⟨_, owner, _⟩ := owned_constants_enumeration d n inFirst
    obtain ⟨_, other, _⟩ := owned_constants_enumeration e n inSecond
    exact different (NameOwner.enumeration.inj (owner.symm.trans other))
  have own (unit : SourceUnit) (distinct : unit.Distinct) :
      unit.declarations.Pairwise (Function.onFun List.Disjoint Declaration.ownedConstants) :=
    (List.pairwise_map.mp distinct).imp fun {d e} different => apart d e different
  refine List.nodup_flatMap.mpr ⟨fun d member => ?_, List.pairwise_append.mpr ⟨?_, ?_, fun d inTypes e inOperations => ?_⟩⟩
  · have named : d.ConstantsNamed := (List.mem_append.mp member).elim (types_constants_named doc first a types d)
      (operations_constants_named doc second outcomes b operations d)
    exact named.distinct.map fun constant other same => (OwnedName.mk.inj same).2
  · exact own a (build_types_complete doc first a types).distinct
  · exact own b (build_operations_distinct doc second outcomes b operations)
  · rcases operations_unit_fresh doc second outcomes b operations e inOperations with error | free
    · rw [error]
      exact fun n _ inSecond => absurd inSecond List.not_mem_nil
    · refine apart d e fun same => free ?_
      rw [← same]
      exact operations_start_taken doc first second a types d.name ⟨d, inTypes, rfl⟩

theorem operations_plain_named (doc : Document) (package : String) (outcomes : List Outcome) (unit : SourceUnit)
    (built : buildOperations doc package = .ok (outcomes, unit)) :
    ∃ made : List (String × String),
      unit.plainFunctions = made.map (fun (operation, suffix) => constructorName operation suffix) ∧
      made.Nodup ∧ ∀ m ∈ made, Naming.Word m.2 ∧
        ∃ operation ∈ outcomes.filterMap Outcome.emitted?, operation.signature.name = m.1 := by
  obtain ⟨made, added, distinct, known⟩ := operations_plain_functions doc.componentsOrNone [] doc.entries _ unit outcomes
    (build_operations_steps doc package outcomes unit built)
  refine ⟨made, ?_, distinct, fun m member => (known m member).2⟩
  have none : (operationsStart doc package).plainFunctions = [] := by
    rw [SourceUnit.plainFunctions, operationsStart, (reserve_all_declarations (typesUnitNames doc) { package }).2]
    rfl
  rw [added, none, List.nil_append]

structure Owned (a b : SourceUnit) (outcomes : List Outcome) (owned : List OwnedName) : Prop where
  texts : owned.map OwnedName.text = packageNames a b
  distinct : owned.Nodup
  owner : ∀ n ∈ owned, n.owner ∈ nameOwners a b outcomes
  begins : ∀ n ∈ owned, Naming.Begins n.owner.stem n.text

theorem owned_constant_texts (declarations : List Declaration) :
    (declarations.flatMap Declaration.ownedConstants).map OwnedName.text = declarations.flatMap Declaration.constants := by
  rw [List.map_flatMap]
  congr 1
  funext d
  rw [Declaration.ownedConstants, List.map_map]
  exact List.map_id _

theorem owned_constant_known (a b : SourceUnit) (outcomes : List Outcome)
    (ended : ∀ d ∈ a.declarations ++ b.declarations, d.ConstantsNamed) (n : OwnedName)
    (member : n ∈ (a.declarations ++ b.declarations).flatMap Declaration.ownedConstants) :
    n.owner ∈ nameOwners a b outcomes ∧ Naming.Begins n.owner.stem n.text := by
  obtain ⟨d, listed, own⟩ := List.mem_flatMap.mp member
  obtain ⟨enumeration, owner, named⟩ := owned_constants_enumeration d n own
  obtain ⟨ending, word, text⟩ := (ended d listed).ended n.text named
  rw [owner]
  refine ⟨List.mem_append_left _ (List.mem_map.mpr ⟨d, List.mem_filter.mpr ⟨listed, enumeration⟩, rfl⟩), ?_⟩
  exact ⟨ending, word.nonempty, text⟩

def ownedConstructor (made : String × String) : OwnedName :=
  { owner := .operation made.1, text := constructorName made.1 made.2 }

theorem owned_constructor_inj (m n : String × String) (same : ownedConstructor m = ownedConstructor n) : m = n := by
  obtain ⟨owner, text⟩ := OwnedName.mk.inj same
  have operation : m.1 = n.1 := NameOwner.operation.inj owner
  rw [operation] at text
  exact Prod.ext operation ((String.append_right_inj _).mp text)

theorem units_owned (doc : Document) (first second : String) (outcomes : List Outcome) (a b : SourceUnit)
    (types : buildTypes doc first = .ok a) (operations : buildOperations doc second = .ok (outcomes, b)) :
    ∃ owned, Owned a b outcomes owned := by
  obtain ⟨made, functions, different, known⟩ := operations_plain_named doc second outcomes b operations
  have ended : ∀ d ∈ a.declarations ++ b.declarations, d.ConstantsNamed := fun d member =>
    (List.mem_append.mp member).elim (types_constants_named doc first a types d)
      (operations_constants_named doc second outcomes b operations d)
  have constructor_known : ∀ n ∈ made.map ownedConstructor,
      n.owner ∈ nameOwners a b outcomes ∧ Naming.Begins n.owner.stem n.text := by
    intro n member
    obtain ⟨m, listed, rfl⟩ := List.mem_map.mp member
    obtain ⟨word, operation, emitted, named⟩ := known m listed
    refine ⟨List.mem_append_right _ (List.mem_map.mpr ⟨operation, emitted, ?_⟩), m.2, word.nonempty, rfl⟩
    rw [named]
    rfl
  have every : ∀ n ∈ (a.declarations ++ b.declarations).flatMap Declaration.ownedConstants ++ made.map ownedConstructor,
      n.owner ∈ nameOwners a b outcomes ∧ Naming.Begins n.owner.stem n.text := fun n member =>
    (List.mem_append.mp member).elim (owned_constant_known a b outcomes ended n) (constructor_known n)
  refine ⟨_, ?_, ?_, fun n member => (every n member).1, fun n member => (every n member).2⟩
  · rw [packageNames, types_plain_functions doc first a types, functions, List.nil_append, List.map_append,
      owned_constant_texts, List.flatMap_append, List.map_map]
    rfl
  · refine List.nodup_append.mpr ⟨owned_constants_distinct doc first second outcomes a b types operations,
      different.map owned_constructor_inj, ?_⟩
    rintro n inConstants m inConstructors rfl
    obtain ⟨d, _, own⟩ := List.mem_flatMap.mp inConstants
    obtain ⟨pair, _, rfl⟩ := List.mem_map.mp inConstructors
    exact NameOwner.noConfusion (owned_constants_enumeration d _ own).2.1

theorem owned_distinct_iff (a b : SourceUnit) (outcomes : List Outcome) (owned : List OwnedName)
    (known : Owned a b outcomes owned) :
    PackageNamesDistinct a b ↔
      ∀ n ∈ owned, (∀ m ∈ owned, m.text = n.text → m.owner = n.owner) ∧ ¬ a.Declares n.text ∧ ¬ b.Declares n.text := by
  unfold PackageNamesDistinct
  rw [← known.texts]
  constructor
  · rintro ⟨distinct, undeclared⟩ n member
    refine ⟨fun m other same => ?_, undeclared n.text (List.mem_map_of_mem member)⟩
    rw [List.inj_on_of_nodup_map distinct other member same]
  · intro apart
    refine ⟨known.distinct.map_on fun m other n member same => ?_, fun name member => ?_⟩
    · have owner := (apart n member).1 m other same
      cases m
      cases n
      exact OwnedName.mk.injEq .. ▸ ⟨owner, same⟩
    · obtain ⟨n, listed, rfl⟩ := List.mem_map.mp member
      exact (apart n listed).2

theorem owners_apart_distinct (a b : SourceUnit) (outcomes : List Outcome) (owned : List OwnedName)
    (known : Owned a b outcomes owned) (apart : OwnersApart a b outcomes) : PackageNamesDistinct a b := by
  have symmetric : Std.Symm fun first second : NameOwner => ¬ Nested first.stem second.stem :=
    ⟨fun first second free nested => free (nested_symm _ _ nested)⟩
  have declared (n : OwnedName) (member : n ∈ owned) (d : Declaration)
      (listed : d ∈ a.declarations ++ b.declarations) : d.name ≠ n.text := fun same =>
    apart.2 n.owner (known.owner n member) d listed (same ▸ known.begins n member)
  refine (owned_distinct_iff a b outcomes owned known).mpr fun n member => ⟨fun m other same => ?_, ?_, ?_⟩
  · by_contra different
    have begins := known.begins m other
    rw [same] at begins
    exact apart.1.forall (known.owner m other) (known.owner n member) different
      (Naming.begins_comparable _ _ n.text begins (known.begins n member))
  · rintro ⟨d, listed, named⟩
    exact declared n member d (List.mem_append_left _ listed) named
  · rintro ⟨d, listed, named⟩
    exact declared n member d (List.mem_append_right _ listed) named

-- Constants and constructors are not claimed, so two owners can make one name, or
-- an owner the name of a type. One of them continues the other then.
theorem package_names_differ_by_owner (doc : Document) (first second : UnitOptions) (types operations : Generated)
    (typesDone : generateTypes doc first = .ok types) (operationsDone : generateOperations doc second = .ok operations) :
    ∃ a outcomes b owned,
      buildTypes doc first.package = .ok a ∧ formatUnit first .types a.render = .ok types.source ∧
      buildOperations doc second.package = .ok (outcomes, b) ∧
      formatUnit second .operations b.render = .ok operations.source ∧ Owned a b outcomes owned ∧
      (PackageNamesDistinct a b ↔
        ∀ n ∈ owned, (∀ m ∈ owned, m.text = n.text → m.owner = n.owner) ∧ ¬ a.Declares n.text ∧ ¬ b.Declares n.text) ∧
      (OwnersApart a b outcomes → PackageNamesDistinct a b) := by
  obtain ⟨a, builtTypes, typesText⟩ := generate_types_unit doc first types typesDone
  obtain ⟨outcomes, b, builtOperations, operationsText⟩ := generate_operations_unit doc second operations operationsDone
  obtain ⟨owned, known⟩ := units_owned doc first.package second.package outcomes a b builtTypes builtOperations
  exact ⟨a, outcomes, b, owned, builtTypes, typesText, builtOperations, operationsText, known,
    owned_distinct_iff a b outcomes owned known, owners_apart_distinct a b outcomes owned known⟩

-- The constant for the value of one component has the name of another component.
def statuses : Document :=
  let text : Schema := { type := some (.single "string") }
  { components := some { schemas := [("Status", { text with enumValues := some [.text "active"] }), ("StatusActive", text)] } }

theorem status_constant_is_a_type :
    ∃ types operations a outcomes b,
      generateTypes statuses { installed := some unchanging } = .ok types ∧
      generateOperations statuses { installed := some unchanging } = .ok operations ∧
      buildTypes statuses "models" = .ok a ∧ buildOperations statuses "models" = .ok (outcomes, b) ∧
      "StatusActive" ∈ a.constants ∧ a.Declares "StatusActive" ∧ ¬ PackageNamesDistinct a b := by
  obtain ⟨a, types, clash⟩ := ok_holds (buildTypes statuses "models")
    (fun unit => unit.constants.contains "StatusActive" && (unit.find? "StatusActive").isSome) (by decide +kernel)
  obtain ⟨⟨outcomes, b⟩, operations⟩ := ok_exists (buildOperations statuses "models") (by decide +kernel)
  obtain ⟨constant, found⟩ := Bool.and_eq_true_iff.mp clash
  have listed : "StatusActive" ∈ a.constants := by simpa using constant
  have declared := SourceUnit.find_declares a "StatusActive" found
  refine ⟨_, _, a, outcomes, b, generate_types_unchanging statuses "models" a types,
    generate_operations_unchanging statuses "models" outcomes b operations, types, operations, listed, declared, ?_⟩
  exact fun distinct => (distinct.2 _ (List.mem_append_left _ (List.mem_append_left _ listed))).1 declared

def orders : Document :=
  let text : Schema := { type := some (.single "string") }
  let state : Schema := { text with enumValues := some [.text "open", .text "paid"] }
  let order : Schema := { type := some (.single "object"), properties := some [("id", text), ("state", state)] }
  let query (name : String) (s : Schema) : ParameterEntry := .inline { name, location := "query", schema := some s }
  { paths := [("/orders", { get := some {
      id := some "listOrders"
      parameters := [query "page" { type := some (.single "integer") }, query "state" state]
      responses := [("200", { content := [("application/json",
        some { type := some (.single "array"), items := some { ref := some "#/components/schemas/Order" } })] })] } })]
    components := some { schemas := [("Order", order)] } }

theorem orders_differ_by_owner :
    ∃ types operations, generateTypes orders { installed := some unchanging } = .ok types ∧
      generateOperations orders { installed := some unchanging } = .ok operations ∧
      ∃ a outcomes b owned,
        buildTypes orders "models" = .ok a ∧
        formatUnit { installed := some unchanging } .types a.render = .ok types.source ∧
        buildOperations orders "models" = .ok (outcomes, b) ∧
        formatUnit { installed := some unchanging } .operations b.render = .ok operations.source ∧
        Owned a b outcomes owned ∧ owned.length = 6 ∧ OwnersApart a b outcomes ∧ PackageNamesDistinct a b := by
  obtain ⟨⟨a, outcomes, b⟩, both, apart⟩ := ok_holds
    (do
      let a ← buildTypes orders "models"
      let made ← buildOperations orders "models"
      return (a, made))
    (fun built => decide (OwnersApart built.1 built.2.2 built.2.1 ∧ (packageNames built.1 built.2.2).length = 6))
    (by decide +kernel)
  obtain ⟨apart, six⟩ := of_decide_eq_true apart
  obtain ⟨_, types, both⟩ := except_bind_ok _ _ _ both
  obtain ⟨_, operations, returned⟩ := except_bind_ok _ _ _ both
  cases returned
  have first := generate_types_unchanging orders "models" a types
  have second := generate_operations_unchanging orders "models" outcomes b operations
  obtain ⟨a', outcomes', b', owned, types', typesText, operations', operationsText, known, _, distinct⟩ :=
    package_names_differ_by_owner orders { installed := some unchanging } { installed := some unchanging } _ _ first second
  obtain rfl := Except.ok.inj (types.symm.trans types')
  obtain ⟨rfl, rfl⟩ := Prod.mk.inj (Except.ok.inj (operations.symm.trans operations'))
  rw [← known.texts, List.length_map] at six
  exact ⟨_, _, first, second, a, outcomes, b, owned, types, typesText, operations, operationsText, known, six, apart,
    distinct apart⟩

end ApiBindings
