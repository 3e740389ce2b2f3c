import ApiBindings.Proofs.Data.Dictionary
import ApiBindings.Proofs.Document.Reading
import ApiBindings.Proofs.Documentation.Gather
import ApiBindings.Proofs.Generation.Components
import ApiBindings.Proofs.Rendering.Renumbered
set_option autoImplicit false

namespace ApiBindings

variable {α β γ : Type}

def IsMalformed (result : Except Failure α) : Prop := ∃ name cause, result = .error (.malformed name cause)

def unsupported? : Except Failure α → Option (String × UnsupportedShape)
  | .error (.unsupported name shape) => some (name, shape)
  | _ => none

theorem unsupported_iff (result : Except Failure α) (name : String) (shape : UnsupportedShape) :
    unsupported? result = some (name, shape) ↔ result = .error (.unsupported name shape) := by
  cases result with
  | ok => simp [unsupported?]
  | error failure => cases failure <;> simp [unsupported?]

def SameShape (a b : String × UnsupportedShape) : Prop := Renumbered a.1 b.1 ∧ a.2 = b.2

inductive GatheredAs (outcomes : β → Except Failure γ) (entries : List β) : Except Failure (Gathered α) → Prop where
  | malformed {first last : List β} {entry : β} {a b : String} {cause : Malformation}
      (split : entries = first ++ entry :: last) (before : ∀ e ∈ first, ¬ IsMalformed (outcomes e))
      (outcome : outcomes entry = .error (.malformed a cause)) (names : Renumbered a b) :
      GatheredAs outcomes entries (.error (.malformed b cause))
  | complete {gathered : Gathered α} (fine : ∀ e ∈ entries, ¬ IsMalformed (outcomes e))
      (shapes : List.Forall₂ SameShape (entries.filterMap fun e => unsupported? (outcomes e)) gathered.unsupported) :
      GatheredAs outcomes entries (.ok gathered)

section

variable (outcomes : β → Except Failure γ)

theorem gathered_next (entry : β) (rest : List β) (result : Except Failure (Gathered α)) (add : Gathered α → Gathered α)
    (fine : ¬ IsMalformed (outcomes entry))
    (adds : ∀ shapes gathered, List.Forall₂ SameShape shapes gathered.unsupported →
      List.Forall₂ SameShape ((unsupported? (outcomes entry)).toList ++ shapes) (add gathered).unsupported)
    (later : GatheredAs outcomes rest result) : GatheredAs outcomes (entry :: rest) (result.map add) := by
  cases later with
  | malformed split before outcome names =>
      exact .malformed (congrArg (List.cons entry) split) (List.forall_mem_cons.mpr ⟨fine, before⟩) outcome names
  | complete others shapes =>
      refine .complete (List.forall_mem_cons.mpr ⟨fine, others⟩) ?_
      have added := adds _ _ shapes
      rw [List.filterMap_cons]
      cases found : unsupported? (outcomes entry) <;> rw [found] at added <;> exact added

-- Induction over the entries. What holds of the unit may speak of the entries that
-- are still to come.
theorem gather_as_outcomes (step : β → Build α) (V : γ → α → Prop) (holds : List β → SourceUnit → Prop)
    (kept : ∀ entry rest unit, holds (entry :: rest) unit →
      Fate V (outcomes entry) ((step entry).result unit).1 ∧ holds rest ((step entry).result unit).2)
    (entries : List β) (unit : SourceUnit) (start : holds entries unit) :
    GatheredAs outcomes entries ((gather step entries).result unit).1 := by
  induction entries generalizing unit with
  | nil => exact .complete (List.forall_mem_nil _) .nil
  | cons entry rest ih =>
      obtain ⟨fate, still⟩ := kept entry rest unit start
      have later := ih _ still
      rw [gather_result]
      rcases ran : (step entry).result unit with ⟨result, next⟩
      rw [ran] at fate later
      generalize outcome : outcomes entry = outcome at fate
      cases fate with
      | ok =>
          refine gathered_next outcomes entry rest _ _ ?_ (fun shapes gathered same => ?_) later
          · rw [outcome]
            rintro ⟨_, _, other⟩
            cases other
          · rwa [outcome]
      | error failures =>
          cases failures with
          | malformed names cause =>
              have front : entry :: rest = [] ++ entry :: rest := rfl
              exact .malformed front (List.forall_mem_nil _) outcome names
          | unsupported names shape =>
              refine gathered_next outcomes entry rest _ _ ?_ (fun shapes gathered same => ?_) later
              · rw [outcome]
                rintro ⟨_, _, other⟩
                cases other
              · rw [outcome]
                exact .cons ⟨names, rfl⟩ same

end

def Document.alone (doc : Document) (package : String) (component : String × Schema) : Except Failure Unit :=
  ((renderComponent doc component).result (reserveComponents doc { package })).1

structure Document.Ready (doc : Document) (entries : List (String × Schema)) (unit : SourceUnit) : Prop where
  listed : ∀ entry ∈ entries, entry ∈ doc.schemas
  distinct : (entries.map fun entry => Naming.exported entry.1).Nodup
  registered : unit.Registered
  reserved : ∀ name ∈ doc.typeNames, name ∈ unit.names.taken
  undeclared : ∀ entry ∈ entries, ¬ unit.Declares (Naming.exported entry.1)

section

variable (doc : Document)

theorem ready_start (package : String) (distinct : doc.typeNames.Nodup) :
    doc.Ready doc.schemas (reserveComponents doc { package }) := by
  obtain ⟨registered, reserved⟩ := prepared_start doc package
  refine ⟨fun _ member => member, distinct, registered, reserved, fun entry _ => ?_⟩
  rintro ⟨d, member, _⟩
  rw [(components_start doc package).1] at member
  exact absurd member List.not_mem_nil

variable (entries : List (String × Schema)) (entry : String × Schema) (unit : SourceUnit)

theorem ready_free (ready : doc.Ready entries unit) (member : entry ∈ entries) :
    (renderComponent doc entry).FreeOfClashes unit := by
  intro name clash
  obtain ⟨rfl, declared⟩ :=
    prepared_clash doc entry unit name ⟨ready.registered, ready.reserved⟩ (ready.listed entry member) clash
  exact ready.undeclared entry member declared

-- What a component declares has its own name or one that was free, and so not the
-- name of a component that is still to come.
theorem ready_next (ready : doc.Ready (entry :: entries) unit) :
    doc.Ready entries ((renderComponent doc entry).result unit).2 := by
  obtain ⟨grows, registered, reserved⟩ :=
    prepared_next doc entry unit ⟨ready.registered, ready.reserved⟩ (ready.listed entry List.mem_cons_self)
  obtain ⟨own, distinct⟩ := List.nodup_cons.mp ready.distinct
  have listed := fun other member => ready.listed other (List.mem_cons_of_mem entry member)
  refine ⟨listed, distinct, registered, reserved, fun other member => ?_⟩
  rintro ⟨d, declared, named⟩
  rcases grows.fresh d declared with old | same | ⟨free, _⟩
  · exact ready.undeclared other (List.mem_cons_of_mem _ member) ⟨d, old, named⟩
  · rw [List.mem_singleton.mp same] at named
    exact own (List.mem_map.mpr ⟨other, member, named.symm⟩)
  · exact free (named ▸ ready.reserved _ (List.mem_map_of_mem (listed other member)))

theorem alone_fate (package : String) (distinct : doc.typeNames.Nodup) (ready : doc.Ready entries unit)
    (member : entry ∈ entries) :
    Fate (fun _ _ => True) (doc.alone package entry) ((renderComponent doc entry).result unit).1 :=
  render_parallel doc.componentsOrNone (Naming.exported entry.1) entry.2 _ _
    (ready_free doc doc.schemas entry _ (ready_start doc package distinct) (ready.listed entry member))
    (ready_free doc entries entry unit ready member)

end

theorem alone_outcome (doc : Document) (package : String) (entry : String × Schema) (distinct : doc.typeNames.Nodup)
    (member : entry ∈ doc.schemas) :
    doc.alone package entry = .ok () ∨ IsMalformed (doc.alone package entry) ∨
      ∃ name shape, doc.alone package entry = .error (.unsupported name shape) := by
  have fate := alone_fate doc doc.schemas entry _ package distinct (ready_start doc package distinct) member
  generalize doc.alone package entry = outcome at fate
  cases outcome with
  | ok => exact Or.inl rfl
  | error failure =>
      generalize ((renderComponent doc entry).result _).1 = other at fate
      cases fate with
      | error failures =>
          cases failures with
          | malformed names cause => exact Or.inr (Or.inl ⟨_, cause, rfl⟩)
          | unsupported names shape => exact Or.inr (Or.inr ⟨_, shape, rfl⟩)

theorem components_gathered (doc : Document) (package : String) (distinct : doc.typeNames.Nodup) :
    GatheredAs (doc.alone package) doc.schemas
      ((gather (renderComponent doc) doc.schemas).result (reserveComponents doc { package })).1 := by
  refine gather_as_outcomes (doc.alone package) (renderComponent doc) (fun _ _ => True) doc.Ready ?_ doc.schemas _
    (ready_start doc package distinct)
  exact fun entry rest unit ready =>
    ⟨alone_fate doc (entry :: rest) entry unit package distinct ready List.mem_cons_self,
      ready_next doc rest entry unit ready⟩

theorem build_types_gathered (doc : Document) (package : String) :
    buildTypes doc package =
      match (gather (renderComponent doc) doc.schemas).result (reserveComponents doc { package }) with
      | (.error failure, _) => .error failure
      | (.ok gathered, unit) =>
        if gathered.unsupported.isEmpty then .ok unit else .error (.unsupportedShapes gathered.unsupported) := by
  unfold buildTypes gatherAll
  rw [Build.result_bind]
  rcases (gather (renderComponent doc) doc.schemas).result (reserveComponents doc { package }) with ⟨_ | gathered, unit⟩
  · rfl
  · dsimp only
    cases gathered.unsupported <;> rfl

theorem generate_types_refused (doc : Document) (options : UnitOptions) (failure : Failure)
    (failed : buildTypes doc options.package = .error failure) : generateTypes doc options = .error failure := by
  rw [generateTypes, failed]
  rfl

theorem generate_types_formatted (doc : Document) (options : UnitOptions) (unit : SourceUnit)
    (built : buildTypes doc options.package = .ok unit) :
    generateTypes doc options =
      (formatUnit options .types unit.render).map fun source => { kind := .types, source } := by
  rw [generateTypes, built]
  rfl

-- What the outcomes of the components decide, each on its own. The first component
-- is the one whose name is the least.
inductive Document.Decided (doc : Document) (options : UnitOptions) : Except Failure Generated → Prop where
  | malformed {component : String × Schema} {a b : String} {cause : Malformation} (listed : component ∈ doc.schemas)
      (outcome : doc.alone options.package component = .error (.malformed a cause))
      (first : ∀ earlier ∈ doc.schemas, earlier.1 < component.1 → ¬ IsMalformed (doc.alone options.package earlier))
      (names : Renumbered a b) : doc.Decided options (.error (.malformed b cause))
  | unsupported {shapes : List (String × UnsupportedShape)}
      (fine : ∀ component ∈ doc.schemas, ¬ IsMalformed (doc.alone options.package component))
      (some : ∃ component ∈ doc.schemas, ∃ a shape,
        doc.alone options.package component = .error (.unsupported a shape))
      (same : List.Forall₂ SameShape
        (doc.schemas.filterMap fun component => unsupported? (doc.alone options.package component)) shapes) :
      doc.Decided options (.error (.unsupportedShapes shapes))
  | built {unit : SourceUnit} (fine : ∀ component ∈ doc.schemas, doc.alone options.package component = .ok ())
      (built : buildTypes doc options.package = .ok unit) :
      doc.Decided options ((formatUnit options .types unit.render).map fun source => { kind := .types, source })

theorem gathered_decided (doc : Document) (options : UnitOptions) (ordered : Data.Ordered doc.schemas)
    (distinct : doc.typeNames.Nodup) (ended : Except Failure (Gathered Unit) × SourceUnit)
    (built : buildTypes doc options.package =
      match ended with
      | (.error failure, _) => .error failure
      | (.ok gathered, unit) =>
        if gathered.unsupported.isEmpty then .ok unit else .error (.unsupportedShapes gathered.unsupported))
    (gathered : GatheredAs (doc.alone options.package) doc.schemas ended.1) :
    doc.Decided options (generateTypes doc options) := by
  rcases ended with ⟨result, unit⟩
  cases gathered with
  | @malformed first last component a b cause split before outcome names =>
      rw [generate_types_refused doc options _ built]
      have listed : component ∈ doc.schemas := split ▸ List.mem_append_right _ List.mem_cons_self
      refine .malformed listed outcome (fun earlier member less => before earlier ?_) names
      exact Data.ordered_front first last component earlier (split ▸ ordered) (split ▸ member) less
  | @complete gathered fine shapes =>
      dsimp only at built
      cases listed : gathered.unsupported with
      | nil =>
          rw [listed] at shapes built
          rw [generate_types_formatted doc options unit built]
          have none := List.filterMap_eq_nil_iff.mp (List.forall₂_nil_right_iff.mp shapes)
          refine .built (fun component member => ?_) built
          rcases alone_outcome doc options.package component distinct member with done | malformed | ⟨name, shape, failed⟩
          · exact done
          · exact absurd malformed (fine component member)
          · exact absurd ((unsupported_iff _ name shape).mpr failed) (by simp [none component member])
      | cons shape others =>
          rw [listed] at shapes built
          rw [generate_types_refused doc options _ built]
          obtain ⟨own, rest, _, _, first⟩ := List.forall₂_cons_right_iff.mp shapes
          obtain ⟨component, member, failed⟩ := List.mem_filterMap.mp (first ▸ List.mem_cons_self)
          exact .unsupported fine ⟨component, member, _, _, (unsupported_iff _ _ _).mp failed⟩ shapes

theorem components_fail_alone (doc : Document) (options : UnitOptions) (ordered : Data.Ordered doc.schemas)
    (distinct : doc.typeNames.Nodup) : doc.Decided options (generateTypes doc options) :=
  gathered_decided doc options ordered distinct _ (build_types_gathered doc options.package)
    (components_gathered doc options.package distinct)

theorem read_components_decided (format : DataFormat) (text : String) (doc : Document) (options : UnitOptions)
    (read : Document.read format text = .ok doc) (distinct : doc.typeNames.Nodup) :
    doc.Decided options (generateTypes doc options) :=
  gathered_decided doc options (read_well_formed format text doc read).schemas distinct _
    (build_types_gathered doc options.package) (components_gathered doc options.package distinct)

-- The owner of a pet and the pet itself have a type nested in them for which one name
-- is hinted. The size of a pet comes after its owner's name.
def strained (size kind : Schema) : Document :=
  let text : Schema := { type := some (.single "string") }
  let object (properties : List (String × Schema)) : Schema :=
    { type := some (.single "object"), properties := some properties }
  { components := some { schemas := [
      ("Pet", object [("owner_name", object [("first", text)]), ("size", size)]),
      ("PetOwner", object [("name", object [("kind", kind)])]) ] } }

def textOrNumber : Schema :=
  { oneOf := some [{ type := some (.single "string") }, { type := some (.single "number") }] }

def nowhere : Schema := { ref := some "#/components/schemas/vet" }

theorem strained_components_fail_alone :
    (Data.Ordered (strained textOrNumber textOrNumber).schemas ∧ (strained textOrNumber textOrNumber).typeNames.Nodup ∧
      (strained textOrNumber textOrNumber).Decided {} (generateTypes (strained textOrNumber textOrNumber) {}) ∧
      generateTypes (strained textOrNumber textOrNumber) {} =
        .error (.unsupportedShapes [("PetSize", .union 2), ("PetOwnerName2Kind", .union 2)])) ∧
    Data.Ordered (strained textOrNumber nowhere).schemas ∧ (strained textOrNumber nowhere).typeNames.Nodup ∧
      (strained textOrNumber nowhere).Decided {} (generateTypes (strained textOrNumber nowhere) {}) ∧
      generateTypes (strained textOrNumber nowhere) {} =
        .error (.malformed "PetOwnerName2Kind" (.unresolvedSchema "#/components/schemas/vet")) := by
  have less : "Pet" < "PetOwner" := by decide +kernel
  have ordered (size kind : Schema) : Data.Ordered (strained size kind).schemas := List.pairwise_pair.mpr less
  have distinct (size kind : Schema) : (strained size kind).typeNames.Nodup := by
    change (["Pet", "PetOwner"].map Naming.exported).Nodup
    decide +kernel
  obtain ⟨shapes, refused, listed⟩ := error_holds (generateTypes (strained textOrNumber textOrNumber) {})
    (· = .unsupportedShapes [("PetSize", .union 2), ("PetOwnerName2Kind", .union 2)]) (by decide +kernel)
  obtain ⟨failure, failed, same⟩ := error_holds (generateTypes (strained textOrNumber nowhere) {})
    (· = .malformed "PetOwnerName2Kind" (.unresolvedSchema "#/components/schemas/vet")) (by decide +kernel)
  obtain rfl := of_decide_eq_true listed
  obtain rfl := of_decide_eq_true same
  exact ⟨⟨ordered _ _, distinct _ _, components_fail_alone _ {} (ordered _ _) (distinct _ _), refused⟩,
    ordered _ _, distinct _ _, components_fail_alone _ {} (ordered _ _) (distinct _ _), failed⟩

end ApiBindings
