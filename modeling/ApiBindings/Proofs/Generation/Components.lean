import ApiBindings.Proofs.Generation.Format
import ApiBindings.Proofs.Generation.Types
import ApiBindings.Proofs.Rendering.Mention
import ApiBindings.Proofs.Rendering.Orderly
set_option autoImplicit false

namespace ApiBindings

def DeclarationShape.Follows (components : Components) (target : Schema) (shape : DeclarationShape) : Prop :=
  match target.ref with
  | some path => ∃ name, components.typeName path = .ok name ∧ shape = .alias (.named name)
  | none => ∃ found, target.classify = .ok found ∧
      match found with
      | .scalar type => shape = .alias (.ofScalar type)
      | .enumeration _ _ => ∃ underlying constants, shape = .enumeration underlying constants
      | .array _ => ∃ item, shape = .slice item
      | .object _ => ∃ fields, shape = .record fields
      | .map _ => ∃ value, shape = .map value

theorem rendered_follows (components : Components) (guard : Guard Schema) (name : String) (target : Schema)
    (shape : DeclarationShape) (before after : SourceUnit)
    (rendered : Rendered components (.shape guard name target shape) before after) :
    shape.Follows components target := by
  unfold DeclarationShape.Follows
  cases rendered with
  | aliasReference reference named =>
      rw [reference]
      exact ⟨_, named, rfl⟩
  | aliasScalar inline classified =>
      rw [inline]
      exact ⟨_, classified, rfl⟩
  | enumeration inline classified _ =>
      rw [inline]
      exact ⟨_, classified, _, _, rfl⟩
  | slice inline classified _ =>
      rw [inline]
      exact ⟨_, classified, _, rfl⟩
  | record inline classified _ =>
      rw [inline]
      exact ⟨_, classified, _, rfl⟩
  | openMap inline classified =>
      rw [inline]
      exact ⟨_, classified, _, rfl⟩
  | map inline classified _ =>
      rw [inline]
      exact ⟨_, classified, _, rfl⟩

theorem follows_alike (components : Components) (target : Schema) (a b : DeclarationShape) (alike : a.Alike b)
    (follows : b.Follows components target) : a.Follows components target := by
  rcases alike with same | ⟨types, values, others, more, rfl, rfl⟩
  · rwa [same]
  · unfold DeclarationShape.Follows at follows ⊢
    split at follows
    next path reference =>
      obtain ⟨name, _, named⟩ := follows
      cases named
    next inline =>
      obtain ⟨found, classified, kind⟩ := follows
      refine ⟨found, classified, ?_⟩
      cases found with
      | enumeration type listed => exact ⟨types, values, rfl⟩
      | scalar type => cases kind
      | array items =>
          obtain ⟨item, same⟩ := kind
          cases same
      | object properties =>
          obtain ⟨fields, same⟩ := kind
          cases same
      | map value =>
          obtain ⟨item, same⟩ := kind
          cases same

theorem named_once (declarations : List Declaration) (d : Declaration)
    (distinct : (declarations.map Declaration.name).Nodup) (member : d ∈ declarations) :
    declarations.filter (·.name = d.name) = [d] := by
  induction declarations with
  | nil => exact absurd member List.not_mem_nil
  | cons first rest ih =>
      obtain ⟨new, others⟩ := List.nodup_cons.mp distinct
      rcases List.mem_cons.mp member with rfl | later
      · have none : rest.filter (·.name = d.name) = [] := by
          refine List.filter_eq_nil_iff.mpr fun other present named => new ?_
          exact List.mem_map.mpr ⟨other, present, of_decide_eq_true named⟩
        rw [List.filter_cons_of_pos (by simp), none]
      · have different : first.name ≠ d.name := fun same => new (same ▸ List.mem_map_of_mem later)
        rw [List.filter_cons_of_neg (by simpa using different)]
        exact ih others later

theorem component_orderly (doc : Document) (entry : String × Schema) :
    (renderComponent doc entry).Orderly [Naming.exported entry.1] :=
  declare_schema_orderly doc.componentsOrNone _ _ entry.2

theorem components_start (doc : Document) (package : String) :
    (reserveComponents doc { package }).declarations = [] ∧
      ∀ name ∈ doc.typeNames, name ∈ (reserveComponents doc { package }).names.taken :=
  ⟨(reserve_all_declarations doc.typeNames { package }).1, reserve_all_taken doc.typeNames { package }⟩

structure Document.Prepared (doc : Document) (unit : SourceUnit) : Prop where
  registered : unit.Registered
  reserved : ∀ name ∈ doc.typeNames, name ∈ unit.names.taken

theorem prepared_start (doc : Document) (package : String) : doc.Prepared (reserveComponents doc { package }) := by
  obtain ⟨noDeclarations, reserved⟩ := components_start doc package
  refine ⟨fun d member => ?_, reserved⟩
  rw [noDeclarations] at member
  exact absurd member List.not_mem_nil

theorem prepared_taken (doc : Document) (entry : String × Schema) (unit : SourceUnit) (prepared : doc.Prepared unit)
    (listed : entry ∈ doc.schemas) : ∀ name ∈ [Naming.exported entry.1], name ∈ unit.names.taken := by
  intro name named
  rw [List.mem_singleton.mp named]
  exact prepared.reserved _ (List.mem_map_of_mem listed)

theorem prepared_next (doc : Document) (entry : String × Schema) (unit : SourceUnit) (prepared : doc.Prepared unit)
    (listed : entry ∈ doc.schemas) :
    unit.Grows [Naming.exported entry.1] ((renderComponent doc entry).result unit).2 ∧
      doc.Prepared ((renderComponent doc entry).result unit).2 := by
  have taken := prepared_taken doc entry unit prepared listed
  obtain ⟨grows, _⟩ := component_orderly doc entry unit prepared.registered taken
  exact ⟨grows, grows_registered _ _ _ grows prepared.registered taken,
    fun name member => grows.taken name (prepared.reserved name member)⟩

theorem prepared_clash (doc : Document) (entry : String × Schema) (unit : SourceUnit) (name : String)
    (prepared : doc.Prepared unit) (listed : entry ∈ doc.schemas)
    (clash : Clashes name ((renderComponent doc entry).result unit).1) :
    name = Naming.exported entry.1 ∧ unit.Declares name := by
  have taken := prepared_taken doc entry unit prepared listed
  obtain ⟨named, declared⟩ := (component_orderly doc entry unit prepared.registered taken).2 name clash
  exact ⟨List.mem_singleton.mp named, declared⟩

theorem components_keep (doc : Document) (entries : List (String × Schema)) (before : SourceUnit)
    (holds : SourceUnit → Prop) (listed : ∀ entry ∈ entries, entry ∈ doc.schemas) (prepared : doc.Prepared before)
    (kept : ∀ entry ∈ entries, ∀ unit, doc.Prepared unit →
      unit.Grows [Naming.exported entry.1] ((renderComponent doc entry).result unit).2 → holds unit →
      holds ((renderComponent doc entry).result unit).2)
    (start : holds before) :
    doc.Prepared (entries.foldl (fun unit entry => ((renderComponent doc entry).result unit).2) before) ∧
      holds (entries.foldl (fun unit entry => ((renderComponent doc entry).result unit).2) before) := by
  induction entries generalizing before with
  | nil => exact ⟨prepared, start⟩
  | cons entry rest ih =>
      obtain ⟨grows, next⟩ := prepared_next doc entry before prepared (listed entry List.mem_cons_self)
      exact ih _ (fun other member => listed other (List.mem_cons_of_mem _ member)) next
        (fun other member => kept other (List.mem_cons_of_mem _ member))
        (kept entry List.mem_cons_self before prepared grows start)

theorem components_left (doc : Document) (entries : List (String × Schema)) (before : SourceUnit)
    (listed : ∀ entry ∈ entries, entry ∈ doc.schemas) (prepared : doc.Prepared before) :
    doc.Prepared (entries.foldl (fun unit entry => ((renderComponent doc entry).result unit).2) before) ∧
      before.Grows (entries.map fun entry => Naming.exported entry.1)
        (entries.foldl (fun unit entry => ((renderComponent doc entry).result unit).2) before) := by
  refine components_keep doc entries before (before.Grows _) listed prepared (fun entry member unit _ grows left => ?_)
    (.refl _ before)
  refine left.trans (grows.weaken fun name named => ?_)
  rw [List.mem_singleton.mp named]
  exact List.mem_map_of_mem member

theorem build_types_clash_entry (doc : Document) (package name : String)
    (failed : buildTypes doc package = .error (.malformed name .conflictingDeclarations)) :
    ∃ first entry last, doc.schemas = first ++ entry :: last ∧ Naming.exported entry.1 = name ∧
      (∃ other ∈ first, Naming.exported other.1 = name) ∧
      Clashes name ((renderComponent doc entry).result
        (first.foldl (fun unit entry => ((renderComponent doc entry).result unit).2) (reserveComponents doc { package }))).1 := by
  obtain ⟨noDeclarations, reserved⟩ := components_start doc package
  unfold buildTypes at failed
  dsimp only at failed
  cases outcome : (gatherAll (renderComponent doc) doc.schemas).result (reserveComponents doc { package }) with
  | mk result after =>
      rw [outcome] at failed
      cases result with
      | ok results => cases failed
      | error failure =>
          obtain rfl := Except.error.inj failed
          rcases gather_all_failed _ _ _ _ _ outcome with ⟨shapes, other⟩ | ⟨first, entry, last, split, ran⟩
          · cases other
          have listed : ∀ other ∈ first ++ entry :: last, other ∈ doc.schemas := fun other member => split ▸ member
          obtain ⟨prepared, grows⟩ := components_left doc first _
            (fun other member => listed other (List.mem_append_left _ member)) (prepared_start doc package)
          have present := listed entry (List.mem_append_right _ List.mem_cons_self)
          obtain ⟨rfl, d, member, same⟩ := prepared_clash doc entry _ name prepared present (congrArg Prod.fst ran)
          rcases grows.fresh d member with old | earlier | ⟨free, _⟩
          · rw [noDeclarations] at old
            exact absurd old List.not_mem_nil
          · obtain ⟨other, before, shared⟩ := List.mem_map.mp earlier
            exact ⟨first, entry, last, split, rfl, ⟨other, before, shared.trans same⟩, congrArg Prod.fst ran⟩
          · exact absurd (same ▸ reserved _ (List.mem_map_of_mem present)) free

theorem build_types_clash (doc : Document) (package name : String)
    (failed : buildTypes doc package = .error (.malformed name .conflictingDeclarations)) :
    ∃ first last, [first, last].Sublist (doc.schemas.map Prod.fst) ∧ Naming.exported first = name ∧
      Naming.exported last = name := by
  obtain ⟨first, entry, last, split, named, ⟨other, before, shared⟩, _⟩ := build_types_clash_entry doc package name failed
  refine ⟨other.1, entry.1, ?_, shared, named⟩
  rw [split, List.map_append, List.map_cons]
  have front := List.singleton_sublist.mpr (List.mem_map_of_mem (f := Prod.fst) before)
  exact front.append (List.cons_sublist_cons.mpr (List.nil_sublist _))

theorem format_never_clashes (options : UnitOptions) (kind : UnitKind) (text name : String) :
    formatUnit options kind text ≠ .error (.malformed name .conflictingDeclarations) := by
  intro failed
  unfold formatUnit at failed
  rcases except_bind_error _ _ _ failed with unavailable | ⟨formatter, _, refused⟩
  · unfold Formatter.ofKind at unavailable
    split at unavailable
    · cases unavailable
    all_goals split at unavailable <;> cases unavailable
  · split at refused <;> cases refused

theorem component_follows (components : Components) (unit : SourceUnit) (complete : Complete components unit)
    (entry : String × Schema) (listed : entry ∈ components.schemas) :
    ∃ d ∈ unit.declarations, d.name = Naming.exported entry.1 ∧ ∃ target, entry.2.effective = .ok target ∧
      d.shape.Follows components target := by
  obtain ⟨guard, before, after, _, rendered, kept⟩ := complete.component entry listed
  obtain ⟨d, member, named, target, shape, middle, stripped, shaped, _, alike⟩ :=
    declaration_shape _ unit guard _ entry.2 before after rendered kept
  refine ⟨d, member, named, target, stripped, ?_⟩
  exact follows_alike _ target _ _ alike (rendered_follows _ guard _ target shape before middle shaped)

-- A declaration under the exported name of a component is that of the component,
-- because nested declarations get names that are free and these are reserved.
theorem components_declared_once (doc : Document) (options : UnitOptions) :
    (∀ generated, generateTypes doc options = .ok generated →
      ∃ unit, buildTypes doc options.package = .ok unit ∧
        formatUnit options .types unit.render = .ok generated.source ∧ unit.Distinct ∧
        (∀ entry ∈ doc.schemas, ∃ d target, unit.declarations.filter (·.name = Naming.exported entry.1) = [d] ∧
          entry.2.effective = .ok target ∧ d.shape.Follows doc.componentsOrNone target) ∧
        ∀ d ∈ unit.declarations,
          (∃ entry ∈ doc.schemas, unit.declarations.filter (·.name = Naming.exported entry.1) = [d]) ∨
            ∀ entry ∈ doc.schemas, d.name ≠ Naming.exported entry.1) ∧
    ∀ name, generateTypes doc options = .error (.malformed name .conflictingDeclarations) →
      ∃ first last, [first, last].Sublist (doc.schemas.map Prod.fst) ∧
        ((doc.schemas.map Prod.fst).Nodup → first ≠ last) ∧
        Naming.exported first = name ∧ Naming.exported last = name := by
  refine ⟨fun generated done => ?_, fun name failed => ?_⟩
  · obtain ⟨unit, built, formatted⟩ := generate_types_unit doc options generated done
    have complete := build_types_complete doc options.package unit built
    refine ⟨unit, built, formatted, complete.distinct, fun entry listed => ?_, fun d member => ?_⟩
    · obtain ⟨d, present, named, target, stripped, follows⟩ :=
        component_follows _ unit complete entry (by rwa [component_schemas])
      exact ⟨d, target, named ▸ named_once unit.declarations d complete.distinct present, stripped, follows⟩
    · by_cases component : ∃ entry ∈ doc.schemas, d.name = Naming.exported entry.1
      · obtain ⟨entry, listed, named⟩ := component
        exact Or.inl ⟨entry, listed, named ▸ named_once unit.declarations d complete.distinct member⟩
      · exact Or.inr fun entry listed named => component ⟨entry, listed, named⟩
  · unfold generateTypes at failed
    rcases except_bind_error _ _ _ failed with clash | ⟨unit, _, failed⟩
    · obtain ⟨first, last, both, named, again⟩ := build_types_clash doc options.package name clash
      refine ⟨first, last, both, fun distinct same => ?_, named, again⟩
      have pair := distinct.sublist both
      simp [same] at pair
    · rcases except_bind_error _ _ _ failed with refused | ⟨source, _, returned⟩
      · exact absurd refused (format_never_clashes options .types unit.render name)
      · cases returned

def crowded : Document :=
  let text : Schema := { type := some (.single "string") }
  let object (properties : List (String × Schema)) : Schema :=
    { type := some (.single "object"), properties := some properties }
  let widget : Schema := { ref := some "#/components/schemas/widget" }
  { components := some { schemas := [
      ("WidgetOwner", object [("id", text)]),
      ("WidgetState", { text with enumValues := some [.text "on", .text "off"] }),
      ("counts", { type := some (.single "object"), additional := some (.schema { type := some (.single "integer") }) }),
      ("pet", widget),
      ("widget", object [
        ("owner", object [("email", text)]),
        ("state", { text with enumValues := some [.text "new"] })]),
      ("widget_state2", text),
      ("widgets", { type := some (.single "array"), items := some widget })] } }

def renamed : Document :=
  { components := some { schemas := [
      ("WidgetKind", { type := some (.single "string") }),
      ("widget_kind", { type := some (.single "integer") })] } }

theorem crowded_components_declared_once :
    (∃ generated, generateTypes crowded { installed := some unchanging } = .ok generated ∧
      ∃ unit, buildTypes crowded "models" = .ok unit ∧
        formatUnit { installed := some unchanging } .types unit.render = .ok generated.source ∧ unit.Distinct ∧
        (∀ entry ∈ crowded.schemas, ∃ d target,
          unit.declarations.filter (·.name = Naming.exported entry.1) = [d] ∧ entry.2.effective = .ok target ∧
          d.shape.Follows crowded.componentsOrNone target) ∧
        ∀ d ∈ unit.declarations,
          (∃ entry ∈ crowded.schemas, unit.declarations.filter (·.name = Naming.exported entry.1) = [d]) ∨
            ∀ entry ∈ crowded.schemas, d.name ≠ Naming.exported entry.1) ∧
    generateTypes renamed {} = .error (.malformed "WidgetKind" .conflictingDeclarations) ∧
    ∃ first last, [first, last].Sublist (renamed.schemas.map Prod.fst) ∧
      ((renamed.schemas.map Prod.fst).Nodup → first ≠ last) ∧
      Naming.exported first = "WidgetKind" ∧ Naming.exported last = "WidgetKind" := by
  obtain ⟨unit, built⟩ := ok_exists (buildTypes crowded "models") (by decide +kernel)
  have done := generate_types_unchanging crowded "models" unit built
  obtain ⟨failure, failed, same⟩ := error_holds (generateTypes renamed {})
    (· = .malformed "WidgetKind" .conflictingDeclarations) (by decide +kernel)
  obtain rfl := of_decide_eq_true same
  exact ⟨⟨_, done, (components_declared_once crowded { installed := some unchanging }).1 _ done⟩, failed,
    (components_declared_once renamed {}).2 _ failed⟩

end ApiBindings
