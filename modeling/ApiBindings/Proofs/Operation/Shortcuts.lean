import ApiBindings.Proofs.Operation.Compiled
import ApiBindings.Proofs.Rendering.Names
import ApiBindings.Proofs.Shape.Classify
import ApiBindings.Proofs.Shape.Reference
set_option autoImplicit false

namespace ApiBindings

namespace Schema

def unwrapped (s : Schema) : Schema := s.nullablePartner.getD s

theorem unwrapped_effective (s : Schema) (bare : s.unwrapped.Bare) : s.effective = .ok s.unwrapped := by
  cases partner : s.nullablePartner with
  | none =>
      rw [unwrapped, partner] at bare ⊢
      exact bare_effective s bare
  | some inner =>
      rw [unwrapped, partner] at bare ⊢
      unfold effective
      split
      next other wrapped =>
        obtain rfl := Option.some.inj (partner.symm.trans wrapped)
        exact bare_effective inner bare
      next alone =>
        rw [partner] at alone
        cases alone

-- What is left without the wrappers is a reference to the component that
-- `path` leads to, or an array of such references.
def Refers (components : Components) (s : Schema) (path : String) : Prop :=
  ∃ target other name, s.effective = .ok target ∧ target.ref = some other ∧ components.typeName other = .ok name ∧
    components.typeName path = .ok name

def Lists (components : Components) (s : Schema) (path : String) : Prop :=
  ∃ target items, s.effective = .ok target ∧ target.ref = none ∧ target.classify = .ok (.array items) ∧
    items.Refers components path

-- A schema with items is an array if it says so, or if nothing beside the
-- items says otherwise.
def IsArray (s : Schema) : Prop :=
  s.firstType = some "array" ∨
    (s.firstType = none ∧ s.formatType = none ∧ (∀ value, s.additional ≠ some (.schema value)) ∧
      (s.allowsOthers = true → s.properties.isSome = true))

theorem array_classified (s items : Schema) (array : s.IsArray) (held : s.items = some items) :
    s.classify = .ok (.array items) := by
  rcases array with declared | ⟨untyped, plain, closed, others⟩
  · rw [classify, s.declared_unformatted (Or.inl declared), declared]
    simp only [declaredShape, if_true, arrayShape, held]
  · have inferred : s.classify = s.inferredShape := by
      unfold classify
      rw [plain, untyped]
    have shut : ¬ (s.allowsOthers && s.properties.isNone) = true := by
      intro both
      obtain ⟨allowed, absent⟩ := Bool.and_eq_true_iff.mp both
      rw [Option.isNone_iff_eq_none.mp absent] at others
      exact Bool.false_ne_true (others allowed)
    rw [inferred]
    unfold inferredShape
    split
    next value additional => exact absurd additional (closed value)
    next =>
      rw [if_neg shut, held]

end Schema

def Components.TypedAs (components : Components) (path : String) (type : TypeExpr) : Prop :=
  ∃ name, components.typeName path = .ok name ∧ type = .named name

theorem scalar_slice (type : ScalarType) (item : TypeExpr) (slice : .ofScalar type = TypeExpr.slice item) :
    item = .named "byte" := by
  cases type <;> cases slice
  rfl

def SourceUnit.Reserves (unit : SourceUnit) (components : Components) : Prop :=
  ∀ entry ∈ components.schemas, Naming.exported entry.1 ∈ unit.names.taken

variable {components : Components} {guard : Guard Schema} {hint : String} {s : Schema} {before after : SourceUnit}
  {type : TypeExpr}

theorem claimed_not_component (reserved : before.Reserves components) (name : String) (middle : SourceUnit)
    (claimed : before.claim hint = (name, middle)) (path : String) : components.typeName path ≠ .ok name := by
  intro typed
  obtain ⟨entry, member, rfl, _⟩ := reference_component components path name typed
  exact (SourceUnit.claim_grows before middle hint _ claimed).2.1 (reserved entry member)

theorem refers_typed (rendered : Rendered components (.element guard hint s type) before after) (path : String)
    (refers : s.Refers components path) : components.TypedAs path type := by
  obtain ⟨target, other, name, stripped, reference, named, known⟩ := refers
  cases rendered with
  | elementReference again referred typed =>
      obtain rfl := Except.ok.inj (stripped.symm.trans again)
      obtain rfl := Option.some.inj (reference.symm.trans referred)
      obtain rfl := Except.ok.inj (named.symm.trans typed)
      exact ⟨name, known, rfl⟩
  | elementScalar again inline | elementEnumeration again inline | elementSlice again inline
  | elementOpenMap again inline | elementMap again inline | elementRecord again inline =>
      obtain rfl := Except.ok.inj (stripped.symm.trans again)
      rw [inline] at reference
      cases reference

-- Names of components are reserved, so no type but a reference can be one.
theorem typed_refers (rendered : Rendered components (.element guard hint s type) before after)
    (reserved : before.Reserves components) (path : String) (typed : components.TypedAs path type) :
    s.Refers components path := by
  obtain ⟨name, known, rfl⟩ := typed
  generalize same : TypeExpr.named name = type at rendered
  cases rendered with
  | elementReference stripped reference named =>
      obtain rfl := TypeExpr.named.inj same
      exact ⟨_, _, name, stripped, reference, named, known⟩
  | elementScalar =>
      exact absurd (type_name_capital components path name known) (scalar_not_capital _ name same)
  | elementEnumeration _ _ _ claimed | elementRecord _ _ _ claimed =>
      obtain rfl := TypeExpr.named.inj same
      exact absurd known (claimed_not_component reserved name _ claimed path)
  | elementSlice | elementOpenMap | elementMap => cases same

theorem lists_typed (rendered : Rendered components (.element guard hint s type) before after) (path : String)
    (lists : s.Lists components path) : ∃ item, components.TypedAs path item ∧ type = .slice item := by
  obtain ⟨target, items, stripped, bare, classified, refers⟩ := lists
  cases rendered with
  | elementReference again reference =>
      obtain rfl := Except.ok.inj (stripped.symm.trans again)
      rw [bare] at reference
      cases reference
  | elementSlice again _ array item =>
      obtain rfl := Except.ok.inj (stripped.symm.trans again)
      obtain rfl := Shape.array.inj (Except.ok.inj (classified.symm.trans array))
      exact ⟨_, refers_typed item path refers, rfl⟩
  | elementScalar again _ other | elementEnumeration again _ other | elementOpenMap again _ other
  | elementMap again _ other | elementRecord again _ other =>
      obtain rfl := Except.ok.inj (stripped.symm.trans again)
      rw [classified] at other
      cases other

theorem typed_lists (rendered : Rendered components (.element guard hint s type) before after)
    (reserved : before.Reserves components) (path : String) (item : TypeExpr) (typed : components.TypedAs path item)
    (slice : type = .slice item) : s.Lists components path := by
  cases rendered with
  | elementSlice stripped inline classified nested =>
      obtain rfl := TypeExpr.slice.inj slice
      exact ⟨_, _, stripped, inline, classified, typed_refers nested reserved path typed⟩
  | elementScalar =>
      obtain rfl := scalar_slice _ item slice
      obtain ⟨name, known, same⟩ := typed
      obtain rfl := TypeExpr.named.inj same
      exact absurd (type_name_capital components path "byte" known) (by decide)
  | elementReference | elementEnumeration | elementOpenMap | elementMap | elementRecord => cases slice

def Schema.ShortcutHolds (components : Components) (s : Schema) : Prop :=
  (∃ path, s.bareReference = some path ∧ s.Refers components path) ∨
    ∃ path, s.bareReference = none ∧ s.arrayOfReference = some path ∧ s.Lists components path

theorem bare_refers (stripped : s.unwrapped.Bare)
    (rendered : Rendered components (.element guard hint s type) before after) (path : String)
    (found : s.bareReference = some path) : s.Refers components path := by
  cases rendered with
  | elementReference again reference named =>
      obtain rfl := Except.ok.inj ((s.unwrapped_effective stripped).symm.trans again)
      obtain rfl := Option.some.inj (reference.symm.trans found)
      exact ⟨_, _, _, again, reference, named, named⟩
  | elementScalar again inline | elementEnumeration again inline | elementSlice again inline
  | elementOpenMap again inline | elementMap again inline | elementRecord again inline =>
      obtain rfl := Except.ok.inj ((s.unwrapped_effective stripped).symm.trans again)
      cases found.symm.trans inline

theorem array_reference_items (path : String) (listed : s.arrayOfReference = some path) :
    ∃ items, s.unwrapped.items = some items ∧ items.bareReference = some path := by
  unfold Schema.arrayOfReference at listed
  exact Option.bind_eq_some_iff.mp (Option.ite_none_right_eq_some.mp listed).2

theorem bare_lists (stripped : s.unwrapped.Bare) (array : s.unwrapped.IsArray)
    (plain : ∀ items, s.unwrapped.items = some items → items.unwrapped.Bare)
    (rendered : Rendered components (.element guard hint s type) before after) (path : String)
    (single : s.bareReference = none) (listed : s.arrayOfReference = some path) : s.Lists components path := by
  obtain ⟨items, held, refers⟩ := array_reference_items path listed
  have bare := s.unwrapped_effective stripped
  have classified := Schema.array_classified s.unwrapped items array held
  cases rendered with
  | elementSlice again inline known item =>
      obtain rfl := Except.ok.inj (bare.symm.trans again)
      obtain rfl := Shape.array.inj (Except.ok.inj (classified.symm.trans known))
      exact ⟨_, items, again, inline, known, bare_refers (plain items held) item path refers⟩
  | elementReference again reference =>
      obtain rfl := Except.ok.inj (bare.symm.trans again)
      cases single.symm.trans reference
  | elementScalar again _ other | elementEnumeration again _ other | elementOpenMap again _ other
  | elementMap again _ other | elementRecord again _ other =>
      obtain rfl := Except.ok.inj (bare.symm.trans again)
      cases classified.symm.trans other

theorem payload_shortcut (rendered : Rendered components (.element guard hint s type) before after)
    (reserved : before.Reserves components) (operation role : String) (first last : SourceUnit) (result : Payload)
    (typed : PayloadTyped components operation role s first result last) (undeclared : result.declared = none) :
    last = first ∧ (result.type = type ↔ s.ShortcutHolds components) := by
  cases typed with
  | component bare named kind =>
      refine ⟨rfl, fun same => ?_, ?_⟩
      · exact Or.inl ⟨_, bare, typed_refers rendered reserved _ ⟨_, named, same.symm⟩⟩
      · rintro (⟨path, found, refers⟩ | ⟨path, absent, _⟩)
        · obtain rfl := Option.some.inj (bare.symm.trans found)
          obtain ⟨name, known, rfl⟩ := refers_typed rendered _ refers
          rw [Except.ok.inj (named.symm.trans known)]
        · cases bare.symm.trans absent
  | list inline items named =>
      refine ⟨rfl, fun same => ?_, ?_⟩
      · exact Or.inr ⟨_, inline, items, typed_lists rendered reserved _ _ ⟨_, named, rfl⟩ same.symm⟩
      · rintro (⟨path, found, _⟩ | ⟨path, _, listed, lists⟩)
        · cases inline.symm.trans found
        · obtain rfl := Option.some.inj (items.symm.trans listed)
          obtain ⟨item, ⟨name, known, rfl⟩, rfl⟩ := lists_typed rendered _ lists
          rw [Except.ok.inj (named.symm.trans known)]
  | declared => cases undeclared

theorem shortcuts_agree_iff (components : Components) (hint : String) (s : Schema) (unit after : SourceUnit)
    (type : TypeExpr) (typed : (valueType components hint s).result unit = (.ok type, after)) :
    (s.unwrapped.Bare → ∀ path, s.bareReference = some path → components.TypedAs path type) ∧
    (s.unwrapped.Bare → s.unwrapped.IsArray → (∀ items, s.unwrapped.items = some items → items.unwrapped.Bare) →
      ∀ path, s.bareReference = none → s.arrayOfReference = some path →
        ∃ item, components.TypedAs path item ∧ type = .slice item) ∧
    (unit.Reserves components →
      (∀ path, s.bareReference = some path → (components.TypedAs path type ↔ s.Refers components path)) ∧
      (∀ path, s.bareReference = none → s.arrayOfReference = some path →
        ((∃ item, components.TypedAs path item ∧ type = .slice item) ↔ s.Lists components path)) ∧
      ∀ operation role first last result,
        (payload components operation role s).result first = (.ok result, last) → result.declared = none →
          last = first ∧ (result.type = type ↔ s.ShortcutHolds components)) := by
  have rendered := value_type_rendered components hint s unit after type typed
  refine ⟨fun stripped path found => refers_typed rendered path (bare_refers stripped rendered path found),
    fun stripped array plain path single listed =>
      lists_typed rendered path (bare_lists stripped array plain rendered path single listed),
    fun reserved => ⟨fun path _ => ?_, fun path _ _ => ?_, ?_⟩⟩
  · exact ⟨typed_refers rendered reserved path, refers_typed rendered path⟩
  · refine ⟨?_, lists_typed rendered path⟩
    rintro ⟨item, known, slice⟩
    exact typed_lists rendered reserved path item known slice
  · intro operation role first last result done undeclared
    exact payload_shortcut rendered reserved operation role first last result
      (payload_typed components operation role s first last result done) undeclared

def Schema.to (name : String) : Schema := { ref := some ("#/components/schemas/" ++ name) }

def stock : Components :=
  { schemas := [("Gadget", { type := some (.single "string") }), ("Widget", { type := some (.single "string") })] }

def stocked : SourceUnit := { package := "models", names := ⟨["Gadget", "Widget"]⟩ }

theorem stocked_reserves : stocked.Reserves stock := by
  unfold SourceUnit.Reserves
  decide +kernel

theorem widget_lists_agree :
    let widgets : Schema := { type := some (.single "array"), items := some (.to "Widget") }
    ∃ type after, (valueType stock "Widgets" widgets).result stocked = (.ok type, after) ∧
      type = .slice (.named "Widget") ∧
      (∃ item, stock.TypedAs "#/components/schemas/Widget" item ∧ type = TypeExpr.slice item) ∧
      ∃ result last, (payload stock "ListWidgets" "Response" widgets).result stocked = (.ok result, last) ∧
        result.declared = none ∧ (result.type = type ↔ widgets.ShortcutHolds stock) := by
  intro widgets
  obtain ⟨type, typed, slice⟩ := ok_holds ((valueType stock "Widgets" widgets).result stocked).1
    (· = .slice (.named "Widget")) (by decide +kernel)
  obtain ⟨result, done, undeclared⟩ := ok_holds ((payload stock "ListWidgets" "Response" widgets).result stocked).1
    (·.declared = none) (by decide +kernel)
  obtain ⟨_, lists, exact⟩ := shortcuts_agree_iff stock "Widgets" widgets stocked _ type (Prod.ext typed rfl)
  refine ⟨type, _, Prod.ext typed rfl, of_decide_eq_true slice, lists ⟨rfl, rfl, rfl⟩ (Or.inl rfl) ?_ _ rfl rfl,
    result, _, Prod.ext done rfl, of_decide_eq_true undeclared, ?_⟩
  · intro items held
    obtain rfl := Option.some.inj held
    exact ⟨rfl, rfl, rfl⟩
  · exact ((exact stocked_reserves).2.2 "ListWidgets" "Response" stocked _ result (Prod.ext done rfl)
      (of_decide_eq_true undeclared)).2

-- Other properties make a map of the items, and a composition beside a
-- reference stands for its member. The shortcuts see neither.
theorem mixed_keywords_disagree :
    let widgets : Schema := { items := some (.to "Widget"), additional := some (.schema { type := some (.single "string") }) }
    let widget : Schema := { Schema.to "Widget" with allOf := some [.to "Gadget"] }
    ((valueType stock "Widgets" widgets).result stocked).1.toOption = some (.map (.named "string")) ∧
      widgets.bareReference = none ∧ widgets.arrayOfReference = some "#/components/schemas/Widget" ∧
      ((payload stock "ListWidgets" "Response" widgets).result stocked).1.toOption.map Payload.type =
        some (.slice (.named "Widget")) ∧
      ((valueType stock "Widget" widget).result stocked).1.toOption = some (.named "Gadget") ∧
      widget.bareReference = some "#/components/schemas/Widget" ∧
      ((payload stock "GetWidget" "Response" widget).result stocked).1.toOption.map Payload.type =
        some (.named "Widget") := by
  decide +kernel

end ApiBindings
