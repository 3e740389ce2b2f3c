import ApiBindings.Proofs.Generation.Kinds
import ApiBindings.Proofs.Generation.Operations
import ApiBindings.Proofs.Operation.Declarations
import ApiBindings.Proofs.Operation.Finder
import ApiBindings.Proofs.Operation.Lookup
import ApiBindings.Proofs.Shape.Classify
set_option autoImplicit false

namespace ApiBindings

structure ItemRecord (components : Components) (unit : SourceUnit) (name : String) (item : Schema)
    (properties : List (String × Schema)) : Prop where
  classified : item.classify = .ok (.object properties)
  record : ∃ d fields, unit.EndsAt name d ∧ d.shape = .record fields ∧ Naming.Capital d.name ∧
    ∃ guard : Guard Schema, guard.Compound ∧ ∃ before after,
      Rendered components (.fields guard d.name item {} properties fields) before after

theorem alike_same (a b : DeclarationShape) (alike : a.Alike b) (other : b.isRecord = true ∨ b.isCollection = true) :
    a = b := by
  rcases alike with same | ⟨_, _, _, _, _, rfl⟩
  · exact same
  · rcases other with record | collection
    · cases record
    · cases collection

section

variable (components : Components) (unit : SourceUnit) (capital : ∀ d ∈ unit.declarations, Naming.Capital d.name)

include capital

theorem declaration_record (guard : Guard Schema) (name : String) (s item : Schema) (properties : List (String × Schema))
    (before after : SourceUnit) (rendered : Rendered components (.declaration guard name s) before after)
    (kept : ∀ d ∈ after.declarations, d ∈ unit.declarations) (compound : guard.Compound)
    (stripped : s.effective = .ok item) (inline : item.ref = none) (classified : item.classify = .ok (.object properties)) :
    ItemRecord components unit name item properties := by
  obtain ⟨d, member, named, target, shape, middle, bare, shaped, _, alike⟩ :=
    declaration_shape components unit guard name s before after rendered kept
  obtain rfl := Except.ok.inj (stripped.symm.trans bare)
  have record := object_record components guard name item shape properties before middle inline classified shaped
  have same := alike_same d.shape shape alike (Or.inl record)
  cases shape with
  | record fields =>
      obtain ⟨_, own, again, compiled⟩ := record_object components guard name item fields before middle shaped
      obtain rfl := Shape.object.inj (Except.ok.inj (classified.symm.trans again))
      subst named
      have ends : unit.EndsAt d.name d := ⟨member, .here d.name, by simp [same]⟩
      exact ⟨classified, d, fields, ends, same, capital d member, guard, compound, before, middle, compiled⟩
  | _ => cases record

theorem element_record (guard : Guard Schema) (hint : String) (s item : Schema) (type : TypeExpr)
    (properties : List (String × Schema)) (before after : SourceUnit)
    (rendered : Rendered components (.element guard hint s type) before after)
    (kept : ∀ d ∈ after.declarations, d ∈ unit.declarations) (compound : guard.Compound)
    (resolved : components.resolve s = .ok item) (classified : item.classify = .ok (.object properties)) :
    ∃ name target, type = .named name ∧ s.effective = .ok target ∧
      components.follow Components.longestChain target = .ok item ∧
      ((target.ref = none ∧ ItemRecord components unit name item properties) ∨
        ∃ path, target.ref = some path ∧ components.typeName path = .ok name) := by
  obtain ⟨target, stripped, followed⟩ := except_bind_ok _ _ _ resolved
  have inner {found : Schema} {shape : Shape} (bare : s.effective = .ok found) (inline : found.ref = none)
      (known : found.classify = .ok shape) : found = item ∧ shape = .object properties := by
    obtain rfl := Except.ok.inj (stripped.symm.trans bare)
    obtain rfl := follow_inline components _ target item inline followed
    exact ⟨rfl, Except.ok.inj (known.symm.trans classified)⟩
  cases rendered with
  | elementReference bare reference named =>
      obtain rfl := Except.ok.inj (stripped.symm.trans bare)
      exact ⟨_, target, rfl, stripped, followed, Or.inr ⟨_, reference, named⟩⟩
  | @elementRecord _ _ name _ found _ _ _ _ bare inline known claimed declared =>
      obtain ⟨rfl, same⟩ := inner bare inline known
      have again := Schema.effective_idempotent s found bare
      have entered := enter_compound guard found name compound ⟨found, again, inline, _, known, rfl⟩
      have record := declaration_record components unit capital _ name found found properties _ _ declared kept entered
        again inline classified
      obtain rfl := Except.ok.inj (stripped.symm.trans bare)
      exact ⟨name, target, rfl, stripped, followed, Or.inl ⟨inline, record⟩⟩
  | elementScalar bare inline known | elementEnumeration bare inline known | elementSlice bare inline known
  | elementOpenMap bare inline known | elementMap bare inline known => cases (inner bare inline known).2

end

section

variable (doc : Document) (package : String) (types : SourceUnit) (built : buildTypes doc package = .ok types)

include built

-- What is at the end of a chain of references is a component. Its own rendering
-- started with nothing in progress.
theorem reference_rendered (left : Nat) (target found : Schema) (path name : String) (shape : Shape)
    (reference : target.ref = some path) (typed : doc.componentsOrNone.typeName path = .ok name)
    (followed : doc.componentsOrNone.follow left target = .ok found) (classified : found.classify = .ok shape)
    (composed : shape.isSimple = false) :
    found.ref = none ∧ ∃ guard s own before after, guard.Compound ∧ s.effective = .ok found ∧
      Rendered doc.componentsOrNone (.declaration guard own s) before after ∧
      (∀ d ∈ after.declarations, d ∈ types.declarations) ∧ ∀ d, types.EndsAt own d → types.EndsAt name d := by
  obtain ⟨entry, listed, rfl, located⟩ := reference_component _ path name typed
  obtain ⟨less, next, bare, onward⟩ := follow_reference _ left target found path entry reference located followed
  obtain ⟨inline, last, final, stripped, ended⟩ :=
    component_chain _ types (build_types_complete doc package types built) less entry next found listed bare onward
  obtain ⟨before, after, rendered, kept⟩ :=
    build_types_component doc package types built last (component_schemas doc ▸ final)
  have compound := enter_compound {} last.2 (Naming.exported last.1) empty_compound
    ⟨found, stripped, inline, shape, classified, composed⟩
  exact ⟨inline, _, last.2, _, before, after, compound, stripped, rendered, kept, ended⟩

theorem reference_record (left : Nat) (target item : Schema) (path name : String) (properties : List (String × Schema))
    (reference : target.ref = some path) (typed : doc.componentsOrNone.typeName path = .ok name)
    (followed : doc.componentsOrNone.follow left target = .ok item)
    (classified : item.classify = .ok (.object properties)) :
    ItemRecord doc.componentsOrNone types name item properties := by
  obtain ⟨inline, guard, s, own, before, after, compound, stripped, rendered, kept, ended⟩ :=
    reference_rendered doc package types built left target item path name _ reference typed followed classified rfl
  obtain ⟨_, d, fields, ends, record⟩ := declaration_record _ types (build_types_complete doc package types built).capital
    guard own s item properties before after rendered kept compound stripped inline classified
  exact ⟨classified, d, fields, ended d ends, record⟩

theorem reference_slice (left : Nat) (target found items : Schema) (path name : String)
    (reference : target.ref = some path) (typed : doc.componentsOrNone.typeName path = .ok name)
    (followed : doc.componentsOrNone.follow left target = .ok found) (classified : found.classify = .ok (.array items)) :
    ∃ d element, types.EndsAt name d ∧ d.shape = .slice element ∧ ∃ guard : Guard Schema, guard.Compound ∧
      ∃ hint before after, Rendered doc.componentsOrNone (.element guard hint items element) before after ∧
        ∀ d ∈ after.declarations, d ∈ types.declarations := by
  obtain ⟨inline, guard, s, own, before, after, compound, stripped, rendered, kept, ended⟩ :=
    reference_rendered doc package types built left target found path name _ reference typed followed classified rfl
  obtain ⟨d, member, rfl, again, shape, middle, bare, shaped, below, alike⟩ :=
    declaration_shape _ types guard own s before after rendered kept
  obtain rfl := Except.ok.inj (stripped.symm.trans bare)
  cases shaped with
  | slice _ known item =>
      obtain rfl := Shape.array.inj (Except.ok.inj (classified.symm.trans known))
      have same := alike_same d.shape _ alike (Or.inr rfl)
      have ends : types.EndsAt d.name d := ⟨member, .here d.name, by simp [same]⟩
      exact ⟨d, _, ended d ends, same, guard, compound, _, before, middle, item, below⟩
  | aliasReference reference => simp [inline] at reference
  | aliasScalar _ known | enumeration _ known | record _ known | openMap _ known | map _ known =>
      cases classified.symm.trans known

end

def Finder.Searches (components : Components) (finder : Finder) (unit : SourceUnit) (name : String) (item : Schema) :
    Prop :=
  ∃ d fields, unit.EndsAt name d ∧ d.shape = .record fields ∧
    finder.byName.Reads components item fields "name" ∧ finder.byId.Reads components item fields "id"

theorem item_record_searched (components : Components) (unit : SourceUnit) (name : String) (item : Schema)
    (properties : List (String × Schema)) (finder : Finder) (record : ItemRecord components unit name item properties)
    (named : finderField components item (fieldNames {} properties) "name" = .ok (some finder.byName))
    (identified : finderField components item (fieldNames {} properties) "id" = .ok (some finder.byId)) :
    finder.Searches components unit name item := by
  obtain ⟨classified, d, fields, ends, shape, capital, guard, compound, before, after, compiled⟩ := record
  obtain ⟨own, _, _, _, _, held, _⟩ := finder_field_some components item _ "name" finder.byName named
  obtain rfl := Schema.object_properties item properties own classified held
  have reads (wire : String) (read : FinderField)
      (found : finderField components item (fieldNames {} own) wire = .ok (some read)) :
      read.Reads components item fields wire :=
    finder_field_reads components guard compound d.name capital item own fields before after wire read held
      compiled found
  exact ⟨d, fields, ends, shape, reads "name" finder.byName named, reads "id" finder.byId identified⟩

theorem found_fields (components : Components) (unit : SourceUnit) (distinct : unit.Distinct) (entry : Document.Entry)
    (response : Schema) (name : String) (fields : List Field) (plan : FinderPlan)
    (found : Found components unit entry response name fields plan) :
    ∃ target properties, response.effective = .ok target ∧ target.classify = .ok (.object properties) ∧
      ∃ guard : Guard Schema, guard.Compound ∧ ∃ before after,
        Rendered components (.fields guard name target {} properties fields) before after ∧
        ∀ d ∈ after.declarations, d ∈ unit.declarations := by
  obtain ⟨d, member, named, record⟩ := found.record
  obtain ⟨before, after, rendered, kept⟩ := found.rendered
  obtain ⟨stored, present, same, target, shape, middle, stripped, shaped, below, alike⟩ :=
    declaration_shape components unit _ name response before after rendered kept
  obtain rfl := SourceUnit.distinct_same unit distinct stored d present member (same.trans named.symm)
  rw [(DeclarationShape.alike_iff _ _ _ alike (by simp)).mp record] at shaped
  obtain ⟨inline, properties, classified, compiled⟩ :=
    record_object components _ name target fields before middle shaped
  have compound := enter_compound {} response name empty_compound ⟨target, stripped, inline, _, classified, rfl⟩
  exact ⟨target, properties, stripped, classified, _, compound, before, middle, compiled, below⟩

theorem operations_capital (doc : Document) (package : String) (outcomes : List Outcome) (unit : SourceUnit)
    (built : buildOperations doc package = .ok (outcomes, unit)) : ∀ d ∈ unit.declarations, Naming.Capital d.name := by
  refine operations_keep doc package outcomes unit (fun part => ∀ d ∈ part.declarations, Naming.Capital d.name) built ?_ ?_
  · intro empty noDeclarations _ d member
    rw [noDeclarations] at member
    exact absurd member List.not_mem_nil
  · intro earlier entry _ outcome before after compiled _ held d member
    have added := compiled_adds doc.componentsOrNone Naming.Capital Naming.capital_append (fun d => Naming.Capital d.name)
      (fun _ _ _ _ _ _ _ capital _ => capital) earlier entry before after outcome compiled
      (operation_name_capital entry) (fun _ capital => capital) ⟨'N', _, rfl, by decide⟩
    exact (added d member).elim (held d) id

theorem operations_found (doc : Document) (package : String) (outcomes : List Outcome) (unit : SourceUnit)
    (built : buildOperations doc package = .ok (outcomes, unit)) (f : Function) (finder : Finder)
    (searches : f.body = .finder finder) (member : f ∈ unit.functions) :
    ∃ entry ∈ doc.entries, ∃ response name fields plan, f = finderMethod name plan ∧
      Found doc.componentsOrNone unit entry response name fields plan := by
  refine operations_keep doc package outcomes unit (fun part => f ∈ part.functions → ∃ entry ∈ doc.entries,
    ∃ response name fields plan, f = finderMethod name plan ∧
      Found doc.componentsOrNone part entry response name fields plan) built ?_ ?_ member
  · intro empty _ noFunctions member
    rw [noFunctions] at member
    exact absurd member List.not_mem_nil
  · intro earlier entry listed outcome before after compiled _ held member
    have grows := compiled_grows _ earlier entry before after outcome compiled
    rcases compiled_finders _ earlier entry before after outcome compiled f finder searches member with
      old | ⟨response, name, fields, plan, same, found⟩
    · obtain ⟨other, present, response, name, fields, plan, same, found⟩ := held old
      exact ⟨other, present, response, name, fields, plan, same, found_kept _ _ before after grows _ _ _ _ _ found⟩
    · exact ⟨entry, listed, response, name, fields, plan, same, found⟩

def Document.Entry.Lists (components : Components) (entry : Document.Entry) (wire : String) (items : Schema) : Prop :=
  ∃ response target properties, entry.operation.responseSchema = some response ∧ response.effective = .ok target ∧
    target.properties = some properties ∧ listProperties components properties = .ok [(wire, items)]

-- The record of an item is nested in the response, or a component, or a component
-- that another one lists. The last is returned under the name of the reference,
-- which is another name if the items have more than a reference.
inductive Finder.Fits (doc : Document) (package : String) (unit : SourceUnit) (finder : Finder) (items item : Schema) :
    TypeExpr → String → Prop where
  | nested {returned : String} (searches : finder.Searches doc.componentsOrNone unit returned item) :
      Fits doc package unit finder items item (.slice (.named returned)) returned
  | component {returned : String}
      (searches : ∀ types, buildTypes doc package = .ok types →
        finder.Searches doc.componentsOrNone types returned item) :
      Fits doc package unit finder items item (.slice (.named returned)) returned
  | listed {name returned : String}
      (searches : ∀ types, buildTypes doc package = .ok types → ∃ d element, types.EndsAt name d ∧
        d.shape = .slice (.named element) ∧ finder.Searches doc.componentsOrNone types element item ∧
        ((∃ target, items.effective = .ok target ∧ target.ref = items.bareReference) → returned = element)) :
      Fits doc package unit finder items item (.named name) returned

theorem listed_fits (doc : Document) (package : String) (unit : SourceUnit) (finder : Finder)
    (target items item : Schema) (path name : String) (type : TypeExpr) (properties : List (String × Schema))
    (bare : target.effective = .ok target) (reference : target.ref = some path)
    (referred : doc.componentsOrNone.typeName path = .ok name)
    (array : doc.componentsOrNone.targetShape target = .ok (.array items))
    (chosen : itemType doc.componentsOrNone (.named name) items = .ok (some type))
    (resolved : doc.componentsOrNone.resolve items = .ok item) (classified : item.classify = .ok (.object properties))
    (named : finderField doc.componentsOrNone item (fieldNames {} properties) "name" = .ok (some finder.byName))
    (identified : finderField doc.componentsOrNone item (fieldNames {} properties) "id" = .ok (some finder.byId)) :
    ∃ returned, type = .named returned ∧ finder.Fits doc package unit items item (.named name) returned := by
  obtain ⟨found, followed, listed⟩ := target_shape_found _ target target _ bare array
  obtain ⟨direct, returned, beside, shown, rfl⟩ := named_item_type _ name items type chosen
  refine ⟨returned, rfl, .listed fun types built => ?_⟩
  obtain ⟨d, element, ends, shape, guard, compound, hint, before, after, rendered, kept⟩ :=
    reference_slice doc package types built _ target found items path name reference referred followed listed
  have capital := (build_types_complete doc package types built).capital
  obtain ⟨own, inner, rfl, stripped, onward, either⟩ := element_record _ types capital guard hint items item element
    properties before after rendered kept compound resolved classified
  refine ⟨d, own, ends, shape, ?_, ?_⟩
  · refine item_record_searched _ types own item properties finder ?_ named identified
    rcases either with ⟨_, record⟩ | ⟨path, refers, located⟩
    · exact record
    · exact reference_record doc package types built _ inner item path own properties refers located onward classified
  · rintro ⟨again, bare, only⟩
    obtain rfl := Except.ok.inj (stripped.symm.trans bare)
    rw [beside] at only
    rcases either with ⟨inline, _⟩ | ⟨path, refers, located⟩
    · cases inline.symm.trans only
    · obtain rfl := Option.some.inj (refers.symm.trans only)
      exact Except.ok.inj (shown.symm.trans located)

def SourceUnit.FindersFit (doc : Document) (package : String) (unit : SourceUnit) : Prop :=
  ∀ f ∈ unit.functions, ∀ finder, f.body = .finder finder →
    ∃ entry ∈ doc.entries, ∃ response ∈ unit.declarations, ∃ fields, ∃ list ∈ fields, ∃ wire items item returned,
      response.shape = .record fields ∧ f.receiver.map (·.type) = some (.pointer (.named response.name)) ∧
      f.results = [.pointer (.named returned), .named "error"] ∧
      (∃ method ∈ unit.functions, method.name = entry.name ∧
        method.results = [.pointer (.named response.name), .named "error"]) ∧
      entry.Lists doc.componentsOrNone wire items ∧ doc.componentsOrNone.resolve items = .ok item ∧
      list.tag.map (·.wire) = some wire ∧ list.name = finder.list ∧
      finder.Fits doc package unit items item list.type returned

-- A finder is planned on schemas, and the records of its items are rendered apart
-- from it.
theorem built_finders_fit (doc : Document) (package : String) (keyed : doc.Keyed) (outcomes : List Outcome)
    (unit : SourceUnit) (built : buildOperations doc package = .ok (outcomes, unit)) : unit.FindersFit doc package := by
  intro f member finder searches
  obtain ⟨entry, listed, s, name, fields, plan, rfl, found⟩ :=
    operations_found doc package outcomes unit built f finder searches member
  obtain rfl : plan.finder = finder := FunctionBody.finder.inj searches
  have capital := operations_capital doc package outcomes unit built
  obtain ⟨target, properties, stripped, classified, guard, compound, before, after, compiled, kept⟩ :=
    found_fields _ unit (build_operations_distinct doc package outcomes unit built) entry s name fields plan found
  obtain ⟨response, declared, rfl, record⟩ := found.record
  cases found.planned with
  | @found bare item items own others first wire list type byName byId again held single resolved object field typed named
      identified =>
      obtain rfl := Except.ok.inj (stripped.symm.trans again)
      obtain rfl := Schema.object_properties target properties own classified held
      have distinctProperties := keyed entry listed s found.responded target (by rw [stripped]; rfl) own held
      have present := List.mem_of_find?_eq_some field
      have tagged : list.tag.map (·.wire) = some wire := by simpa using List.find?_some field
      obtain ⟨property, inOwn, array⟩ := list_property _ own _ wire items single (List.mem_singleton_self _)
      suffices fits : ∃ returned, type = .named returned ∧
          Finder.Fits doc package unit { list := list.name, kind := Naming.singular wire, byName, byId } items
            item list.type returned by
        obtain ⟨returned, rfl, fits⟩ := fits
        exact ⟨entry, listed, response, declared, fields, list, present, wire, items, item, returned, record, rfl, rfl,
          found.returned, ⟨s, target, own, found.responded, stripped, held, single⟩, resolved, tagged, rfl, fits⟩
      rcases list_field_typed _ guard response.name target own fields before after compiled distinctProperties wire
        property items inOwn array list present tagged with
        ⟨direct, path, name, outer, reference, referred, same⟩ | ⟨hint, element, start, last, same, below, rendered⟩
      · rw [same] at typed ⊢
        have plain := Schema.effective_idempotent property direct outer
        rw [resolve_effective _ property direct outer] at array
        exact listed_fits doc package unit _ direct items item path name type _ plain reference referred
          array typed resolved object named identified
      · rw [same] at typed ⊢
        obtain rfl : element = type := Option.some.inj (Except.ok.inj typed)
        obtain ⟨returned, inner, rfl, _, followed, either⟩ := element_record _ unit capital guard hint items item element
          _ start last rendered (fun d member => kept d (below d member)) compound resolved object
        refine ⟨returned, rfl, ?_⟩
        rcases either with ⟨_, record⟩ | ⟨path, reference, referred⟩
        · exact .nested (item_record_searched _ unit returned item _ _ record named identified)
        · refine .component fun types built => ?_
          have record := reference_record doc package types built _ inner item path returned _ reference referred
            followed object
          exact item_record_searched _ types returned item _ _ record named identified

theorem finders_fit_items (doc : Document) (options : UnitOptions) (keyed : doc.Keyed)
    (generated : Generated) (done : generateOperations doc options = .ok generated) :
    ∃ outcomes unit, buildOperations doc options.package = .ok (outcomes, unit) ∧
      formatUnit options .operations unit.render = .ok generated.source ∧ unit.FindersFit doc options.package := by
  obtain ⟨outcomes, unit, built, formatted⟩ := generate_operations_unit doc options generated done
  exact ⟨outcomes, unit, built, formatted, built_finders_fit doc options.package keyed outcomes unit built⟩

theorem read_finders_fit (format : DataFormat) (text : String) (doc : Document) (package : String)
    (read : Document.read format text = .ok doc) (outcomes : List Outcome) (unit : SourceUnit)
    (built : buildOperations doc package = .ok (outcomes, unit)) : unit.FindersFit doc package :=
  built_finders_fit doc package (read_keyed format text doc read) outcomes unit built

def numbered (id : Schema) : Schema :=
  { type := some (.single "object"), properties := some [("id", id), ("name", { type := some (.single "string") })] }

def catalog (widget gadget : Schema) (schemas : List (String × Schema)) : Document :=
  let list (items : Schema) : Schema := { type := some (.single "array"), items := some items }
  let operation (id wire : String) (s : Schema) : PathItem := { get := some {
    id := some id
    responses := [("200", { content := [("application/json",
      some { type := some (.single "object"), properties := some [(wire, s)] })] })] } }
  { paths := [
      ("/gadgets", operation "listGadgets" "gadgets" { ref := some "#/components/schemas/Shelf" }),
      ("/widgets", operation "listWidgets" "widgets" (list widget))]
    components := some { schemas := schemas ++ [("Shelf", list gadget)] } }

def tidy : Document :=
  let reference (name : String) : Schema := { ref := some ("#/components/schemas/" ++ name) }
  catalog (numbered { type := some (.single "string") }) (reference "Part") [
    ("Gadget", numbered (reference "Number")),
    ("Number", { type := some (.single "integer"), enumValues := some [.integer 1, .integer 2] }),
    ("Part", { anyOf := some [reference "Gadget", { type := some (.single "null") }] })]

theorem tidy_finders_fit :
    tidy.Keyed ∧
    ∃ generated, generateOperations tidy { installed := some unchanging } = .ok generated ∧
      ∃ outcomes unit, buildOperations tidy "models" = .ok (outcomes, unit) ∧
        formatUnit { installed := some unchanging } .operations unit.render = .ok generated.source ∧
        unit.functions.map Function.name = ["ListGadgets", "Error", "FindGadget", "ListWidgets", "FindWidget"] ∧
        unit.FindersFit tidy "models" := by
  have keyed : tidy.Keyed := by
    unfold Document.Keyed
    decide +kernel
  obtain ⟨⟨outcomes, unit⟩, built, named⟩ := ok_holds (buildOperations tidy "models")
    (fun built => built.2.functions.map Function.name = ["ListGadgets", "Error", "FindGadget", "ListWidgets", "FindWidget"])
    (by decide +kernel)
  have done := generate_operations_unchanging tidy "models" outcomes unit built
  obtain ⟨_, _, again, formatted, fit⟩ := finders_fit_items tidy { installed := some unchanging } keyed _ done
  obtain ⟨rfl, rfl⟩ := Prod.mk.inj (Except.ok.inj (built.symm.trans again))
  exact ⟨keyed, _, done, outcomes, unit, built, formatted, of_decide_eq_true named, fit⟩

def DeclarationShape.fields : DeclarationShape → List Field
  | .record fields => fields
  | _ => []

theorem DeclarationShape.fields_record (shape : DeclarationShape) (field : Field) (own : field ∈ shape.fields) :
    ∃ fields, shape = .record fields ∧ field ∈ fields := by
  cases shape with
  | record fields => exact ⟨fields, rfl, own⟩
  | _ => exact absurd own List.not_mem_nil

-- The numbers of widgets are bytes behind a reference. The items of gadgets refer
-- to parts, but have gadgets beside that reference.
def mislaid : Document :=
  let text : Schema := { type := some (.single "string") }
  let reference (name : String) : Schema := { ref := some ("#/components/schemas/" ++ name) }
  catalog (reference "Item") { reference "Part" with allOf := some [reference "Gadget"] } [
    ("Blob", { text with format := some "byte" }),
    ("Gadget", numbered text),
    ("Item", numbered (reference "Blob")),
    ("Part", numbered text)]

theorem mislaid_finders_differ :
    ∃ types operations a outcomes b,
      generateTypes mislaid { installed := some unchanging } = .ok types ∧
      generateOperations mislaid { installed := some unchanging } = .ok operations ∧
      buildTypes mislaid "models" = .ok a ∧ buildOperations mislaid "models" = .ok (outcomes, b) ∧
      (∃ f ∈ b.functions, f.results = [.pointer (.named "Item"), .named "error"] ∧
        f.body = .finder {
          list := "Widgets"
          kind := "widget"
          byName := { name := "Name", pointer := true, isString := true }
          byId := { name := "ID", pointer := false, isString := false } }) ∧
      (∃ d ∈ a.declarations, d.name = "Item" ∧ ∃ fields, d.shape = .record fields ∧ ∃ field ∈ fields,
        field.tag.map (·.wire) = some "id" ∧ field.name = "ID" ∧ field.type = .pointer (.named "Blob")) ∧
      (∃ f ∈ b.functions, f.name = "FindGadget" ∧ f.results = [.pointer (.named "Part"), .named "error"]) ∧
      ∃ d ∈ a.declarations, d.name = "Shelf" ∧ d.shape = .slice (.named "Gadget") := by
  obtain ⟨a, types, declared⟩ := ok_holds (buildTypes mislaid "models")
    (fun unit => decide (
      (∃ d ∈ unit.declarations, d.name = "Item" ∧ ∃ field ∈ d.shape.fields,
        field.tag.map (·.wire) = some "id" ∧ field.name = "ID" ∧ field.type = .pointer (.named "Blob")) ∧
      ∃ d ∈ unit.declarations, d.name = "Shelf" ∧ (d.shape == .slice (.named "Gadget")) = true)) (by decide +kernel)
  obtain ⟨⟨outcomes, b⟩, operations, searched⟩ := ok_holds (buildOperations mislaid "models")
    (fun built => decide (
      (∃ f ∈ built.2.functions, f.results = [.pointer (.named "Item"), .named "error"] ∧
        f.body = .finder {
          list := "Widgets"
          kind := "widget"
          byName := { name := "Name", pointer := true, isString := true }
          byId := { name := "ID", pointer := false, isString := false } }) ∧
      ∃ f ∈ built.2.functions, f.name = "FindGadget" ∧ f.results = [.pointer (.named "Part"), .named "error"]))
    (by decide +kernel)
  obtain ⟨⟨item, listed, itemNamed, field, own, typed⟩, shelf, held, shelfNamed, sliced⟩ := of_decide_eq_true declared
  obtain ⟨widget, gadget⟩ := of_decide_eq_true searched
  refine ⟨_, _, a, outcomes, b, generate_types_unchanging mislaid "models" a types,
    generate_operations_unchanging mislaid "models" outcomes b operations, types, operations, widget, ?_, gadget, ?_⟩
  · obtain ⟨fields, shape, inside⟩ := DeclarationShape.fields_record item.shape field own
    exact ⟨item, listed, itemNamed, fields, shape, field, inside, typed⟩
  · rcases DeclarationShape.same_alike _ _ sliced with shape | ⟨_, _, _, _, _, other⟩
    · exact ⟨shelf, held, shelfNamed, shape⟩
    · cases other

end ApiBindings
