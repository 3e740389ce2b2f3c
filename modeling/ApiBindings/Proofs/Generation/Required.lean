import ApiBindings.Proofs.Generation.Format
import ApiBindings.Proofs.Generation.Types
import ApiBindings.Proofs.Rendering.Expands
set_option autoImplicit false

namespace ApiBindings

theorem types_unit_compiles (doc : Document) (package : String) (unit : SourceUnit)
    (built : buildTypes doc package = .ok unit) : ∀ d ∈ unit.declarations, doc.componentsOrNone.Accounts d := by
  refine build_types_listed doc package unit _ built fun entry listed before after rendered => ?_
  rw [← component_schemas] at listed
  exact rendered_accounts doc.componentsOrNone _ before after rendered
    ⟨[entry.2], component_enters entry.2 _, .component listed⟩

theorem component_record_compiles (doc : Document) (package : String) (unit : SourceUnit)
    (built : buildTypes doc package = .ok unit) (entry : String × Schema) (listed : entry ∈ doc.schemas)
    (d : Declaration) (member : d ∈ unit.declarations)
    (named : d.name = Naming.exported entry.1) (fields : List Field) (record : d.shape = .record fields) :
    doc.componentsOrNone.Compiles [entry.2] entry.2 fields := by
  have complete := build_types_complete doc package unit built
  obtain ⟨before, after, rendered, kept⟩ := build_types_component doc package unit built entry listed
  rw [← component_schemas] at listed
  obtain ⟨own, present, same, compiles, _⟩ := declaration_compiles doc.componentsOrNone unit _ [entry.2] _ entry.2
    before after (component_enters entry.2 _) (.component listed) rendered kept
  obtain rfl := SourceUnit.distinct_same unit complete.distinct own d present member (same.trans named.symm)
  exact compiles fields record

theorem place_declared (doc : Document) (package : String) (unit : SourceUnit)
    (built : buildTypes doc package = .ok unit) (chain : List Schema) (s target : Schema) (properties : List (String × Schema))
    (expands : doc.componentsOrNone.Expands chain s)
    (stripped : s.effective = .ok target) (inline : target.ref = none)
    (classified : target.classify = .ok (.object properties)) :
    ∃ d ∈ unit.declarations, ∃ fields, d.shape = .record fields ∧ doc.componentsOrNone.Compiles chain s fields := by
  have component (entry : String × Schema) (listed : entry ∈ doc.componentsOrNone.schemas) :=
    build_types_component doc package unit built entry (component_schemas doc ▸ listed)
  obtain ⟨guard, name, before, after, follows, rendered, kept⟩ :=
    expands_rendered doc.componentsOrNone unit chain s component expands
  obtain ⟨d, member, _, compiles, record⟩ := declaration_compiles doc.componentsOrNone unit guard chain name s
    before after follows expands rendered kept
  obtain ⟨fields, same⟩ := record target properties stripped inline classified
  exact ⟨d, member, fields, same, compiles fields same⟩

theorem required_pointers_lead_back (doc : Document) (options : UnitOptions) (generated : Generated)
    (done : generateTypes doc options = .ok generated) :
    ∃ unit, buildTypes doc options.package = .ok unit ∧
      formatUnit options .types unit.render = .ok generated.source ∧
      (∀ entry ∈ doc.schemas, ∀ d ∈ unit.declarations, d.name = Naming.exported entry.1 → ∀ fields,
        d.shape = .record fields → doc.componentsOrNone.Compiles [entry.2] entry.2 fields) ∧
      (∀ d ∈ unit.declarations, ∀ fields, d.shape = .record fields → ∃ chain s,
        doc.componentsOrNone.Expands chain s ∧ doc.componentsOrNone.Compiles chain s fields) ∧
      ∀ chain s target properties, doc.componentsOrNone.Expands chain s → s.effective = .ok target →
        target.ref = none → target.classify = .ok (.object properties) →
        ∃ d ∈ unit.declarations, ∃ fields, d.shape = .record fields ∧
          doc.componentsOrNone.Compiles chain s fields := by
  obtain ⟨unit, built, formatted⟩ := generate_types_unit doc options generated done
  exact ⟨unit, built, formatted, component_record_compiles doc options.package unit built,
    types_unit_compiles doc options.package unit built, place_declared doc options.package unit built⟩

-- A crate has a lid, and the lid says whose it is. The size leads nowhere.
def lid : Schema := {
  type := some (.single "object")
  required := some ["of"]
  properties := some [("of", { allOf := some [{ ref := some "#/components/schemas/crate" }] })] }

def crate : Schema := {
  type := some (.single "object")
  required := some ["lid", "size"]
  properties := some [("lid", lid), ("size", { ref := some "#/components/schemas/size" })] }

def crates : Document :=
  { components := some { schemas := [
      ("crate", crate),
      ("size", {
        type := some (.single "object")
        properties := some [("width", { type := some (.single "number") })] })] } }

theorem lids_lead_back :
    ∃ generated, generateTypes crates { installed := some unchanging } = .ok generated ∧
      ∃ unit, buildTypes crates "models" = .ok unit ∧
        formatUnit { installed := some unchanging } .types unit.render = .ok generated.source ∧
        (∀ d ∈ unit.declarations, d.name = "Crate" → ∀ fields, d.shape = .record fields →
          crates.componentsOrNone.Compiles [crate] crate fields) ∧
        ∃ d ∈ unit.declarations, ∃ fields, d.shape = .record fields ∧
          crates.componentsOrNone.Compiles [lid, crate] lid fields := by
  obtain ⟨built, made⟩ := ok_exists (buildTypes crates "models") (by decide +kernel)
  have done := generate_types_unchanging crates "models" built made
  obtain ⟨unit, same, formatted, component, _, placed⟩ :=
    required_pointers_lead_back crates { installed := some unchanging } _ done
  have listed : ("crate", crate) ∈ crates.componentsOrNone.schemas := List.mem_cons_self
  have outside : crate.effective = .ok crate := Schema.bare_effective crate ⟨rfl, rfl, rfl⟩
  have bare : lid.effective = .ok lid := Schema.bare_effective lid ⟨rfl, rfl, rfl⟩
  have shaped : crate.classify = .ok (.object (crate.properties.getD [])) := by rfl
  have classified : lid.classify = .ok (.object (lid.properties.getD [])) := by rfl
  have inside : crate.Places lid := .part ⟨crate, _, lid, outside, rfl, shaped, List.mem_cons_self, bare⟩
  have named : Naming.exported "crate" = "Crate" := by decide +kernel
  exact ⟨_, done, unit, same, formatted,
    fun d member own => component ("crate", crate) List.mem_cons_self d member (own.trans named.symm),
    placed _ lid lid _ (.nested (.component listed) inside rfl classified) bare rfl classified⟩

theorem Cycle.bare_step (components : Components) (s t : Schema) (bare : s.effective = .ok s)
    (step : Step components s t) : t = s ∨
      (∃ path name, s.ref = some path ∧ components.schema? path = some (name, t)) ∨
      ∃ properties, s.ref = none ∧ s.classify = .ok (.object properties) ∧ t ∈ properties.map Prod.snd := by
  cases step with
  | strip stripped => exact Or.inl (Except.ok.inj (stripped.symm.trans bare))
  | reference stripped reference found =>
      obtain rfl := Except.ok.inj (stripped.symm.trans bare)
      exact Or.inr (Or.inl ⟨_, _, reference, found⟩)
  | property stripped inline classified member =>
      obtain rfl := Except.ok.inj (stripped.symm.trans bare)
      exact Or.inr (Or.inr ⟨_, inline, classified, List.mem_map_of_mem member⟩)

def Components.LeadsTo (components : Components) (s : Schema) (name : String) : Prop :=
  ∃ t target path component, Cycle.Reaches components s t ∧ t.effective = .ok target ∧ target.ref = some path ∧
    components.schema? path = some (name, component)

-- Two components of equal content. Both hold the second one.
def twinReference : Schema := { ref := some "#/components/schemas/B" }

def twin : Schema := {
  type := some (.single "object")
  required := some ["x"]
  properties := some [("x", twinReference)] }

def twins : Document := { components := some { schemas := [("A", twin), ("B", twin)] } }

theorem twin_reference_effective : twinReference.effective = .ok twinReference :=
  Schema.bare_effective twinReference ⟨rfl, rfl, rfl⟩

theorem twin_effective : twin.effective = .ok twin := Schema.bare_effective twin ⟨rfl, rfl, rfl⟩

theorem twin_reference_located : twins.componentsOrNone.schema? "#/components/schemas/B" = some ("B", twin) := by rfl

theorem twins_reach (t : Schema) (reached : Cycle.Reaches twins.componentsOrNone twinReference t) :
    t = twinReference ∨ t = twin := by
  have classified : twin.classify = .ok (.object [("x", twinReference)]) := by rfl
  induction reached with
  | refl => exact Or.inl rfl
  | tail _ step ih =>
      rcases ih with rfl | rfl
      · rcases Cycle.bare_step _ _ _ twin_reference_effective step with same | ⟨_, _, reference, found⟩ | ⟨_, inline, _⟩
        · exact Or.inl same
        · obtain rfl := Option.some.inj reference
          exact Or.inr (Prod.mk.inj (Option.some.inj (found.symm.trans twin_reference_located))).2
        · cases inline
      · rcases Cycle.bare_step _ _ _ twin_effective step with same | ⟨_, _, reference, _⟩ | ⟨_, _, known, member⟩
        · exact Or.inr same
        · cases reference
        · obtain rfl := Shape.object.inj (Except.ok.inj (classified.symm.trans known))
          exact Or.inl (List.mem_singleton.mp member)

theorem twins_lead_to_last (name : String) (leads : twins.componentsOrNone.LeadsTo twinReference name) :
    name = "B" := by
  obtain ⟨t, target, path, component, reached, stripped, reference, found⟩ := leads
  rcases twins_reach t reached with rfl | rfl
  · obtain rfl := Except.ok.inj (stripped.symm.trans twin_reference_effective)
    obtain rfl := Option.some.inj reference
    exact (Prod.mk.inj (Option.some.inj (found.symm.trans twin_reference_located))).1
  · obtain rfl := Except.ok.inj (stripped.symm.trans twin_effective)
    cases reference

def heldTwin : Field := { name := "X", type := .pointer (.named "B"), tag := some { wire := "x" } }

theorem twin_by_pointer :
    ∃ generated, generateTypes twins { installed := some unchanging } = .ok generated ∧
      ∃ unit, buildTypes twins "models" = .ok unit ∧
        formatUnit { installed := some unchanging } .types unit.render = .ok generated.source ∧
        (∃ d ∈ unit.declarations, d.name = "A" ∧ d.shape = .record [heldTwin] ∧ heldTwin.wire = some "x" ∧
          heldTwin.required = true ∧ heldTwin.type = .pointer (.named "B")) ∧
        ¬ twins.componentsOrNone.LeadsTo twinReference "A" := by
  obtain ⟨unit, built, holds⟩ := ok_holds (buildTypes twins "models")
    (fun unit => unit.declarations.any fun d => d.name == "A" && d.shape == .record [heldTwin]) (by decide +kernel)
  have done := generate_types_unchanging twins "models" unit built
  obtain ⟨again, same, formatted⟩ := generate_types_unit twins { installed := some unchanging } _ done
  obtain rfl := Except.ok.inj (built.symm.trans same)
  refine ⟨_, done, unit, built, formatted, ?_, fun leads => ?_⟩
  · obtain ⟨d, member, found⟩ := List.any_eq_true.mp holds
    obtain ⟨named, shaped⟩ := Bool.and_eq_true_iff.mp found
    have record : d.shape = .record [heldTwin] := (DeclarationShape.alike_iff d.shape _ _
      (DeclarationShape.same_alike d.shape _ shaped) fun _ _ other => by cases other).mpr rfl
    exact ⟨d, member, eq_of_beq named, record, rfl, rfl, rfl⟩
  · exact absurd (twins_lead_to_last "A" leads) (by decide)

end ApiBindings
