import ApiBindings.Proofs.Generation.Kinds
import ApiBindings.Proofs.Shape.Reference
set_option autoImplicit false

namespace ApiBindings

def Rendering.Aliases (components : Components) (task : Rendering) (d : Declaration) : Prop :=
  ∀ aliased, d.shape = .alias aliased →
    match task with
    | .declaration _ name s => d.name = name ∧ ∃ guard target before after, s.effective = .ok target ∧
        Rendered components (.shape guard name target d.shape) before after
    | _ => False

section

variable (components : Components)

theorem rendered_aliases (task : Rendering) (before after : SourceUnit)
    (rendered : Rendered components task before after) : before.Adds (task.Aliases components) after := by
  induction rendered with
  | @declaration guard name s target shape before during after stripped shaped declared ih =>
      have nested : before.Adds (Rendering.Aliases components (.declaration guard name s)) during := fun d member =>
        (ih d member).imp_right fun none aliased same => (none aliased same).elim
      exact nested.trans
        (SourceUnit.declare_adds _ _ _ _ declared fun aliased _ => ⟨rfl, _, _, _, _, stripped, shaped⟩)
  | aliasReference | aliasScalar | enumeration | openMap => exact SourceUnit.same_adds _ _ _ rfl
  | slice _ _ _ ih => exact ih
  | record _ _ _ ih => exact ih
  | map _ _ _ ih => exact ih
  | elementReference | elementScalar | elementOpenMap => exact SourceUnit.same_adds _ _ _ rfl
  | elementEnumeration _ _ _ claimed _ declared =>
      exact (SourceUnit.same_adds _ _ _ (SourceUnit.claim_declarations _ _ _ _ claimed).1).trans
        (SourceUnit.declare_adds _ _ _ _ declared fun aliased same => by cases same)
  | elementSlice _ _ _ _ ih => exact ih
  | elementMap _ _ _ _ ih => exact ih
  | @elementRecord _ _ _ s target properties _ _ _ stripped inline classified claimed _ ih =>
      refine (SourceUnit.same_adds _ _ _ (SourceUnit.claim_declarations _ _ _ _ claimed).1).trans fun d member => ?_
      refine (ih d member).imp_right fun own aliased same => ?_
      obtain ⟨_, guard, bare, before, after, again, shaped⟩ := own aliased same
      obtain rfl := Except.ok.inj ((Schema.effective_idempotent s target stripped).symm.trans again)
      have record := object_record components guard _ target d.shape properties before after inline classified shaped
      rw [same] at record
      exact Bool.false_ne_true record
  | noFields => exact SourceUnit.same_adds _ _ _ rfl
  | field _ _ _ _ _ _ first last => exact SourceUnit.Adds.trans first last

theorem types_unit_aliases (doc : Document) (package : String) (unit : SourceUnit)
    (built : buildTypes doc package = .ok unit) (d : Declaration) (member : d ∈ unit.declarations) (aliased : TypeExpr)
    (same : d.shape = .alias aliased) : ∃ entry ∈ doc.schemas, Naming.exported entry.1 = d.name := by
  refine build_types_listed doc package unit
    (fun d => ∀ aliased, d.shape = .alias aliased → ∃ entry ∈ doc.schemas, Naming.exported entry.1 = d.name) built ?_
    d member aliased same
  intro entry listed before after rendered d member
  refine (rendered_aliases doc.componentsOrNone _ before after rendered d member).imp_right fun own aliased same => ?_
  exact ⟨entry, listed, (own aliased same).1.symm⟩

variable (unit : SourceUnit) (complete : Complete components unit)

include complete

theorem reference_aliased (entry : String × Schema) (listed : entry ∈ components.schemas) (target : Schema)
    (path : String) (stripped : entry.2.effective = .ok target) (refers : target.ref = some path) :
    ∃ d ∈ unit.declarations, d.name = Naming.exported entry.1 ∧ ∃ behind ∈ components.schemas,
      components.schema? path = some behind ∧ d.shape = .alias (.named (Naming.exported behind.1)) := by
  obtain ⟨d, member, named, again, bare, follows⟩ := component_follows components unit complete entry listed
  obtain rfl := Except.ok.inj (stripped.symm.trans bare)
  unfold DeclarationShape.Follows at follows
  simp only [refers] at follows
  obtain ⟨next, typed, aliased⟩ := follows
  obtain ⟨behind, known, rfl, located⟩ := reference_component components path next typed
  exact ⟨d, member, named, behind, known, located, aliased⟩

-- By induction on the references. Where they end the declaration is no alias.
theorem chain_ends (entry : String × Schema) (final : Schema) (listed : entry ∈ components.schemas)
    (reaches : components.Reaches entry.2 final) : ∃ d, unit.EndsAt (Naming.exported entry.1) d := by
  generalize start : entry.2 = s at reaches
  induction reaches generalizing entry with
  | @inline s target stripped here =>
      obtain ⟨d, member, named, again, bare, follows⟩ := component_follows components unit complete entry listed
      rw [start] at bare
      obtain rfl := Except.ok.inj (stripped.symm.trans bare)
      have shaped := follows
      unfold DeclarationShape.Follows at shaped
      rw [here] at shaped
      obtain ⟨shape, classified, _⟩ := shaped
      exact ⟨d, named ▸ (inline_ends components unit complete d target shape member follows here classified).1⟩
  | @reference s target final path behind stripped refers located onward ih =>
      obtain ⟨d, member, named, other, present, found, aliased⟩ :=
        reference_aliased components unit complete entry listed target path (start ▸ stripped) refers
      obtain rfl := Option.some.inj (located.symm.trans found)
      obtain ⟨e, inside, leads, stop⟩ := ih behind present rfl
      exact ⟨e, inside, named ▸ .step member aliased leads, stop⟩

-- By induction on the aliases. They end at no alias of a component.
theorem ends_chain (name : String) (d : Declaration) (ends : unit.EndsAt name d) (entry : String × Schema)
    (listed : entry ∈ components.schemas) (named : Naming.exported entry.1 = name) :
    ∃ final, components.Reaches entry.2 final := by
  obtain ⟨member, leads, stop⟩ := ends
  generalize arrived : d.name = last at leads
  induction leads generalizing entry with
  | here name =>
      obtain ⟨_, _, _, target, stripped, _⟩ := component_follows components unit complete entry listed
      cases refers : target.ref with
      | none => exact ⟨target, .inline stripped refers⟩
      | some path =>
          obtain ⟨own, present, same, behind, known, _, aliased⟩ :=
            reference_aliased components unit complete entry listed target path stripped refers
          obtain rfl := SourceUnit.distinct_same unit complete.distinct own d present member
            (same.trans (named.trans arrived.symm))
          obtain ⟨e, inside, sameName, _⟩ := component_follows components unit complete behind known
          exact absurd ⟨e, inside, sameName⟩ (stop _ aliased)
  | @step e next last present aliased _ ih =>
      obtain ⟨_, _, _, target, stripped, _⟩ := component_follows components unit complete entry listed
      cases refers : target.ref with
      | none => exact ⟨target, .inline stripped refers⟩
      | some path =>
          obtain ⟨own, inside, same, behind, known, located, shape⟩ :=
            reference_aliased components unit complete entry listed target path stripped refers
          obtain rfl := SourceUnit.distinct_same unit complete.distinct own e inside present (same.trans named)
          obtain rfl := TypeExpr.named.inj (DeclarationShape.alias.inj (aliased.symm.trans shape))
          obtain ⟨final, reached⟩ := ih behind known rfl arrived
          exact ⟨final, .reference stripped refers located reached⟩

end

theorem aliases_end_iff (doc : Document) (options : UnitOptions) (generated : Generated)
    (done : generateTypes doc options = .ok generated) :
    ∃ unit, buildTypes doc options.package = .ok unit ∧
      formatUnit options .types unit.render = .ok generated.source ∧
      ∀ name, unit.Declares name → ((∃ d, unit.EndsAt name d) ↔
        ∀ entry ∈ doc.schemas, Naming.exported entry.1 = name → ∃ final, doc.componentsOrNone.Reaches entry.2 final) := by
  obtain ⟨unit, built, formatted⟩ := generate_types_unit doc options generated done
  have complete := build_types_complete doc options.package unit built
  refine ⟨unit, built, formatted, fun name declared => ⟨fun ⟨d, ends⟩ entry listed named => ?_, fun finite => ?_⟩⟩
  · rw [← component_schemas] at listed
    exact ends_chain doc.componentsOrNone unit complete name d ends entry listed named
  · by_cases component : ∃ entry ∈ doc.schemas, Naming.exported entry.1 = name
    · obtain ⟨entry, listed, rfl⟩ := component
      obtain ⟨final, reached⟩ := finite entry listed rfl
      rw [← component_schemas] at listed
      exact chain_ends doc.componentsOrNone unit complete entry final listed reached
    · obtain ⟨d, member, rfl⟩ := declared
      exact ⟨d, member, .here d.name, fun next aliased =>
        absurd (types_unit_aliases doc options.package unit built d member _ aliased) component⟩

def relays : Document :=
  let reference (name : String) : Schema := { ref := some ("#/components/schemas/" ++ name) }
  { components := some { schemas := [
      ("chain", reference "link"),
      ("link", { allOf := some [reference "text"] }),
      ("ring", reference "round"),
      ("round", reference "ring"),
      ("text", { type := some (.single "string") })] } }

theorem relays_end_iff :
    ∃ generated, generateTypes relays { installed := some unchanging } = .ok generated ∧
      ∃ unit, buildTypes relays "models" = .ok unit ∧
        formatUnit { installed := some unchanging } .types unit.render = .ok generated.source ∧
        (∃ d, unit.EndsAt "Chain" d) ∧
        ((∃ d, unit.EndsAt "Ring" d) ↔ ∀ entry ∈ relays.schemas, Naming.exported entry.1 = "Ring" →
          ∃ final, relays.componentsOrNone.Reaches entry.2 final) := by
  obtain ⟨built, made, declared⟩ := ok_holds (buildTypes relays "models")
    (fun unit => ["Chain", "Ring"].all fun name => unit.declarations.any fun d => d.name == name) (by decide +kernel)
  have done := generate_types_unchanging relays "models" built made
  obtain ⟨unit, same, formatted, ends⟩ := aliases_end_iff relays { installed := some unchanging } _ done
  obtain rfl := Except.ok.inj (made.symm.trans same)
  have known (name : String) (listed : name ∈ ["Chain", "Ring"]) : built.Declares name := by
    obtain ⟨d, member, named⟩ := List.any_eq_true.mp (List.all_eq_true.mp declared name listed)
    exact ⟨d, member, eq_of_beq named⟩
  refine ⟨_, done, built, same, formatted, (ends "Chain" (known "Chain" (by decide))).mpr ?_,
    ends "Ring" (known "Ring" (by decide))⟩
  intro entry listed named
  have only : ∀ entry ∈ relays.schemas, Naming.exported entry.1 = "Chain" →
      entry.2 = { ref := some "#/components/schemas/link" } := by decide +kernel
  have bare (path : String) : ({ ref := some path } : Schema).effective = .ok { ref := some path } :=
    Schema.bare_effective _ ⟨rfl, rfl, rfl⟩
  rw [only entry listed named]
  let text : Schema := { type := some (.single "string") }
  let link : Schema := { allOf := some [{ ref := some "#/components/schemas/text" }] }
  have onward : relays.componentsOrNone.schema? "#/components/schemas/link" = some ("link", link) := by rfl
  have last : relays.componentsOrNone.schema? "#/components/schemas/text" = some ("text", text) := by rfl
  have composed : link.effective = .ok { ref := some "#/components/schemas/text" } := by decide +kernel
  exact ⟨text, .reference (bare _) rfl onward
    (.reference composed rfl last (.inline (Schema.bare_effective text ⟨rfl, rfl, rfl⟩) rfl))⟩

def circle : Document :=
  { components := some { schemas := [
      ("Ring", { ref := some "#/components/schemas/Round" }), ("Round", { ref := some "#/components/schemas/Ring" })] } }

theorem circle_aliases_never_end :
    ∃ generated, generateTypes circle { installed := some unchanging } = .ok generated ∧
      ∃ unit, buildTypes circle "models" = .ok unit ∧
        formatUnit { installed := some unchanging } .types unit.render = .ok generated.source ∧
        unit.Declares "Ring" ∧ ¬ ∃ d, unit.EndsAt "Ring" d := by
  obtain ⟨unit, built, holds⟩ := ok_holds (buildTypes circle "models")
    (fun unit => unit.declarations.map (fun d => d.name) == ["Ring", "Round"] && unit.declarations.all fun d =>
      ["Ring", "Round"].any fun next => d.shape == .alias (.named next))
    (by decide +kernel)
  obtain ⟨names, aliased⟩ := Bool.and_eq_true_iff.mp holds
  have done := generate_types_unchanging circle "models" unit built
  obtain ⟨again, same, formatted⟩ := generate_types_unit circle { installed := some unchanging } _ done
  obtain rfl := Except.ok.inj (built.symm.trans same)
  have declared (name : String) (listed : name ∈ ["Ring", "Round"]) : unit.Declares name := by
    rw [← eq_of_beq names] at listed
    exact List.mem_map.mp listed
  refine ⟨_, done, unit, built, formatted, declared "Ring" (by decide), fun ⟨d, member, _, stop⟩ => ?_⟩
  obtain ⟨next, listed, leads⟩ := List.any_eq_true.mp (List.all_eq_true.mp aliased d member)
  have shape : d.shape = .alias (.named next) := (DeclarationShape.alike_iff d.shape _ _
    (DeclarationShape.same_alike d.shape _ leads) fun _ _ other => by cases other).mpr rfl
  exact stop next shape (declared next listed)

end ApiBindings
