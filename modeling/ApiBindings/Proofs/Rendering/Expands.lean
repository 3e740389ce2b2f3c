import ApiBindings.Proofs.Rendering.Compound
import ApiBindings.Proofs.Rendering.Fields
import ApiBindings.Proofs.Rendering.Origin
set_option autoImplicit false

namespace ApiBindings

def Schema.Comprises (s t : Schema) : Prop :=
  ∃ target shape part, s.effective = .ok target ∧ target.ref = none ∧ target.classify = .ok shape ∧
    part ∈ shape.parts ∧ part.effective = .ok t

-- What is inside a schema, but not inside an object that is inside it.
inductive Schema.Places : Schema → Schema → Prop where
  | part {s t : Schema} (held : s.Comprises t) : s.Places t
  | inner {s t u : Schema} (outer : s.Places t) (open_ : ∀ properties, t.classify ≠ .ok (.object properties))
      (held : t.Comprises u) : s.Places u

-- The schemas that declarations are made for, from a component inwards, with what is being expanded meanwhile.
inductive Components.Expands (components : Components) : List Schema → Schema → Prop where
  | component {name : String} {s : Schema} (listed : (name, s) ∈ components.schemas) : components.Expands [s] s
  | nested {chain : List Schema} {s t : Schema} {properties : List (String × Schema)}
      (outer : components.Expands chain s) (held : s.Places t) (inline : t.ref = none)
      (classified : t.classify = .ok (.object properties)) : components.Expands (t :: chain) t

structure FieldHolds (components : Components) (chain : List Schema) (object : Schema) (entry : String × Schema)
    (field : Field) : Prop where
  wire : field.wire = some entry.1
  required : field.required = object.requires entry.1
  pointer : ∀ inner, field.type = .pointer inner → object.requires entry.1 = true →
    ∃ t ∈ chain, Cycle.Reaches components entry.2 t
  value : ∀ name, field.type = .named name → ¬ components.RefersToCollection entry.2 →
    ∀ t ∈ chain, ¬ Cycle.Reaches components entry.2 t

def Components.Compiles (components : Components) (chain : List Schema) (s : Schema) (fields : List Field) : Prop :=
  ∃ target properties, s.effective = .ok target ∧ target.ref = none ∧ target.classify = .ok (.object properties) ∧
    List.Forall₂ (FieldHolds components chain target) properties fields

def Guard.Follows (guard : Guard Schema) (chain : List Schema) : Prop := ∀ t, guard.isActive t = true ↔ t ∈ chain

theorem enter_follows (guard : Guard Schema) (chain : List Schema) (s : Schema) (name : String)
    (follows : guard.Follows chain) : (guard.enter s name).Follows (s :: chain) := by
  intro t
  rw [enter_is_active, Bool.or_eq_true, decide_eq_true_eq, List.mem_cons, follows t]

theorem component_enters (s : Schema) (name : String) : (Guard.enter {} s name).Follows [s] :=
  enter_follows {} [] s name fun _ => ⟨fun active => Bool.noConfusion active, fun member => absurd member List.not_mem_nil⟩

theorem places_stripped (s t : Schema) (held : s.Places t) :
    (∃ target, s.effective = .ok target) ∧ t.effective = .ok t := by
  induction held with
  | part held =>
      obtain ⟨target, _, part, stripped, _, _, _, bare⟩ := held
      exact ⟨⟨target, stripped⟩, Schema.effective_idempotent part _ bare⟩
  | inner _ _ held ih =>
      obtain ⟨_, _, part, _, _, _, _, bare⟩ := held
      exact ⟨ih.1, Schema.effective_idempotent part _ bare⟩

section

variable (components : Components)

theorem expands_strips (chain : List Schema) (s target : Schema) (expands : components.Expands chain s)
    (stripped : s.effective = .ok target) : ∀ t ∈ chain, ∃ bare, t.effective = .ok bare := by
  induction expands generalizing target with
  | component =>
      intro t member
      obtain rfl := List.mem_singleton.mp member
      exact ⟨target, stripped⟩
  | nested _ held _ _ ih =>
      intro t member
      obtain ⟨⟨_, outside⟩, _⟩ := places_stripped _ _ held
      rcases List.mem_cons.mp member with rfl | around
      · exact ⟨target, stripped⟩
      · exact ih _ outside t around

theorem closes_cycle_iff (guard : Guard Schema) (chain : List Schema) (follows : guard.Follows chain)
    (strips : ∀ t ∈ chain, ∃ bare, t.effective = .ok bare) (s : Schema) :
    components.closesCycle guard s = true ↔ ∃ t ∈ chain, Cycle.Reaches components s t := by
  rw [Cycle.closes_cycle_found_iff]
  constructor
  · rintro ⟨t, reached, active, _⟩
    exact ⟨t, (follows t).mp active, reached⟩
  · rintro ⟨t, member, reached⟩
    exact ⟨t, reached, (follows t).mpr member, strips t member⟩

theorem rendered_element_typed (guard : Guard Schema) (hint : String) (s target : Schema) (type : TypeExpr)
    (before after : SourceUnit) (stripped : s.effective = .ok target)
    (rendered : Rendered components (.element guard hint s type) before after) : ElementTyped components target type := by
  cases rendered with
  | elementReference again reference named =>
      obtain rfl := Except.ok.inj (stripped.symm.trans again)
      refine ⟨fun inner same => (by cases same), fun path referred => ⟨_, ?_, rfl⟩⟩
      rwa [Option.some.inj (referred.symm.trans reference)]
  | elementScalar again inline =>
      obtain rfl := Except.ok.inj (stripped.symm.trans again)
      exact ⟨scalar_plain _, fun path reference => by simp [inline] at reference⟩
  | elementEnumeration again inline | elementSlice again inline | elementOpenMap again inline | elementMap again inline
  | elementRecord again inline =>
      obtain rfl := Except.ok.inj (stripped.symm.trans again)
      exact ⟨fun inner same => (by cases same), fun path reference => by simp [inline] at reference⟩

theorem rendered_fields_hold (guard : Guard Schema) (chain : List Schema) (parent : String) (object : Schema)
    (names : Names) (properties : List (String × Schema)) (fields : List Field) (before after : SourceUnit)
    (follows : guard.Follows chain) (strips : ∀ t ∈ chain, ∃ bare, t.effective = .ok bare)
    (rendered : Rendered components (.fields guard parent object names properties fields) before after) :
    List.Forall₂ (FieldHolds components chain object) properties fields := by
  induction properties generalizing names fields before with
  | nil =>
      cases rendered with
      | noFields => exact .nil
  | cons entry rest ih =>
      obtain ⟨wire, property⟩ := entry
      cases rendered with
      | @field _ _ _ _ _ _ name _ target _ type collection others _ _ _ _ claimed stripped collects typed compiled =>
          obtain ⟨word, capital⟩ := field_name_exported names _ wire name claimed
          have own := rendered_element_typed components guard _ target target type _ _
            (Schema.effective_idempotent property target stripped) typed
          have fits := property_field_fits components guard object target (wire, property) name type collection word
            capital stripped collects own
          have closes := closes_cycle_iff components guard chain follows strips property
          refine .cons ⟨rfl, rfl, fun inner pointed needed => ?_, fun named same single t member reached => ?_⟩
            (ih _ others _ compiled)
          · exact closes.mp ((fits.pointer inner pointed).2.2 needed)
          · obtain ⟨_, opened⟩ := (fits.value named same).resolve_left single
            exact Bool.false_ne_true (opened.symm.trans (closes.mpr ⟨t, member, reached⟩))

theorem rendered_record_compiles (guard : Guard Schema) (chain : List Schema) (name : String) (s target : Schema)
    (fields : List Field) (before after : SourceUnit) (follows : guard.Follows chain)
    (expands : components.Expands chain s) (stripped : s.effective = .ok target)
    (rendered : Rendered components (.shape guard name target (.record fields)) before after) :
    components.Compiles chain s fields := by
  obtain ⟨inline, properties, classified, compiled⟩ := record_object components guard name target fields before after rendered
  exact ⟨target, properties, stripped, inline, classified,
    rendered_fields_hold components guard chain name target {} properties fields before after follows
      (expands_strips components chain s target expands stripped) compiled⟩

def Rendering.Placed (components : Components) (task : Rendering) : Prop :=
  match task with
  | .declaration guard _ s => ∃ chain, guard.Follows chain ∧ components.Expands chain s
  | .shape guard _ target _ =>
    ∃ chain s, guard.Follows chain ∧ components.Expands chain s ∧ s.effective = .ok target
  | .element guard _ s _ =>
    ∃ chain outer, guard.Follows chain ∧ components.Expands chain outer ∧ ∀ t, s.effective = .ok t → outer.Places t
  | .fields guard _ _ _ properties _ =>
    ∃ chain outer, guard.Follows chain ∧ components.Expands chain outer ∧
      ∀ entry ∈ properties, ∀ t, entry.2.effective = .ok t → outer.Places t

def Components.Accounts (components : Components) (d : Declaration) : Prop :=
  ∀ fields, d.shape = .record fields → ∃ chain s, components.Expands chain s ∧ components.Compiles chain s fields

theorem rendered_accounts (task : Rendering)
    (before after : SourceUnit) (rendered : Rendered components task before after) (placed : task.Placed components) :
    before.Adds components.Accounts after := by
  induction rendered with
  | @declaration guard name s target shape before middle after stripped shaped declared ih =>
      obtain ⟨chain, follows, expands⟩ := placed
      refine (ih ⟨chain, s, follows, expands, stripped⟩).trans (SourceUnit.declare_adds _ _ _ _ declared ?_)
      rintro fields rfl
      exact ⟨chain, s, expands,
        rendered_record_compiles components guard chain name s target fields before middle follows expands
          stripped shaped⟩
  | aliasReference | aliasScalar | enumeration | openMap => exact SourceUnit.same_adds _ _ _ rfl
  | slice inline classified _ ih | map inline classified _ ih =>
      obtain ⟨chain, s, follows, expands, stripped⟩ := placed
      exact ih ⟨chain, s, follows, expands, fun t bare =>
        .part ⟨_, _, _, stripped, inline, classified, List.mem_singleton_self _, bare⟩⟩
  | record inline classified _ ih =>
      obtain ⟨chain, s, follows, expands, stripped⟩ := placed
      exact ih ⟨chain, s, follows, expands, fun entry member t bare =>
        .part ⟨_, _, _, stripped, inline, classified, List.mem_map_of_mem member, bare⟩⟩
  | elementReference | elementScalar | elementOpenMap => exact SourceUnit.same_adds _ _ _ rfl
  | elementEnumeration _ _ _ claimed _ declared =>
      exact (SourceUnit.same_adds _ _ _ (SourceUnit.claim_declarations _ _ _ _ claimed).1).trans
        (SourceUnit.declare_adds _ _ _ _ declared fun fields same => by cases same)
  | @elementSlice _ _ s target _ _ _ _ stripped inline classified _ ih
  | @elementMap _ _ s target _ _ _ _ stripped inline classified _ ih =>
      obtain ⟨chain, outer, follows, expands, places⟩ := placed
      refine ih ⟨chain, outer, follows, expands, fun t bare => .inner (places target stripped) (by simp [classified]) ?_⟩
      exact ⟨_, _, _, Schema.effective_idempotent s target stripped, inline, classified, List.mem_singleton_self _, bare⟩
  | @elementRecord guard _ name _ target _ _ _ _ stripped inline classified claimed _ ih =>
      obtain ⟨chain, outer, follows, expands, places⟩ := placed
      exact (SourceUnit.same_adds _ _ _ (SourceUnit.claim_declarations _ _ _ _ claimed).1).trans
        (ih ⟨target :: chain, enter_follows guard chain target name follows,
          .nested expands (places target stripped) inline classified⟩)
  | noFields => exact SourceUnit.same_adds _ _ _ rfl
  | @field _ _ _ _ _ _ _ property target _ _ _ _ _ _ _ _ _ stripped _ _ _ first last =>
      obtain ⟨chain, outer, follows, expands, places⟩ := placed
      refine (first ⟨chain, outer, follows, expands, fun t bare => ?_⟩).trans
        (last ⟨chain, outer, follows, expands, fun entry member => places entry (List.mem_cons_of_mem _ member)⟩)
      obtain rfl := Except.ok.inj ((Schema.effective_idempotent property target stripped).symm.trans bare)
      exact places _ List.mem_cons_self target stripped

def Renders (unit : SourceUnit) (guard : Guard Schema) (t : Schema) : Prop :=
  ∃ hint s type first last, s.effective = .ok t ∧ Rendered components (.element guard hint s type) first last ∧
    ∀ d ∈ last.declarations, d ∈ unit.declarations

section

variable (unit : SourceUnit) (guard : Guard Schema)

theorem fields_render (parent : String) (object t : Schema) (names : Names) (properties : List (String × Schema))
    (fields : List Field) (before after : SourceUnit) (entry : String × Schema)
    (rendered : Rendered components (.fields guard parent object names properties fields) before after)
    (kept : ∀ d ∈ after.declarations, d ∈ unit.declarations) (member : entry ∈ properties)
    (stripped : entry.2.effective = .ok t) : Renders components unit guard t := by
  induction properties generalizing names fields before with
  | nil => exact absurd member List.not_mem_nil
  | cons first rest ih =>
      obtain ⟨wire, property⟩ := first
      cases rendered with
      | @field _ _ _ _ _ _ _ _ target _ _ _ _ _ _ _ _ _ bare _ typed compiled =>
          rcases List.mem_cons.mp member with rfl | later
          · obtain rfl := Except.ok.inj (stripped.symm.trans bare)
            have grows := rendered_grows components _ _ _ compiled
            exact ⟨_, t, _, _, _, Schema.effective_idempotent property t stripped, typed,
              fun d member => kept d (grows.keep d member)⟩
          · exact ih _ _ _ compiled later

theorem declaration_renders (name : String) (s t : Schema) (before after : SourceUnit)
    (rendered : Rendered components (.declaration guard name s) before after)
    (kept : ∀ d ∈ after.declarations, d ∈ unit.declarations) (held : s.Comprises t) :
    Renders components unit guard t := by
  obtain ⟨target, shape, part, stripped, inline, classified, member, bare⟩ := held
  cases rendered with
  | declaration again shaped declared =>
      obtain rfl := Except.ok.inj (stripped.symm.trans again)
      have grows := SourceUnit.declare_grows _ _ _ declared
      have below := fun d member => kept d (grows.keep d member)
      cases shaped with
      | aliasReference reference => simp [inline] at reference
      | aliasScalar _ known | enumeration _ known | openMap _ known =>
          obtain rfl := Except.ok.inj (classified.symm.trans known)
          exact absurd member List.not_mem_nil
      | slice _ known item | map _ known item =>
          obtain rfl := Except.ok.inj (classified.symm.trans known)
          obtain rfl := List.mem_singleton.mp member
          exact ⟨_, part, _, _, _, bare, item, below⟩
      | record _ known compiled =>
          obtain rfl := Except.ok.inj (classified.symm.trans known)
          obtain ⟨entry, listed, rfl⟩ := List.mem_map.mp member
          exact fields_render components unit guard _ target t _ _ _ _ _ entry compiled below listed bare

theorem element_renders (t u : Schema) (outer : Renders components unit guard t)
    (open_ : ∀ properties, t.classify ≠ .ok (.object properties)) (held : t.Comprises u) :
    Renders components unit guard u := by
  obtain ⟨hint, s, type, first, last, stripped, rendered, kept⟩ := outer
  obtain ⟨target, shape, part, same, inline, classified, member, bare⟩ := held
  obtain rfl := Except.ok.inj (same.symm.trans (Schema.effective_idempotent s t stripped))
  cases rendered with
  | elementReference again reference =>
      obtain rfl := Except.ok.inj (stripped.symm.trans again)
      simp [inline] at reference
  | elementScalar again _ known | elementEnumeration again _ known | elementOpenMap again _ known =>
      obtain rfl := Except.ok.inj (stripped.symm.trans again)
      obtain rfl := Except.ok.inj (classified.symm.trans known)
      exact absurd member List.not_mem_nil
  | elementSlice again _ known item | elementMap again _ known item =>
      obtain rfl := Except.ok.inj (stripped.symm.trans again)
      obtain rfl := Except.ok.inj (classified.symm.trans known)
      obtain rfl := List.mem_singleton.mp member
      exact ⟨_, part, _, _, _, bare, item, kept⟩
  | elementRecord again _ known =>
      obtain rfl := Except.ok.inj (stripped.symm.trans again)
      exact absurd known (open_ _)

theorem places_render (name : String) (s t : Schema) (before after : SourceUnit)
    (rendered : Rendered components (.declaration guard name s) before after)
    (kept : ∀ d ∈ after.declarations, d ∈ unit.declarations) (held : s.Places t) : Renders components unit guard t := by
  induction held with
  | part held => exact declaration_renders components unit guard name s _ before after rendered kept held
  | inner _ open_ held ih => exact element_renders components unit guard _ _ ih open_ held

end

theorem expands_rendered (unit : SourceUnit) (chain : List Schema) (s : Schema)
    (component : ∀ entry ∈ components.schemas, ∃ before after, Rendered components
      (.declaration (Guard.enter {} entry.2 (Naming.exported entry.1)) (Naming.exported entry.1) entry.2) before after ∧
      ∀ d ∈ after.declarations, d ∈ unit.declarations)
    (expands : components.Expands chain s) :
    ∃ guard name before after, guard.Follows chain ∧ Rendered components (.declaration guard name s) before after ∧
      ∀ d ∈ after.declarations, d ∈ unit.declarations := by
  induction expands with
  | @component name s listed =>
      obtain ⟨before, after, rendered, kept⟩ := component (name, s) listed
      exact ⟨_, _, before, after, component_enters s _, rendered, kept⟩
  | @nested chain s t properties _ held inline classified ih =>
      obtain ⟨guard, name, before, after, follows, rendered, kept⟩ := ih
      obtain ⟨hint, part, type, first, last, stripped, element, below⟩ :=
        places_render components unit guard name s t before after rendered kept held
      cases element with
      | @elementRecord _ _ own _ target _ _ middle _ again _ _ _ declared =>
          obtain rfl := Except.ok.inj (stripped.symm.trans again)
          exact ⟨_, own, middle, last, enter_follows guard chain t own follows, declared, below⟩
      | elementReference again reference =>
          obtain rfl := Except.ok.inj (stripped.symm.trans again)
          simp [inline] at reference
      | elementScalar again _ known | elementEnumeration again _ known | elementSlice again _ known
      | elementOpenMap again _ known | elementMap again _ known =>
          obtain rfl := Except.ok.inj (stripped.symm.trans again)
          simp [classified] at known

theorem declaration_compiles (unit : SourceUnit)
    (guard : Guard Schema) (chain : List Schema) (name : String) (s : Schema) (before after : SourceUnit)
    (follows : guard.Follows chain) (expands : components.Expands chain s)
    (rendered : Rendered components (.declaration guard name s) before after)
    (kept : ∀ d ∈ after.declarations, d ∈ unit.declarations) :
    ∃ d ∈ unit.declarations, d.name = name ∧
      (∀ fields, d.shape = .record fields → components.Compiles chain s fields) ∧
      ∀ target properties, s.effective = .ok target → target.ref = none → target.classify = .ok (.object properties) →
        ∃ fields, d.shape = .record fields := by
  obtain ⟨d, member, named, target, shape, middle, stripped, shaped, _, alike⟩ :=
    declaration_shape components unit guard name s before after rendered kept
  have record (fields : List Field) : d.shape = .record fields ↔ shape = .record fields :=
    DeclarationShape.alike_iff d.shape shape _ alike fun _ _ same => by cases same
  refine ⟨d, member, named, fun fields same => ?_, fun bare properties again inline classified => ?_⟩
  · obtain rfl := (record fields).mp same
    exact rendered_record_compiles components guard chain name s target fields before middle follows expands
      stripped shaped
  · obtain rfl := Except.ok.inj (stripped.symm.trans again)
    have kind := object_record components guard name target shape properties before middle inline classified shaped
    cases shape with
    | record fields => exact ⟨fields, (record fields).mpr rfl⟩
    | _ => exact absurd kind Bool.false_ne_true

end

end ApiBindings
