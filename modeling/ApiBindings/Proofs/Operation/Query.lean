import ApiBindings.Proofs.Operation.Finder
import ApiBindings.Unit.Printer
import ApiBindings.Proofs.Shape.Reference
import Mathlib.Data.List.Basic
set_option autoImplicit false

namespace ApiBindings

def Components.TargetsArray (components : Components) (s : Schema) : Prop :=
  ∃ items, components.Targets s (.array items)

def Components.TargetsBytes (components : Components) (s : Schema) : Prop := components.Targets s (.scalar .bytes)

def Shape.isSliced : Shape → Bool
  | .array _ => true
  | .scalar type => type = .bytes
  | _ => false

-- Whether a value is sent element by element. Arrays are, if no reference is in
-- between, and so are bytes.
structure SentAs (components : Components) (s : Schema) (repeated : Bool) : Prop where
  exact : repeated = true ↔ s.Inline ∧ (components.TargetsArray s ∨ components.TargetsBytes s)
  arrays : (repeated = true ↔ components.TargetsArray s) ↔
    (components.TargetsArray s → s.Inline) ∧ (s.Inline → ¬ components.TargetsBytes s)

section

variable (components : Components)

theorem array_not_bytes (s : Schema) (array : components.TargetsArray s) : ¬ components.TargetsBytes s := by
  intro bytes
  obtain ⟨items, targets⟩ := array
  cases targets_unique components s _ _ targets bytes

theorem sent_as (s : Schema) (repeated : Bool)
    (exact : repeated = true ↔ s.Inline ∧ (components.TargetsArray s ∨ components.TargetsBytes s)) :
    SentAs components s repeated := by
  have apart := array_not_bytes components s
  refine ⟨exact, ?_⟩
  rw [exact]
  constructor
  · intro same
    exact ⟨fun array => (same.mpr array).1, fun here bytes => apart (same.mp ⟨here, Or.inr bytes⟩) bytes⟩
  · rintro ⟨shown, noBytes⟩
    refine ⟨fun ⟨here, sent⟩ => sent.resolve_right (noBytes here), fun array => ⟨shown array, Or.inl array⟩⟩

theorem inline_sliced (s target : Schema) (shape : Shape) (stripped : s.effective = .ok target)
    (here : target.ref = none) (classified : target.classify = .ok shape) :
    shape.isSliced = true ↔ s.Inline ∧ (components.TargetsArray s ∨ components.TargetsBytes s) := by
  have targets (other : Shape) : components.Targets s other ↔ shape = other := by
    rw [inline_targets components s target other stripped here, classified, Except.ok.injEq]
  have inline : s.Inline := ⟨target, stripped, here⟩
  unfold Components.TargetsArray Components.TargetsBytes
  simp only [targets, inline, true_and]
  cases shape <;> simp [Shape.isSliced]

theorem element_sliced (guard : Guard Schema) (hint : String) (s : Schema) (type : TypeExpr) (before after : SourceUnit)
    (rendered : Rendered components (.element guard hint s type) before after) :
    type.isSlice = true ↔ s.Inline ∧ (components.TargetsArray s ∨ components.TargetsBytes s) := by
  cases rendered with
  | elementReference stripped reference =>
      refine ⟨fun impossible => (by cases impossible), ?_⟩
      rintro ⟨⟨target, again, here⟩, _⟩
      obtain rfl := Except.ok.inj (stripped.symm.trans again)
      cases reference.symm.trans here
  | @elementScalar _ _ _ _ scalar _ stripped here classified =>
      rw [← inline_sliced components s _ _ stripped here classified]
      cases scalar <;> simp [TypeExpr.ofScalar, TypeExpr.isSlice, Shape.isSliced]
  | elementEnumeration stripped here classified | elementSlice stripped here classified
  | elementOpenMap stripped here classified | elementMap stripped here classified
  | elementRecord stripped here classified =>
      rw [← inline_sliced components s _ _ stripped here classified]
      rfl

end

def sending (wire : String) (repeated : Bool) : String :=
  if repeated then "\t\tfor _, item := range v \x7b\n\t\t\tq.Add(" ++ quoted wire ++ ", fmt.Sprint(item))\n\t\t\x7d\n"
  else "\t\tq.Set(" ++ quoted wire ++ ", fmt.Sprint(v))\n"

structure SetsParameter (components : Components) (parameter : Parameter) (f : Function) (repeated : Bool) : Prop where
  body : f.body = .queryOption parameter.name repeated
  value : ∃ type, f.parameters = [{ name := "v", type }] ∧ type.isSlice = repeated
  text : f.body.render = "\treturn func(q url.Values) \x7b\n" ++ sending parameter.name repeated ++ "\t\x7d\n"
  untyped : parameter.schema = none → repeated = false
  typed : ∀ s, parameter.schema = some s → SentAs components s repeated

def SetsQuery (components : Components) (parameter : Parameter) (f : Function) : Prop :=
  ∃ repeated, SetsParameter components parameter f repeated

theorem constructor_sets (components : Components) (operation option suffix hint : String) (parameter : Parameter)
    (type : TypeExpr) (before after : SourceUnit)
    (typed : ParameterTyped components hint parameter.schema before type after) :
    SetsQuery components parameter (optionConstructor operation option suffix parameter type) := by
  refine ⟨type.isSlice, rfl, ⟨type, rfl, rfl⟩, rfl, fun missing => ?_, fun s given => ?_⟩
  · rw [missing] at typed
    cases typed
    rfl
  · rw [given] at typed
    cases typed with
    | given rendered => exact sent_as components s _ (element_sliced components {} hint s type before after rendered)

theorem constructed_sets (components : Components) (operation option : String) (names : Names) (query : List Parameter)
    (before after : SourceUnit) (constructed : Constructed components operation option names query before after) :
    ∃ constructors, after.functions = before.functions ++ constructors ∧
      List.Forall₂ (SetsQuery components) query constructors := by
  induction constructed with
  | none => exact ⟨[], (List.append_nil _).symm, .nil⟩
  | @next _ _ parameter _ suffix type before middle _ _ typed _ ih =>
      obtain ⟨constructors, added, sets⟩ := ih
      refine ⟨optionConstructor operation option suffix parameter type :: constructors, ?_,
        .cons (constructor_sets components operation option suffix _ parameter type before middle typed) sets⟩
      rw [added, SourceUnit.push, parameter_typed_functions components _ _ _ _ _ typed, List.append_assoc]
      rfl

theorem options_declared_sets (components : Components) (operation : String) (query : List Parameter)
    (option : Option String) (first second before after : SourceUnit)
    (claimed : OptionClaimed operation query first option second)
    (declared : OptionsDeclared components operation query option before after) :
    ∃ constructors, after.functions = before.functions ++ constructors ∧
      List.Forall₂ (SetsQuery components) query constructors := by
  cases declared with
  | none =>
      cases claimed with
      | none absent => exact ⟨[], (List.append_nil _).symm, absent ▸ .nil⟩
  | some declared constructed =>
      obtain ⟨constructors, added, sets⟩ := constructed_sets components operation _ _ query _ after constructed
      exact ⟨constructors, added.trans (by rw [SourceUnit.declare_functions _ _ _ declared]), sets⟩

def Function.NoOption (f : Function) : Prop := ∀ wire repeated, f.body ≠ .queryOption wire repeated

theorem searched_no_options (components : Components) (operation : String) (s : Schema) (response : Payload)
    (before after : SourceUnit) (searched : ResponseSearched components operation s response before after) :
    ∃ others, after.functions = before.functions ++ others ∧ ∀ f ∈ others, f.NoOption := by
  have nothing : ∃ others, before.functions = before.functions ++ others ∧ ∀ f ∈ others, f.NoOption :=
    ⟨[], (List.append_nil _).symm, List.forall_mem_nil _⟩
  cases searched with
  | skipped => exact nothing
  | @searched name _ _ _ _ finder =>
      cases finder with
      | none => exact nothing
      | @found _ _ _ plan _ _ _ _ error =>
          have search : (finderMethod name plan).NoOption := fun _ _ same => by cases same
          cases error with
          | known => exact ⟨[finderMethod name plan], rfl, List.forall_mem_singleton.mpr search⟩
          | new _ declared =>
              refine ⟨[notFoundMethod, finderMethod name plan], ?_, ?_⟩
              · rw [SourceUnit.push, SourceUnit.push, SourceUnit.declare_functions _ _ _ declared, List.append_assoc]
                rfl
              · intro f member
                rcases List.mem_cons.mp member with rfl | last
                · exact fun _ _ same => by cases same
                · exact List.mem_singleton.mp last ▸ search

def QuerySent (components : Components) (entry : Document.Entry) (signature : Function) (functions : List Function) :
    Prop :=
  ∃ parameters constructors others, mergedParameters components entry.item entry.operation = .ok parameters ∧
    functions = signature :: (constructors ++ others) ∧
    List.Forall₂ (SetsQuery components) (parameters.filter (·.location = "query")) constructors ∧
    ∀ f ∈ others, f.NoOption

theorem compiled_query_sent (components : Components) (earlier : List String) (entry : Document.Entry)
    (before after : SourceUnit) (operation : CompiledOperation)
    (compiled : Compiled components earlier entry before (.emitted operation) after) :
    ∃ functions, after.functions = before.functions ++ functions ∧
      QuerySent components entry operation.signature functions := by
  cases compiled with
  | @emitted _ parameters inPath body option response path _ _ _ _ fourth fifth _ _ _ merged pathTyped bodyTyped
      optionClaimed responseTyped _ optionsDeclared searched =>
      obtain ⟨constructors, added, sets⟩ :=
        options_declared_sets components _ _ option _ _ _ fifth optionClaimed optionsDeclared
      obtain ⟨others, last, plain⟩ := searched_no_options components _ _ response fifth after searched
      refine ⟨_, ?_, parameters, constructors, others, merged, rfl, sets, plain⟩
      rw [last, added, SourceUnit.push, payloads_functions components pathTyped bodyTyped optionClaimed responseTyped]
      simp only [List.append_assoc, List.cons_append, List.nil_append]

end ApiBindings
