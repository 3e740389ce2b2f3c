import ApiBindings.Proofs.Rendering.Compound
import ApiBindings.Proofs.Rendering.Equations
import ApiBindings.Proofs.Rendering.Result
set_option autoImplicit false

namespace ApiBindings

def Shape.ownsName : Shape → Bool
  | .enumeration _ _ | .object _ => true
  | _ => false

inductive Schema.Declares : Schema → Prop where
  | own {s target : Schema} {shape : Shape} (stripped : s.effective = .ok target) (inline : target.ref = none)
      (classified : target.classify = .ok shape) (owns : shape.ownsName = true) : s.Declares
  | held {s target part : Schema} {shape : Shape} (stripped : s.effective = .ok target) (inline : target.ref = none)
      (classified : target.classify = .ok shape) (collects : shape.isCollection = true) (member : part ∈ shape.parts)
      (declares : part.Declares) : s.Declares

def Schema.Nests (s : Schema) : Prop :=
  ∃ target shape part, s.effective = .ok target ∧ target.ref = none ∧ target.classify = .ok shape ∧
    part ∈ shape.parts ∧ part.Declares

theorem declares_stripped (s target : Schema) (stripped : s.effective = .ok target) : s.Declares ↔ target.Declares := by
  have still := Schema.effective_idempotent s target stripped
  have same (bare : Schema) : s.effective = .ok bare ↔ target.effective = .ok bare := by rw [stripped, still]
  constructor
  · rintro (⟨bare, inline, classified, owns⟩ | ⟨bare, inline, classified, collects, member, declares⟩)
    · exact .own ((same _).mp bare) inline classified owns
    · exact .held ((same _).mp bare) inline classified collects member declares
  · rintro (⟨bare, inline, classified, owns⟩ | ⟨bare, inline, classified, collects, member, declares⟩)
    · exact .own ((same _).mpr bare) inline classified owns
    · exact .held ((same _).mpr bare) inline classified collects member declares

namespace Build

variable {α β : Type}

def Idle (build : Build α) : Prop := ∃ result, ∀ unit, build.result unit = (result, unit)

theorem idle_pure (a : α) : (pure a : Build α).Idle := ⟨.ok a, fun _ => rfl⟩

theorem idle_throw (failure : Failure) : (throw failure : Build α).Idle := ⟨.error failure, fun _ => rfl⟩

theorem idle_check (name : String) (checked : Except Defect α) : (check name checked).Idle := by
  cases checked with
  | ok a => exact idle_pure a
  | error defect => exact idle_throw _

theorem idle_bind (x : Build α) (f : α → Build β) (first : x.Idle) (next : ∀ a, (f a).Idle) : (x >>= f).Idle := by
  obtain ⟨result, ran⟩ := first
  cases result with
  | error failure => exact ⟨.error failure, fun unit => by rw [result_bind, ran]⟩
  | ok a =>
      obtain ⟨last, done⟩ := next a
      exact ⟨last, fun unit => by rw [result_bind, ran]; exact done unit⟩

theorem idle_map (f : α → β) (x : Build α) (idle : x.Idle) : (f <$> x).Idle :=
  idle_bind x (fun a => pure (f a)) idle fun a => idle_pure (f a)

end Build

section

variable (components : Components)

theorem element_idle (guard : Guard Schema) (hint : String) (s : Schema) (alone : ¬ s.Declares) :
    (elementType components guard hint s).Idle := by
  rw [element_type_eq]
  cases stripped : s.effective with
  | error defect => exact Build.idle_throw _
  | ok target =>
      have bound := Schema.effective_size_le stripped
      dsimp only [elementOf]
      split
      next path reference => exact Build.idle_map _ _ (Build.idle_check _ _)
      next inline =>
        split
        next => exact Build.idle_throw _
        next => exact Build.idle_pure _
        next classified => exact absurd (.own stripped inline classified rfl) alone
        next items classified =>
          have smaller : sizeOf items < sizeOf target := Schema.holds_classify classified
          have single : ¬ items.Declares := fun declares =>
            alone (.held stripped inline classified rfl List.mem_cons_self declares)
          exact Build.idle_map _ _ (element_idle guard _ items single)
        next => exact Build.idle_pure _
        next value classified =>
          have smaller : sizeOf value < sizeOf target := Schema.holds_classify classified
          have single : ¬ value.Declares := fun declares =>
            alone (.held stripped inline classified rfl List.mem_cons_self declares)
          exact Build.idle_map _ _ (element_idle guard _ value single)
        next classified => exact absurd (.own stripped inline classified rfl) alone
termination_by sizeOf s
decreasing_by all_goals omega

theorem fields_idle (guard : Guard Schema) (parent : String) (object : Schema) (names : Names)
    (properties : List (String × Schema)) (alone : ∀ entry ∈ properties, ¬ entry.2.Declares) :
    (declareFields components guard parent object names properties).Idle := by
  induction properties generalizing names with
  | nil =>
      rw [declare_fields_nil]
      exact Build.idle_pure _
  | cons entry rest ih =>
      obtain ⟨wire, property⟩ := entry
      obtain ⟨own, others⟩ := List.forall_mem_cons.mp alone
      rw [declare_fields_eq]
      split
      next => exact Build.idle_throw _
      next =>
        dsimp only
        split
        next => exact Build.idle_throw _
        next target stripped =>
          have single : ¬ target.Declares := fun declares => own ((declares_stripped property target stripped).mpr declares)
          refine Build.idle_bind _ _ (Build.idle_check _ _) fun collection => ?_
          refine Build.idle_bind _ _ (element_idle components guard _ target single) fun type => ?_
          exact Build.idle_bind _ _ (ih _ others) fun later => Build.idle_pure _

theorem shape_idle (guard : Guard Schema) (name : String) (s target : Schema) (stripped : s.effective = .ok target)
    (alone : ¬ s.Nests) : (schemaShape components guard name target).Idle := by
  have single (shape : Shape) (part : Schema) (inline : target.ref = none) (classified : target.classify = .ok shape)
      (member : part ∈ shape.parts) : ¬ part.Declares := fun declares =>
    alone ⟨target, shape, part, stripped, inline, classified, member, declares⟩
  unfold schemaShape shapeOf
  split
  next path reference => exact Build.idle_map _ _ (Build.idle_map _ _ (Build.idle_check _ _))
  next inline =>
    split
    next => exact Build.idle_throw _
    next => exact Build.idle_pure _
    next type values classified =>
      split
      next => exact Build.idle_pure _
      next => exact Build.idle_throw _
    next items classified =>
      exact Build.idle_map _ _ (element_idle components guard _ items (single _ _ inline classified List.mem_cons_self))
    next properties classified =>
      refine Build.idle_map _ _ (fields_idle components guard name target {} properties fun entry member => ?_)
      exact single _ _ inline classified (List.mem_map_of_mem member)
    next => exact Build.idle_pure _
    next value classified =>
      exact Build.idle_map _ _ (element_idle components guard _ value (single _ _ inline classified List.mem_cons_self))

end

end ApiBindings
