import ApiBindings.Proofs.Except
import ApiBindings.Proofs.Naming.Exported
import ApiBindings.Shape.Reference
set_option autoImplicit false

namespace ApiBindings

namespace Schema

def Bare (s : Schema) : Prop := s.nullablePartner = none ∧ s.allOf = none ∧ s.union = none

theorem effective_bare (s target : Schema) (stripped : s.effective = .ok target) : target.Bare := by
  fun_induction effective s with
  | case1 s inner wrapped ih => exact ih stripped
  | case2 s unwrapped only composed bare ih => exact ih stripped
  | case3 | case4 | case5 => simp at stripped
  | case6 s unwrapped alone plain =>
      obtain rfl := Except.ok.inj stripped
      exact ⟨unwrapped, alone, plain⟩

theorem bare_effective (s : Schema) (bare : s.Bare) : s.effective = .ok s := by
  obtain ⟨unwrapped, alone, plain⟩ := bare
  unfold effective
  split
  next inner wrapped => simp [unwrapped] at wrapped
  next =>
    split
    next only composed => simp [alone] at composed
    next members _ composed => simp [alone] at composed
    next => rw [plain]

theorem effective_idempotent (s target : Schema) (stripped : s.effective = .ok target) :
    target.effective = .ok target := bare_effective target (effective_bare s target stripped)

end Schema

theorem reference_component (components : Components) (path name : String) (typed : components.typeName path = .ok name) :
    ∃ entry ∈ components.schemas, name = Naming.exported entry.1 ∧ components.schema? path = some entry := by
  unfold Components.typeName at typed
  split at typed
  next key t found =>
    have member := List.mem_of_find?_eq_some (Option.bind_eq_some_iff.mp found).choose_spec.2
    exact ⟨(key, t), member, (Except.ok.inj typed).symm, found⟩
  next => cases typed

theorem type_name_capital (components : Components) (path name : String) (typed : components.typeName path = .ok name) :
    Naming.Capital name := by
  obtain ⟨entry, _, rfl, _⟩ := reference_component components path name typed
  exact Naming.exported_capital entry.1

theorem follow_inline (components : Components) (left : Nat) (target found : Schema) (inline : target.ref = none)
    (followed : components.follow left target = .ok found) : found = target := by
  cases left with
  | zero => simp [Components.follow] at followed
  | succ left =>
      rw [Components.follow, inline] at followed
      exact (Except.ok.inj followed).symm

theorem follow_step (components : Components) (left : Nat) (target found : Schema) (path : String)
    (reference : target.ref = some path) (followed : components.follow left target = .ok found) :
    ∃ less entry next, left = less + 1 ∧ components.schema? path = some entry ∧ entry.2.effective = .ok next ∧
      components.follow less next = .ok found := by
  cases left with
  | zero => simp [Components.follow] at followed
  | succ left =>
      simp only [Components.follow, reference] at followed
      split at followed
      next => cases followed
      next name s behind =>
        split at followed
        next inner bare => exact ⟨left, (name, s), inner, rfl, behind, bare, followed⟩
        next => cases followed

theorem follow_reference (components : Components) (left : Nat) (target found : Schema) (path : String)
    (entry : String × Schema) (reference : target.ref = some path) (behind : components.schema? path = some entry)
    (followed : components.follow left target = .ok found) :
    ∃ less next, entry.2.effective = .ok next ∧ components.follow less next = .ok found := by
  obtain ⟨less, other, next, _, located, bare, onward⟩ := follow_step components left target found path reference followed
  obtain rfl := Option.some.inj (behind.symm.trans located)
  exact ⟨less, next, bare, onward⟩

theorem target_shape_found (components : Components) (s target : Schema) (shape : Shape)
    (stripped : s.effective = .ok target) (shaped : components.targetShape s = .ok shape) :
    ∃ found, components.follow Components.longestChain target = .ok found ∧ found.classify = .ok shape := by
  obtain ⟨found, resolved, classified⟩ := except_bind_ok _ _ _ shaped
  obtain ⟨bare, again, followed⟩ := except_bind_ok _ _ _ resolved
  obtain rfl := Except.ok.inj (stripped.symm.trans again)
  exact ⟨found, followed, classified⟩

theorem collection_found (components : Components) (target : Schema) (stripped : target.effective = .ok target)
    (collects : components.isCollectionRef target = .ok true) :
    ∃ found shape, components.follow Components.longestChain target = .ok found ∧ found.classify = .ok shape ∧
      shape.isCollection = true := by
  unfold Components.isCollectionRef at collects
  cases shaped : components.targetShape target with
  | error defect => simp [shaped, Except.map] at collects
  | ok shape =>
      simp only [shaped, Except.map, Except.ok.injEq] at collects
      obtain ⟨found, followed, classified⟩ := target_shape_found components target target shape stripped shaped
      exact ⟨found, shape, followed, classified, collects⟩

inductive Components.Reaches (components : Components) : Schema → Schema → Prop where
  | inline {s target : Schema} (stripped : s.effective = .ok target) (here : target.ref = none) :
      components.Reaches s target
  | reference {s target final : Schema} {path : String} {entry : String × Schema} (stripped : s.effective = .ok target)
      (refers : target.ref = some path) (behind : components.schema? path = some entry)
      (onward : components.Reaches entry.2 final) : components.Reaches s final

def Components.Targets (components : Components) (s : Schema) (shape : Shape) : Prop :=
  ∃ target, components.Reaches s target ∧ target.classify = .ok shape

def Schema.Inline (s : Schema) : Prop := ∃ target, s.effective = .ok target ∧ target.ref = none

variable (components : Components)

theorem reaches_unique (s a b : Schema) (first : components.Reaches s a) (last : components.Reaches s b) : a = b := by
  induction first with
  | inline stripped here =>
      cases last with
      | inline again => exact Except.ok.inj (stripped.symm.trans again)
      | reference again refers =>
          obtain rfl := Except.ok.inj (stripped.symm.trans again)
          cases here.symm.trans refers
  | reference stripped refers behind _ ih =>
      cases last with
      | inline again here =>
          obtain rfl := Except.ok.inj (stripped.symm.trans again)
          cases here.symm.trans refers
      | reference again other known onward =>
          obtain rfl := Except.ok.inj (stripped.symm.trans again)
          obtain rfl := Option.some.inj (refers.symm.trans other)
          obtain rfl := Option.some.inj (behind.symm.trans known)
          exact ih onward

theorem follow_reaches (left : Nat) (s target found : Schema) (stripped : s.effective = .ok target)
    (followed : components.follow left target = .ok found) : components.Reaches s found := by
  induction left generalizing s target with
  | zero => cases followed
  | succ left ih =>
      cases refers : target.ref with
      | none =>
          obtain rfl := follow_inline components _ target found refers followed
          exact .inline stripped refers
      | some path =>
          obtain ⟨less, entry, next, same, behind, bare, onward⟩ :=
            follow_step components _ target found path refers followed
          obtain rfl := Nat.succ.inj same
          exact .reference stripped refers behind (ih entry.2 next bare onward)

theorem target_shape_targets (s : Schema) (shape : Shape) (shaped : components.targetShape s = .ok shape) :
    components.Targets s shape := by
  obtain ⟨found, resolved, classified⟩ := except_bind_ok _ _ _ shaped
  obtain ⟨target, stripped, followed⟩ := except_bind_ok _ _ _ resolved
  exact ⟨found, follow_reaches components _ s target found stripped followed, classified⟩

theorem targets_unique (s : Schema) (a b : Shape) (first : components.Targets s a) (last : components.Targets s b) :
    a = b := by
  obtain ⟨target, reached, classified⟩ := first
  obtain ⟨other, again, known⟩ := last
  obtain rfl := reaches_unique components s target other reached again
  exact Except.ok.inj (classified.symm.trans known)

theorem inline_targets (s target : Schema) (shape : Shape) (stripped : s.effective = .ok target)
    (here : target.ref = none) : components.Targets s shape ↔ target.classify = .ok shape := by
  have reached : components.Reaches s target := .inline stripped here
  refine ⟨fun ⟨other, again, classified⟩ => ?_, fun classified => ⟨target, reached, classified⟩⟩
  rwa [reaches_unique components s target other reached again]

end ApiBindings
