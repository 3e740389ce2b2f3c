import ApiBindings.Proofs.Shape.Reference
import ApiBindings.Rendering.Cycle
set_option autoImplicit false

namespace ApiBindings.Cycle

inductive Look where
  | schema (s : Schema)
  | target (s : Schema)
  | held (properties : List (String × Schema))

variable (components : Components) (active : Schema → Bool)

inductive Runs : Look → List Visit → Nat → Bool → List Visit → Prop where
  | unsupported {seen : List Visit} {s : Schema} {defect : Defect} (failed : s.effective = .error defect) :
      Runs (.schema s) seen 1 false seen
  | met {seen : List Visit} {s target : Schema} (stripped : s.effective = .ok target)
      (met : (active s || active target) = true) : Runs (.schema s) seen 1 true seen
  | bare {seen later : List Visit} {s target : Schema} {n : Nat} {found : Bool} (stripped : s.effective = .ok target)
      (unmet : ¬ (active s || active target) = true) (onward : Runs (.target target) seen n found later) :
      Runs (.schema s) seen (n + 1) found later
  | again {seen : List Visit} {target : Schema} {path : String} (refers : target.ref = some path)
      (known : .reference path ∈ seen) : Runs (.target target) seen 0 false seen
  | unresolved {seen : List Visit} {target : Schema} {path : String} (refers : target.ref = some path)
      (fresh : .reference path ∉ seen) (absent : components.schema? path = none) :
      Runs (.target target) seen 0 false (.reference path :: seen)
  | reference {seen later : List Visit} {target component : Schema} {path name : String} {n : Nat} {found : Bool}
      (refers : target.ref = some path) (fresh : .reference path ∉ seen)
      (located : components.schema? path = some (name, component))
      (onward : Runs (.schema component) (.reference path :: seen) n found later) :
      Runs (.target target) seen n found later
  | leaf {seen : List Visit} {target : Schema} (inline : target.ref = none)
      (closed : ∀ property others, target.classify ≠ .ok (.object (property :: others))) :
      Runs (.target target) seen 0 false seen
  | expanded {seen : List Visit} {target : Schema} {property : String × Schema} {others : List (String × Schema)}
      (inline : target.ref = none) (classified : target.classify = .ok (.object (property :: others)))
      (known : .content target ∈ seen) : Runs (.target target) seen 0 false seen
  | object {seen later : List Visit} {target : Schema} {property : String × Schema} {others : List (String × Schema)}
      {n : Nat} {found : Bool} (inline : target.ref = none)
      (classified : target.classify = .ok (.object (property :: others))) (fresh : .content target ∉ seen)
      (inside : Runs (.held (property :: others)) (.content target :: seen) n found later) :
      Runs (.target target) seen n found later
  | exhausted {seen : List Visit} : Runs (.held []) seen 0 false seen
  | found {seen later : List Visit} {name : String} {s : Schema} {rest : List (String × Schema)} {n : Nat}
      (first : Runs (.schema s) seen n true later) : Runs (.held ((name, s) :: rest)) seen n true later
  | next {seen between later : List Visit} {name : String} {s : Schema} {rest : List (String × Schema)} {n m : Nat}
      {found : Bool} (first : Runs (.schema s) seen n false between) (others : Runs (.held rest) between m found later) :
      Runs (.held ((name, s) :: rest)) seen (n + m) found later

def Searches (look : Look) {seen : List Visit} (outcome : Outcome seen) : Prop :=
  ∃ n, Runs components active look seen n outcome.found outcome.visited

theorem reaches_active_eq (seen : List Visit) (s : Schema) :
    reachesActive components active seen s =
      match s.effective with
      | .error _ => .answer seen false
      | .ok target =>
        if active s || active target then .answer seen true else followsActive components active seen target := by
  rw [reachesActive]
  grind

theorem follows_active_eq (seen : List Visit) (target : Schema) :
    followsActive components active seen target =
      match target.ref with
      | some path =>
        if .reference path ∈ seen then .answer seen false
        else
          match components.schema? path with
          | none => (Outcome.answer (.reference path :: seen) false).since (List.subset_cons_self _ _)
          | some (_, component) =>
            match component.effective with
            | .error _ => (Outcome.answer (.reference path :: seen) false).since (List.subset_cons_self _ _)
            | .ok next =>
              if active component || active next then
                (Outcome.answer (.reference path :: seen) true).since (List.subset_cons_self _ _)
              else (followsActive components active (.reference path :: seen) next).since (List.subset_cons_self _ _)
      | none =>
        match target.classify with
        | .ok (.object (property :: others)) =>
          if .content target ∈ seen then .answer seen false
          else
            (holdsActive components active (.content target :: seen) (property :: others)).since
              (List.subset_cons_self _ _)
        | _ => .answer seen false := by
  rw [followsActive]
  split
  next path refers =>
    split
    next known => grind
    next fresh =>
      split
      next absent => grind
      next name component located => split <;> grind
  next inline => split <;> grind

section

variable {components active} {seen : List Visit} {s target : Schema}

theorem schema_searched (onward : ∀ target, s.effective = .ok target → ¬ (active s || active target) = true →
      Searches components active (.target target) (followsActive components active seen target)) :
    Searches components active (.schema s) (reachesActive components active seen s) := by
  rw [reaches_active_eq]
  cases stripped : s.effective with
  | error defect => exact ⟨1, .unsupported stripped⟩
  | ok target =>
      by_cases met : (active s || active target) = true
      · simp only [met, if_true]
        exact ⟨1, .met stripped met⟩
      · obtain ⟨n, runs⟩ := onward target stripped met
        simp only [met]
        exact ⟨n + 1, .bare stripped met runs⟩

-- A round of the loop does with a component what the search would do that begins there.
theorem reference_searched (path name : String) (component : Schema) (refers : target.ref = some path)
    (fresh : .reference path ∉ seen) (located : components.schema? path = some (name, component))
    (onward : ∀ next, component.effective = .ok next → ¬ (active component || active next) = true →
      Searches components active (.target next) (followsActive components active (.reference path :: seen) next)) :
    Searches components active (.target target) (followsActive components active seen target) := by
  have round : followsActive components active seen target =
      (reachesActive components active (.reference path :: seen) component).since (List.subset_cons_self _ _) := by
    rw [follows_active_eq, refers, reaches_active_eq]
    simp only [fresh, if_false, located]
    cases component.effective with
    | error defect => rfl
    | ok next =>
        by_cases met : (active component || active next) = true
        · simp only [met, if_true]
        · simp only [met, Bool.false_eq_true, if_false]
  obtain ⟨n, runs⟩ := schema_searched onward
  rw [round]
  exact ⟨n, .reference refers fresh located runs⟩

theorem inline_searched (inline : target.ref = none)
    (inside : ∀ property others, target.classify = .ok (.object (property :: others)) → .content target ∉ seen →
      Searches components active (.held (property :: others))
        (holdsActive components active (.content target :: seen) (property :: others))) :
    Searches components active (.target target) (followsActive components active seen target) := by
  rw [follows_active_eq, inline]
  by_cases object : ∃ property others, target.classify = .ok (.object (property :: others))
  · obtain ⟨property, others, classified⟩ := object
    by_cases known : .content target ∈ seen
    · simp only [classified, known, if_true]
      exact ⟨0, .expanded inline classified known⟩
    · obtain ⟨n, runs⟩ := inside property others classified known
      simp only [classified, known, if_false]
      exact ⟨n, .object inline classified known runs⟩
  · have closed : ∀ property others, target.classify ≠ .ok (.object (property :: others)) :=
      fun property others classified => object ⟨property, others, classified⟩
    have leaf : Searches components active (.target target) (.answer seen false) := ⟨0, .leaf inline closed⟩
    dsimp only
    split
    next property others classified => exact absurd classified (closed property others)
    next => exact leaf

end

theorem reaches_active_searched (seen : List Visit) (s : Schema) :
    Searches components active (.schema s) (reachesActive components active seen s) := by
  refine reachesActive.induct components active
    (fun seen s => Searches components active (.schema s) (reachesActive components active seen s))
    (fun seen target => Searches components active (.target target) (followsActive components active seen target))
    (fun seen properties => Searches components active (.held properties) (holdsActive components active seen properties))
    ?unsupported ?met ?bare ?again ?unresolved ?brokenComponent ?metComponent ?nextComponent ?expanded ?object ?leaf
    ?exhausted ?found ?next seen s
  case unsupported =>
    intro seen s defect failed
    exact schema_searched fun target stripped => by rw [failed] at stripped; cases stripped
  case met =>
    intro seen s target stripped met
    refine schema_searched fun other again unmet => absurd met ?_
    rwa [Except.ok.inj (stripped.symm.trans again)]
  case bare =>
    intro seen s target stripped _ ih
    exact schema_searched fun other again _ => Except.ok.inj (stripped.symm.trans again) ▸ ih
  case again =>
    intro seen target path refers known
    rw [follows_active_eq, refers]
    simp only [known, if_true]
    exact ⟨0, .again refers known⟩
  case unresolved =>
    intro seen target path refers fresh absent
    rw [follows_active_eq, refers]
    simp only [fresh, if_false, absent]
    exact ⟨0, .unresolved refers fresh absent⟩
  case brokenComponent =>
    intro seen target path refers fresh name component located defect failed
    exact reference_searched path name component refers fresh located fun next stripped => by
      rw [failed] at stripped; cases stripped
  case metComponent =>
    intro seen target path refers fresh name component located next stripped met
    refine reference_searched path name component refers fresh located fun other again unmet => absurd met ?_
    rwa [Except.ok.inj (stripped.symm.trans again)]
  case nextComponent =>
    intro seen target path refers fresh name component located next stripped _ ih
    exact reference_searched path name component refers fresh located fun other again _ =>
      Except.ok.inj (stripped.symm.trans again) ▸ ih
  case expanded =>
    intro seen target inline property others classified known
    exact inline_searched inline fun _ _ _ fresh => absurd known fresh
  case object =>
    intro seen target inline property others classified _ ih
    refine inline_searched inline fun first rest again _ => ?_
    rwa [← Shape.object.inj (Except.ok.inj (classified.symm.trans again))]
  case leaf =>
    intro seen target inline closed
    exact inline_searched inline fun property others classified => (closed property others classified).elim
  case exhausted =>
    intro seen
    rw [holdsActive]
    exact ⟨0, .exhausted⟩
  case found =>
    intro seen name s rest visited kept answer ⟨n, first⟩
    rw [answer] at first
    rw [holdsActive, answer]
    exact ⟨n, .found first⟩
  case next =>
    intro seen name s rest visited kept answer ⟨n, first⟩ ⟨m, others⟩
    rw [answer] at first
    rw [holdsActive, answer]
    exact ⟨n + m, .next first others⟩

variable {components active}

theorem runs_kept {look : Look} {seen later : List Visit} {n : Nat} {found : Bool}
    (runs : Runs components active look seen n found later) : seen ⊆ later := by
  induction runs with
  | unsupported | met | again | leaf | expanded | exhausted => exact List.Subset.refl _
  | unresolved => exact List.subset_cons_self _ _
  | bare _ _ _ ih | found _ ih => exact ih
  | reference _ _ _ _ ih | object _ _ _ _ ih => exact List.Subset.trans (List.subset_cons_self _ _) ih
  | next _ _ first others => exact List.Subset.trans first others

theorem unmet_size_le (seen : List Visit) (schemas : List (String × Schema)) :
    unmetSize seen schemas ≤ sizeOf schemas := by
  induction schemas with
  | nil =>
      rw [unmetSize]
      omega
  | cons entry rest ih =>
      obtain ⟨name, s⟩ := entry
      rw [unmetSize]
      simp only [List.cons.sizeOf_spec, Prod.mk.sizeOf_spec]
      split <;> omega

-- What a look may cost at most, apart from the components that it enters.
noncomputable def Look.cost : Look → Nat
  | .schema s => sizeOf s
  | .target s => sizeOf s - 1
  | .held properties => sizeOf properties

theorem runs_bounded {look : Look} {seen later : List Visit} {n : Nat} {found : Bool}
    (runs : Runs components active look seen n found later) :
    n + unmetSize later components.schemas ≤ unmetSize seen components.schemas + look.cost := by
  induction runs with
  | @unsupported _ s | @met _ s =>
      have := s.size_pos
      simp only [Look.cost]
      omega
  | @bare _ _ s target _ _ stripped _ _ ih =>
      have := target.size_pos
      have := Schema.effective_size_le stripped
      simp only [Look.cost] at ih ⊢
      omega
  | again | leaf | expanded => omega
  | @unresolved seen _ path =>
      have := unmet_size_subset seen (.reference path :: seen) (List.subset_cons_self _ _) components.schemas
      omega
  | @reference seen _ _ _ path name _ _ _ fresh located _ ih =>
      obtain ⟨leads, listed⟩ := schema_located components path name _ located
      have := unmet_size_listed seen path name _ components.schemas fresh leads listed
      simp only [Look.cost] at ih ⊢
      omega
  | @object seen _ target property others _ _ _ classified _ _ ih =>
      have held : sizeOf (property :: others) < sizeOf target := Schema.holds_classify classified
      have := unmet_size_subset seen (.content target :: seen) (List.subset_cons_self _ _) components.schemas
      simp only [Look.cost] at ih ⊢
      omega
  | exhausted =>
      omega
  | found _ ih =>
      simp only [Look.cost, List.cons.sizeOf_spec, Prod.mk.sizeOf_spec] at ih ⊢
      omega
  | next _ _ first others =>
      simp only [Look.cost, List.cons.sizeOf_spec, Prod.mk.sizeOf_spec] at first others ⊢
      omega

end ApiBindings.Cycle
