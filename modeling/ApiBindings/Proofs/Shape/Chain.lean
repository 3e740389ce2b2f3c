import ApiBindings.Proofs.Except
import ApiBindings.Proofs.Shape.Reference
import Mathlib.Logic.Relation
set_option autoImplicit false

namespace ApiBindings

namespace Components

variable (components : Components)

def Links (s t : Schema) : Prop :=
  ∃ target path name, s.effective = .ok target ∧ target.ref = some path ∧ components.schema? path = some (name, t)

inductive Chain : Nat → Schema → Schema → Prop where
  | concrete {s target : Schema} (stripped : s.effective = .ok target) (inline : target.ref = none) : Chain 0 s target
  | link {n : Nat} {s t final : Schema} (links : components.Links s t) (onward : Chain n t final) :
      Chain (n + 1) s final

def Circular (s : Schema) : Prop :=
  ∃ t, Relation.ReflTransGen components.Links s t ∧ Relation.TransGen components.Links t t

def Whole (s : Schema) : Prop :=
  ∀ t, Relation.ReflTransGen components.Links s t →
    ∃ target, t.effective = .ok target ∧ ∀ path, target.ref = some path → ∃ entry, components.schema? path = some entry

theorem links_unique (s a b : Schema) (first : components.Links s a) (last : components.Links s b) : a = b := by
  obtain ⟨target, path, name, stripped, refers, found⟩ := first
  obtain ⟨_, _, _, again, other, known⟩ := last
  obtain rfl := Except.ok.inj (stripped.symm.trans again)
  obtain rfl := Option.some.inj (refers.symm.trans other)
  exact (Prod.mk.inj (Option.some.inj (found.symm.trans known))).2

theorem links_listed (s t : Schema) (links : components.Links s t) : t ∈ components.schemas.map Prod.snd := by
  obtain ⟨_, _, name, _, _, found⟩ := links
  obtain ⟨_, _, search⟩ := Option.bind_eq_some_iff.mp found
  exact List.mem_map.mpr ⟨(name, t), List.mem_of_find?_eq_some search, rfl⟩

theorem concrete_links_none (s target t : Schema) (stripped : s.effective = .ok target) (inline : target.ref = none) :
    ¬ components.Links s t := by
  rintro ⟨_, path, _, again, refers, _⟩
  obtain rfl := Except.ok.inj (stripped.symm.trans again)
  cases inline.symm.trans refers

theorem chain_unique (n m : Nat) (s a b : Schema) (first : components.Chain n s a) (last : components.Chain m s b) :
    n = m ∧ a = b := by
  induction first generalizing m with
  | concrete stripped inline =>
      cases last with
      | concrete again => exact ⟨rfl, Except.ok.inj (stripped.symm.trans again)⟩
      | link links => exact absurd links (concrete_links_none components _ _ _ stripped inline)
  | link links _ ih =>
      cases last with
      | concrete stripped inline => exact absurd links (concrete_links_none components _ _ _ stripped inline)
      | link other onward =>
          obtain rfl := links_unique components _ _ _ links other
          obtain ⟨rfl, same⟩ := ih _ onward
          exact ⟨rfl, same⟩

theorem chain_next (n : Nat) (s t final : Schema) (chain : components.Chain n s final) (links : components.Links s t) :
    ∃ m, n = m + 1 ∧ components.Chain m t final := by
  cases chain with
  | concrete stripped inline => exact absurd links (concrete_links_none components _ _ _ stripped inline)
  | link other onward =>
      obtain rfl := links_unique components _ _ _ links other
      exact ⟨_, rfl, onward⟩

theorem chain_behind (n : Nat) (s t final : Schema) (chain : components.Chain n s final)
    (reached : Relation.ReflTransGen components.Links s t) : ∃ m, m ≤ n ∧ components.Chain m t final := by
  induction reached with
  | refl => exact ⟨n, Nat.le_refl n, chain⟩
  | tail _ links ih =>
      obtain ⟨m, below, onward⟩ := ih
      obtain ⟨less, rfl, last⟩ := chain_next components m _ _ final onward links
      exact ⟨less, by omega, last⟩

theorem circular_endless (n : Nat) (s final : Schema) (circular : components.Circular s) :
    ¬ components.Chain n s final := by
  intro chain
  obtain ⟨t, reached, round⟩ := circular
  obtain ⟨m, _, own⟩ := chain_behind components n s t final chain reached
  -- The first link of the circle makes the chain shorter, and the rest of it leads back to where the chain is as long.
  obtain ⟨u, links, back⟩ := (Relation.TransGen.head'_iff).mp round
  obtain ⟨less, rfl, onward⟩ := chain_next components m t u final own links
  obtain ⟨last, below, again⟩ := chain_behind components less u t final onward back
  obtain ⟨same, _⟩ := chain_unique components _ _ t final final own again
  omega

theorem chain_whole (n : Nat) (s final : Schema) (chain : components.Chain n s final) : components.Whole s := by
  intro t reached
  obtain ⟨m, _, onward⟩ := chain_behind components n s t final chain reached
  cases onward with
  | concrete stripped inline => exact ⟨_, stripped, fun path refers => by cases inline.symm.trans refers⟩
  | link links _ =>
      obtain ⟨target, path, name, stripped, refers, found⟩ := links
      refine ⟨target, stripped, fun other again => ?_⟩
      obtain rfl := Option.some.inj (refers.symm.trans again)
      exact ⟨_, found⟩

theorem whole_cases (s : Schema) (whole : components.Whole s) :
    (∃ target, s.effective = .ok target ∧ target.ref = none) ∨
      ∃ t, components.Links s t ∧ components.Whole t := by
  obtain ⟨target, stripped, resolves⟩ := whole s .refl
  cases refers : target.ref with
  | none => exact Or.inl ⟨target, stripped, refers⟩
  | some path =>
      obtain ⟨⟨name, t⟩, found⟩ := resolves path refers
      have links : components.Links s t := ⟨target, path, name, stripped, refers, found⟩
      exact Or.inr ⟨t, links, fun u reached => whole u (.head links reached)⟩

-- The components that the chain may still get to are in `unseen`. A link to one takes it away, unless the chain comes back
-- to it.
theorem whole_ends (unseen : List Schema) (s : Schema) (whole : components.Whole s)
    (left : ∀ t, Relation.TransGen components.Links s t → t ∈ unseen) :
    components.Circular s ∨ ∃ n final, components.Chain n s final := by
  rcases whole_cases components s whole with ⟨target, stripped, inline⟩ | ⟨t, links, further⟩
  · exact Or.inr ⟨0, target, .concrete stripped inline⟩
  · by_cases round : Relation.TransGen components.Links t t
    · exact Or.inl ⟨t, .single links, round⟩
    · have member := left t (.single links)
      have shorter := List.length_erase_of_mem member
      have positive := List.length_pos_of_mem member
      have others : ∀ u, Relation.TransGen components.Links t u → u ∈ unseen.erase t := by
        intro u reached
        refine (List.mem_erase_of_ne ?_).mpr (left u (.head links reached))
        rintro rfl
        exact round reached
      rcases whole_ends (unseen.erase t) t further others with ⟨u, reached, circle⟩ | ⟨n, final, onward⟩
      · exact Or.inl ⟨u, .head links reached, circle⟩
      · exact Or.inr ⟨n + 1, final, .link links onward⟩
termination_by unseen.length

theorem circular_or_ends (s : Schema) (whole : components.Whole s) :
    components.Circular s ∨ ∃ n final, components.Chain n s final := by
  refine whole_ends components (components.schemas.map Prod.snd) s whole fun t reached => ?_
  cases reached with
  | single links | tail _ links => exact links_listed components _ t links

theorem follow_chain (left : Nat) (s target final : Schema) (stripped : s.effective = .ok target)
    (followed : components.follow left target = .ok final) : ∃ n, n < left ∧ components.Chain n s final := by
  induction left generalizing s target with
  | zero => cases followed
  | succ left ih =>
      cases refers : target.ref with
      | none =>
          obtain rfl := follow_inline components _ target final refers followed
          exact ⟨0, Nat.succ_pos left, .concrete stripped refers⟩
      | some path =>
          obtain ⟨less, entry, next, same, found, bare, onward⟩ :=
            follow_step components _ target final path refers followed
          obtain rfl := Nat.succ.inj same
          obtain ⟨n, below, chain⟩ := ih entry.2 next bare onward
          exact ⟨n + 1, Nat.succ_lt_succ below, .link ⟨target, path, entry.1, stripped, refers, found⟩ chain⟩

theorem follow_link (left : Nat) (s target t next : Schema) (stripped : s.effective = .ok target)
    (links : components.Links s t) (bare : t.effective = .ok next) :
    components.follow (left + 1) target = components.follow left next := by
  obtain ⟨_, path, name, again, refers, found⟩ := links
  obtain rfl := Except.ok.inj (stripped.symm.trans again)
  simp only [follow, refers, found, bare]

theorem chain_followed (n left : Nat) (s target final : Schema) (chain : components.Chain n s final)
    (stripped : s.effective = .ok target) (below : n < left) : components.follow left target = .ok final := by
  induction chain generalizing left target with
  | concrete again inline =>
      obtain rfl := Except.ok.inj (stripped.symm.trans again)
      obtain ⟨left, rfl⟩ := Nat.exists_eq_add_of_lt below
      simp only [follow, inline]
  | @link n s t final links onward ih =>
      obtain ⟨left, rfl⟩ := Nat.exists_eq_add_of_lt below
      obtain ⟨next, bare, _⟩ := chain_whole components n t final onward t .refl
      rw [follow_link components _ s target t next stripped links bare]
      exact ih _ next bare (by omega)

theorem follow_gives_up (left : Nat) (s target : Schema) (whole : components.Whole s) (stripped : s.effective = .ok target)
    (endless : ∀ n final, n < left → ¬ components.Chain n s final) :
    components.follow left target = .error (.malformed (.longReferenceChain longestChain)) := by
  induction left generalizing s target with
  | zero => rfl
  | succ left ih =>
      rcases whole_cases components s whole with ⟨bare, again, inline⟩ | ⟨t, links, further⟩
      · exact absurd (.concrete again inline) (endless 0 bare (Nat.succ_pos left))
      · obtain ⟨next, bare, _⟩ := further t .refl
        rw [follow_link components left s target t next stripped links bare]
        exact ih t next further bare fun n final below onward =>
          endless (n + 1) final (Nat.succ_lt_succ below) (.link links onward)

end Components

-- A chain with as many links as are allowed is refused already.
theorem resolve_iff_chain (components : Components) (s : Schema) (whole : components.Whole s) :
    (∀ final, components.resolve s = .ok final ↔ ∃ n, n < Components.longestChain ∧ components.Chain n s final) ∧
      (components.resolve s = .error (.malformed (.longReferenceChain Components.longestChain)) ↔
        components.Circular s ∨ ∃ n final, Components.longestChain ≤ n ∧ components.Chain n s final) ∧
      ((∃ final, components.resolve s = .ok final) ∨
        components.resolve s = .error (.malformed (.longReferenceChain Components.longestChain))) := by
  obtain ⟨target, stripped, _⟩ := whole s .refl
  have resolved : components.resolve s = components.follow Components.longestChain target := by
    rw [Components.resolve, stripped]
    rfl
  rw [resolved]
  have short (n : Nat) (final : Schema) (below : n < Components.longestChain) (chain : components.Chain n s final) :
      components.follow Components.longestChain target = .ok final :=
    Components.chain_followed components n _ s target final chain stripped below
  refine ⟨fun final => ⟨Components.follow_chain components _ s target final stripped,
    fun ⟨n, below, chain⟩ => short n final below chain⟩, ⟨fun failed => ?_, fun endless => ?_⟩, ?_⟩
  · refine (Components.circular_or_ends components s whole).imp_right fun ⟨n, final, chain⟩ => ⟨n, final, ?_, chain⟩
    refine Nat.le_of_not_lt fun below => ?_
    cases failed.symm.trans (short n final below chain)
  · refine Components.follow_gives_up components _ s target whole stripped fun n final below chain => ?_
    rcases endless with circular | ⟨m, last, long, other⟩
    · exact Components.circular_endless components n s final circular chain
    · have same := (Components.chain_unique components n m s final last chain other).1
      omega
  · by_cases ends : ∃ n final, n < Components.longestChain ∧ components.Chain n s final
    · obtain ⟨n, final, below, chain⟩ := ends
      exact Or.inl ⟨final, short n final below chain⟩
    · exact Or.inr (Components.follow_gives_up components _ s target whole stripped
        fun n final below chain => ends ⟨n, final, below, chain⟩)

def rungReference (name : String) : Schema := { ref := some ("#/components/schemas/" ++ name) }

def lowestRung : Schema := { type := some (.single "string") }

def ladder : Components :=
  { schemas := ("ring", rungReference "ring") :: ("rung0", lowestRung) :: (List.range 15).map fun below =>
      ("rung" ++ toString (below + 1), { allOf := some [rungReference ("rung" ++ toString below)] }) }

theorem rung_effective (name : String) : (rungReference name).effective = .ok (rungReference name) :=
  Schema.bare_effective (rungReference name) ⟨rfl, rfl, rfl⟩

theorem ring_links (t : Schema) (links : ladder.Links (rungReference "ring") t) : t = rungReference "ring" := by
  have round : ladder.Links (rungReference "ring") (rungReference "ring") :=
    ⟨_, _, "ring", rung_effective "ring", rfl, rfl⟩
  exact Components.links_unique ladder _ t _ links round

theorem short_ladder_resolved :
    ladder.Whole (rungReference "rung14") ∧ ladder.resolve (rungReference "rung14") = .ok lowestRung ∧
      ladder.Whole (rungReference "ring") ∧ ladder.Circular (rungReference "ring") ∧
      ladder.resolve (rungReference "ring") = .error (.malformed (.longReferenceChain 16)) := by
  obtain ⟨final, followed, same⟩ := ok_holds (ladder.follow 16 (rungReference "rung14")) (· = lowestRung) (by decide +kernel)
  obtain rfl := of_decide_eq_true same
  obtain ⟨n, below, chain⟩ :=
    Components.follow_chain ladder 16 _ _ _ (rung_effective "rung14") followed
  have whole := Components.chain_whole ladder n _ _ chain
  have alone : ∀ t, Relation.ReflTransGen ladder.Links (rungReference "ring") t → t = rungReference "ring" := by
    intro t reached
    induction reached with
    | refl => rfl
    | tail _ links ih =>
        rw [ih] at links
        exact ring_links _ links
  have circle : ladder.Whole (rungReference "ring") := by
    intro t reached
    rw [alone t reached]
    refine ⟨_, rung_effective "ring", fun path refers => ⟨("ring", rungReference "ring"), ?_⟩⟩
    rw [← Option.some.inj refers]
    rfl
  have circular : ladder.Circular (rungReference "ring") :=
    ⟨_, .refl, .single ⟨_, _, "ring", rung_effective "ring", rfl, rfl⟩⟩
  exact ⟨whole, ((resolve_iff_chain ladder _ whole).1 _).mpr ⟨n, below, chain⟩, circle, circular,
    (resolve_iff_chain ladder _ circle).2.1.mpr (Or.inl circular)⟩

theorem sixteen_links_refused :
    ladder.Whole (rungReference "rung15") ∧ ladder.Chain 16 (rungReference "rung15") lowestRung ∧
      ladder.resolve (rungReference "rung15") = .error (.malformed (.longReferenceChain 16)) ∧
      (Malformation.longReferenceChain 16).message = "reference chain longer than 16 links" := by
  obtain ⟨final, followed, same⟩ := ok_holds (ladder.follow 17 (rungReference "rung15")) (· = lowestRung) (by decide +kernel)
  obtain rfl := of_decide_eq_true same
  obtain ⟨defect, refused, long⟩ := error_holds (ladder.resolve (rungReference "rung15"))
    (· = .malformed (.longReferenceChain 16)) (by decide +kernel)
  obtain rfl := of_decide_eq_true long
  obtain ⟨n, below, chain⟩ :=
    Components.follow_chain ladder 17 _ _ _ (rung_effective "rung15") followed
  have whole := Components.chain_whole ladder n _ _ chain
  have length : n = 16 := by
    refine Nat.le_antisymm (Nat.le_of_lt_succ below) (Nat.le_of_not_lt fun short => ?_)
    have found := Components.chain_followed ladder n 16 _ _ _ chain (rung_effective "rung15") short
    rw [Components.resolve, rung_effective] at refused
    cases refused.symm.trans found
  exact ⟨whole, length ▸ chain, refused, by decide⟩

end ApiBindings
