import ApiBindings.Proofs.Naming.Unique
import ApiBindings.Unit.Basic
import Mathlib.Data.List.Nodup
set_option autoImplicit false

namespace ApiBindings

namespace DeclarationShape

-- Equal, or enumerations both, whose constants may differ in the sign of a
-- zero.
def Alike (a b : DeclarationShape) : Prop :=
  a = b ∨ ∃ types values others more, a = .enumeration types values ∧ b = .enumeration others more

theorem same_alike (a b : DeclarationShape) (same : (a == b) = true) : a.Alike b := by
  cases a <;> cases b
  case enumeration.enumeration types values others more => exact Or.inr ⟨types, values, others, more, rfl, rfl⟩
  case alias.alias target other => exact Or.inl (congrArg _ (eq_of_beq (a := target) (b := other) same))
  case record.record fields others => exact Or.inl (congrArg _ (eq_of_beq (a := fields) (b := others) same))
  case slice.slice item other => exact Or.inl (congrArg _ (eq_of_beq (a := item) (b := other) same))
  case map.map value other => exact Or.inl (congrArg _ (eq_of_beq (a := value) (b := other) same))
  case function.function types others => exact Or.inl (congrArg _ (eq_of_beq (a := types) (b := others) same))
  all_goals exact absurd same Bool.false_ne_true

theorem alike_iff (a b c : DeclarationShape) (alike : a.Alike b)
    (plain : ∀ types values, c ≠ .enumeration types values) : a = c ↔ b = c := by
  rcases alike with rfl | ⟨types, values, others, more, rfl, rfl⟩
  · exact Iff.rfl
  · exact ⟨fun same => (plain types values same.symm).elim, fun same => (plain others more same.symm).elim⟩

theorem alike_is_record (a b : DeclarationShape) (alike : a.Alike b) : a.isRecord = b.isRecord := by
  rcases alike with rfl | ⟨_, _, _, _, rfl, rfl⟩ <;> rfl

end DeclarationShape

theorem declaration_same (a b : Declaration) :
    (a == b) = (a.name == b.name && (a.doc == b.doc && a.shape == b.shape)) := rfl

namespace SourceUnit

def Declares (unit : SourceUnit) (name : String) : Prop := ∃ d ∈ unit.declarations, d.name = name

def Distinct (unit : SourceUnit) : Prop := (unit.declarations.map Declaration.name).Nodup

-- What every step keeps, whatever it declares. The names in `given` are those
-- the step was told to declare; any other new name was free before the step and
-- is taken after it, which is all that later proofs need to know of claims.
structure Grows (given : List String) (before after : SourceUnit) : Prop where
  package : after.package = before.package
  taken : ∀ name ∈ before.names.taken, name ∈ after.names.taken
  declarations : before.declarations <+: after.declarations
  functions : before.functions <+: after.functions
  fresh : ∀ d ∈ after.declarations, d ∈ before.declarations ∨ d.name ∈ given ∨
    (d.name ∉ before.names.taken ∧ d.name ∈ after.names.taken)
  distinct : before.Distinct → after.Distinct

theorem Grows.refl (given : List String) (unit : SourceUnit) : unit.Grows given unit :=
  ⟨rfl, fun _ member => member, List.prefix_refl _, List.prefix_refl _, fun _ member => Or.inl member, id⟩

theorem Grows.trans {given : List String} {a b c : SourceUnit} (first : a.Grows given b) (last : b.Grows given c) :
    a.Grows given c := by
  refine ⟨last.package.trans first.package, fun name member => last.taken name (first.taken name member),
    first.declarations.trans last.declarations, first.functions.trans last.functions, ?_,
    fun distinct => last.distinct (first.distinct distinct)⟩
  intro d member
  rcases last.fresh d member with old | named | ⟨free, taken⟩
  · rcases first.fresh d old with older | named | ⟨free, taken⟩
    · exact Or.inl older
    · exact Or.inr (Or.inl named)
    · exact Or.inr (Or.inr ⟨free, last.taken d.name taken⟩)
  · exact Or.inr (Or.inl named)
  · exact Or.inr (Or.inr ⟨fun member => free (first.taken d.name member), taken⟩)

theorem Grows.weaken {given more : List String} {a b : SourceUnit} (grows : a.Grows given b)
    (subset : ∀ name ∈ given, name ∈ more) : a.Grows more b := by
  refine ⟨grows.package, grows.taken, grows.declarations, grows.functions, fun d member => ?_, grows.distinct⟩
  rcases grows.fresh d member with old | named | free
  · exact Or.inl old
  · exact Or.inr (Or.inl (subset d.name named))
  · exact Or.inr (Or.inr free)

theorem Grows.free {a b : SourceUnit} (grows : a.Grows [] b) (given : List String) : a.Grows given b :=
  grows.weaken (List.forall_mem_nil _)

theorem Grows.keep {given : List String} {a b : SourceUnit} (grows : a.Grows given b) (d : Declaration)
    (member : d ∈ a.declarations) : d ∈ b.declarations := grows.declarations.subset member

theorem Grows.declares {given : List String} {a b : SourceUnit} (grows : a.Grows given b) (name : String)
    (declared : a.Declares name) : b.Declares name := by
  obtain ⟨d, member, named⟩ := declared
  exact ⟨d, grows.keep d member, named⟩

theorem reserve_grows (unit : SourceUnit) (given : List String) (name : String) :
    unit.Grows given (unit.reserve name) :=
  ⟨rfl, fun other member => (Names.reserve_mem unit.names name other).mpr (Or.inr member), List.prefix_refl _,
    List.prefix_refl _, fun _ member => Or.inl member, id⟩

theorem push_grows (unit : SourceUnit) (given : List String) (function : Function) :
    unit.Grows given (unit.push function) :=
  ⟨rfl, fun _ member => member, List.prefix_refl _, ⟨[function], rfl⟩, fun _ member => Or.inl member, id⟩

theorem find_some (unit : SourceUnit) (name : String) (d : Declaration) (found : unit.find? name = some d) :
    d ∈ unit.declarations ∧ d.name = name :=
  ⟨List.mem_of_find?_eq_some found, by simpa using List.find?_some found⟩

theorem find_declares (unit : SourceUnit) (name : String) (present : (unit.find? name).isSome = true) :
    unit.Declares name := by
  obtain ⟨d, found⟩ := Option.isSome_iff_exists.mp present
  exact ⟨d, find_some unit name d found⟩

theorem find_none (unit : SourceUnit) (name : String) (absent : unit.find? name = none) : ¬ unit.Declares name := by
  rintro ⟨d, member, named⟩
  simpa [named] using List.find?_eq_none.mp absent d member

theorem declare_known_or_new (unit after : SourceUnit) (d : Declaration) (declared : unit.declare d = .ok after) :
    (∃ existing, unit.find? d.name = some existing ∧ (existing == d) = true ∧ after = unit) ∨
      (unit.find? d.name = none ∧ after = { unit with declarations := unit.declarations ++ [d] }) := by
  unfold declare at declared
  cases found : unit.find? d.name with
  | some existing =>
      by_cases same : (existing == d) = true
      · simp only [found, same, if_true] at declared
        cases declared
        exact Or.inl ⟨existing, rfl, same, rfl⟩
      · simp [found, same] at declared
  | none =>
      simp only [found] at declared
      cases declared
      exact Or.inr ⟨rfl, rfl⟩

theorem declare_error (unit : SourceUnit) (d : Declaration) (failure : Failure) (failed : unit.declare d = .error failure) :
    failure = .malformed d.name .conflictingDeclarations ∧
      ∃ existing, unit.find? d.name = some existing ∧ (existing == d) = false := by
  unfold declare at failed
  split at failed
  next existing found =>
    split at failed
    next => cases failed
    next different =>
      cases failed
      exact ⟨rfl, existing, found, Bool.eq_false_iff.mpr different⟩
  next => cases failed

theorem added_find (unit : SourceUnit) (d : Declaration) (absent : unit.find? d.name = none) :
    find? { unit with declarations := unit.declarations ++ [d] } d.name = some d := by
  unfold find? at absent ⊢
  rw [List.find?_append, absent]
  simp

theorem declare_cases (unit after : SourceUnit) (d : Declaration) (declared : unit.declare d = .ok after) :
    (∃ existing ∈ unit.declarations, existing.name = d.name ∧ (existing == d) = true ∧ after = unit) ∨
      (¬ unit.Declares d.name ∧ after = { unit with declarations := unit.declarations ++ [d] }) := by
  rcases declare_known_or_new unit after d declared with ⟨existing, found, same, rfl⟩ | ⟨absent, rfl⟩
  · obtain ⟨member, named⟩ := find_some _ d.name existing found
    exact Or.inl ⟨existing, member, named, same, rfl⟩
  · exact Or.inr ⟨find_none unit d.name absent, rfl⟩

theorem declare_grows (unit after : SourceUnit) (d : Declaration) (declared : unit.declare d = .ok after) :
    unit.Grows [d.name] after := by
  rcases declare_cases unit after d declared with ⟨_, _, _, _, same⟩ | ⟨undeclared, appended⟩
  · subst after
    exact Grows.refl _ unit
  · subst after
    refine ⟨rfl, fun _ member => member, ⟨[d], rfl⟩, List.prefix_refl _, fun other member => ?_, fun distinct => ?_⟩
    · rcases List.mem_append.mp member with old | new
      · exact Or.inl old
      · rw [List.mem_singleton.mp new]
        exact Or.inr (Or.inl (List.mem_singleton_self _))
    · rw [Distinct, List.map_append, List.map_singleton, List.nodup_append]
      refine ⟨distinct, List.nodup_singleton d.name, fun name old other new => ?_⟩
      rw [List.mem_singleton.mp new]
      rintro rfl
      exact undeclared (List.mem_map.mp old)

theorem declare_declares (unit after : SourceUnit) (d : Declaration) (declared : unit.declare d = .ok after) :
    ∃ stored ∈ after.declarations, stored.name = d.name ∧ stored.shape.Alike d.shape := by
  rcases declare_cases unit after d declared with ⟨existing, member, named, same, unchanged⟩ | ⟨_, appended⟩
  · subst after
    rw [declaration_same, Bool.and_eq_true, Bool.and_eq_true] at same
    exact ⟨existing, member, named, DeclarationShape.same_alike existing.shape d.shape same.2.2⟩
  · subst after
    exact ⟨d, List.mem_append_right _ (List.mem_singleton_self d), rfl, Or.inl rfl⟩

theorem declare_find (unit after : SourceUnit) (d : Declaration) (declared : unit.declare d = .ok after) :
    ∃ stored, after.find? d.name = some stored ∧ stored.shape.Alike d.shape := by
  rcases declare_known_or_new unit after d declared with ⟨existing, found, same, rfl⟩ | ⟨absent, rfl⟩
  · rw [declaration_same, Bool.and_eq_true, Bool.and_eq_true] at same
    exact ⟨existing, found, DeclarationShape.same_alike existing.shape d.shape same.2.2⟩
  · exact ⟨d, added_find unit d absent, Or.inl rfl⟩

theorem claim_grows (unit after : SourceUnit) (base name : String) (claimed : unit.claim base = (name, after)) :
    unit.Grows [] after ∧ name ∉ unit.names.taken ∧ name ∈ after.names.taken := by
  obtain ⟨rfl, rfl⟩ := Prod.mk.inj claimed
  refine ⟨⟨rfl, fun other member => ?_, List.prefix_refl _, List.prefix_refl _, fun _ member => Or.inl member, id⟩,
    Names.claim_absent unit.names base, ?_⟩
  · exact (Names.claim_mem unit.names base other).mpr (Or.inr member)
  · exact (Names.claim_mem unit.names base _).mpr (Or.inl rfl)

theorem declare_functions (unit after : SourceUnit) (d : Declaration) (declared : unit.declare d = .ok after) :
    after.functions = unit.functions := by
  rcases declare_cases unit after d declared with ⟨_, _, _, _, same⟩ | ⟨_, appended⟩
  · rw [same]
  · rw [appended]

theorem claim_functions (unit after : SourceUnit) (base name : String) (claimed : unit.claim base = (name, after)) :
    after.functions = unit.functions := by
  obtain ⟨rfl, rfl⟩ := Prod.mk.inj claimed
  rfl

theorem claim_declarations (unit after : SourceUnit) (base name : String)
    (claimed : unit.claim base = (name, after)) :
    after.declarations = unit.declarations ∧ ∃ number, Naming.WordChars number ∧ name = base ++ number := by
  obtain ⟨rfl, rfl⟩ := Prod.mk.inj claimed
  exact ⟨rfl, Names.claim_extends unit.names base⟩

def Adds (holds : Declaration → Prop) (before after : SourceUnit) : Prop :=
  ∀ d ∈ after.declarations, d ∈ before.declarations ∨ holds d

theorem same_adds (holds : Declaration → Prop) (before after : SourceUnit)
    (same : after.declarations = before.declarations) : Adds holds before after := fun _ member => Or.inl (same ▸ member)

theorem Adds.trans {holds : Declaration → Prop} {a b c : SourceUnit} (first : Adds holds a b)
    (last : Adds holds b c) : Adds holds a c := fun d member => (last d member).elim (first d) Or.inr

theorem declare_adds (holds : Declaration → Prop) (unit after : SourceUnit) (d : Declaration)
    (declared : unit.declare d = .ok after) (new : holds d) : Adds holds unit after := by
  intro other member
  rcases declare_cases unit after d declared with ⟨_, _, _, _, same⟩ | ⟨_, appended⟩
  · rw [same] at member
    exact Or.inl member
  · rw [appended] at member
    rcases List.mem_append.mp member with before | last
    · exact Or.inl before
    · rw [List.mem_singleton.mp last]
      exact Or.inr new

theorem distinct_same (unit : SourceUnit) (distinct : unit.Distinct) (a b : Declaration)
    (first : a ∈ unit.declarations) (second : b ∈ unit.declarations) (same : a.name = b.name) : a = b :=
  List.inj_on_of_nodup_map distinct first second same

-- A claimed name was free, so it needs no mention among the given ones.
theorem claimed_grows {given : List String} (unit middle after : SourceUnit) (base name : String)
    (claimed : unit.claim base = (name, middle)) (grows : middle.Grows (name :: given) after) :
    unit.Grows given after := by
  obtain ⟨first, free, taken⟩ := claim_grows unit middle base name claimed
  refine ⟨grows.package.trans first.package, fun other member => grows.taken other (first.taken other member),
    first.declarations.trans grows.declarations, first.functions.trans grows.functions, fun d member => ?_,
    fun distinct => grows.distinct (first.distinct distinct)⟩
  rcases grows.fresh d member with old | named | ⟨untaken, later⟩
  · rcases first.fresh d old with older | named | fresh
    · exact Or.inl older
    · exact absurd named (List.not_mem_nil)
    · exact Or.inr (Or.inr ⟨fresh.1, grows.taken d.name fresh.2⟩)
  · rcases List.mem_cons.mp named with same | given
    · exact Or.inr (Or.inr (by rw [same]; exact ⟨free, grows.taken name taken⟩))
    · exact Or.inr (Or.inl given)
  · exact Or.inr (Or.inr ⟨fun member => untaken (first.taken d.name member), later⟩)

end SourceUnit

end ApiBindings
