import ApiBindings.Proofs.Data.Dictionary
import ApiBindings.Proofs.Rendering.Orderly
set_option autoImplicit false

namespace ApiBindings.SourceUnit

inductive Edit where
  | reserve (name : String)
  | claim (base : String)
  | declare (declaration : Declaration)
  | push (function : Function)

abbrev Trace := List (Edit × Except Failure Unit)

def edit (unit : SourceUnit) : Edit → Except Failure Unit × SourceUnit
  | .reserve name => (.ok (), unit.reserve name)
  | .claim base => (.ok (), (unit.claim base).2)
  | .declare d => (Build.declare d).result unit
  | .push f => (Build.push f).result unit

def editAll {σ : Type} (edit : σ → Edit → Except Failure Unit × σ) (state : σ) : List Edit → Trace × σ
  | [] => ([], state)
  | first :: rest =>
    let (result, next) := edit state first
    let (trace, last) := editAll edit next rest
    ((first, result) :: trace, last)

def accepted (trace : Trace) : List Declaration :=
  trace.filterMap fun
    | (.declare d, .ok _) => some d
    | _ => none

structure Indexed where
  unit : SourceUnit
  index : List (String × Nat) := []

namespace Indexed

def find? (state : Indexed) (name : String) : Option Declaration :=
  (state.index.lookup name).bind (state.unit.declarations[·]?)

def add (state : Indexed) (d : Declaration) : Indexed where
  unit := { state.unit with declarations := state.unit.declarations ++ [d] }
  index := Data.insert d.name state.unit.declarations.length state.index

def edit (state : Indexed) : Edit → Except Failure Unit × Indexed
  | .declare d =>
    match state.find? d.name with
    | some existing =>
      if existing == d then (.ok (), state) else (.error (.malformed d.name .conflictingDeclarations), state)
    | none => (.ok (), state.add d)
  | other => ((state.unit.edit other).1, { state with unit := (state.unit.edit other).2 })

def InStep (state : Indexed) : Prop := ∀ name place,
  state.index.lookup name = some place ↔ ∃ d, state.unit.declarations[place]? = some d ∧ d.name = name

end Indexed

theorem declare_edit (unit : SourceUnit) (d : Declaration) :
    unit.edit (.declare d) =
      match unit.find? d.name with
      | some existing =>
        if existing == d then (.ok (), unit) else (.error (.malformed d.name .conflictingDeclarations), unit)
      | none => (.ok (), { unit with declarations := unit.declarations ++ [d] }) := by
  rw [edit, Build.declare_result, declare]
  cases unit.find? d.name with
  | none => rfl
  | some existing =>
      by_cases same : (existing == d) = true
      · simp only [if_pos same]
      · simp only [if_neg same]

theorem declare_accepted_iff (unit : SourceUnit) (d : Declaration) :
    (unit.edit (.declare d)).1 = .ok () ↔ ∀ existing, unit.find? d.name = some existing → (existing == d) = true := by
  rw [declare_edit]
  cases unit.find? d.name with
  | none => simp
  | some existing => by_cases same : (existing == d) = true <;> simp [same]

theorem declare_refused (unit : SourceUnit) (d : Declaration) (failure : Failure)
    (refused : (unit.edit (.declare d)).1 = .error failure) :
    ∃ existing, unit.find? d.name = some existing ∧ ¬ (existing == d) = true ∧
      failure = .malformed d.name .conflictingDeclarations := by
  rw [declare_edit] at refused
  cases found : unit.find? d.name with
  | none => simp [found] at refused
  | some existing =>
      by_cases same : (existing == d) = true
      · simp [found, same] at refused
      · exact ⟨existing, rfl, same, by simpa [found, same, eq_comm] using refused⟩

def Edit.declared : Edit → List String
  | .declare d => [d.name]
  | _ => []

theorem edit_grows (unit : SourceUnit) (request : Edit) : unit.Grows request.declared (unit.edit request).2 := by
  cases request with
  | reserve name => exact reserve_grows unit [] name
  | claim base => exact (claim_grows unit _ base _ rfl).1
  | push f => exact push_grows unit [] f
  | declare d =>
      rw [edit, Build.declare_result]
      cases declared : unit.declare d with
      | ok after => exact declare_grows unit after d declared
      | error => exact Grows.refl _ unit

theorem edit_all_grows (unit : SourceUnit) (edits : List Edit) :
    unit.Grows (edits.flatMap Edit.declared) (editAll edit unit edits).2 := by
  induction edits generalizing unit with
  | nil => exact Grows.refl _ unit
  | cons first rest ih =>
      rw [List.flatMap_cons]
      exact ((edit_grows unit first).weaken fun _ => List.mem_append_left _).trans
        ((ih _).weaken fun _ => List.mem_append_right _)

theorem edit_find (unit : SourceUnit) (request : Edit) (name : String) :
    (unit.edit request).2.find? name =
      (unit.find? name).or ((accepted [(request, (unit.edit request).1)]).find? (·.name = name)) := by
  cases request with
  | reserve other => exact Option.or_none.symm
  | claim base => exact Option.or_none.symm
  | push f => exact Option.or_none.symm
  | declare d =>
      rw [declare_edit]
      cases found : unit.find? d.name with
      | none => exact List.find?_append
      | some existing =>
          dsimp only
          split
          next same =>
            by_cases named : d.name = name
            · rw [← named, found, Option.some_or]
            · simp [accepted, named]
          next different => exact Option.or_none.symm

-- The induction is on the run; what was found before it stays in front.
theorem edit_all_find (unit : SourceUnit) (edits : List Edit) (name : String) :
    (editAll edit unit edits).2.find? name =
      (unit.find? name).or ((accepted (editAll edit unit edits).1).find? (·.name = name)) := by
  induction edits generalizing unit with
  | nil => exact Option.or_none.symm
  | cons first rest ih =>
      have split : accepted (editAll edit unit (first :: rest)).1 =
          accepted [(first, (unit.edit first).1)] ++ accepted (editAll edit (unit.edit first).2 rest).1 :=
        List.filterMap_append (l := [_])
      rw [split, List.find?_append, ← Option.or_assoc, ← edit_find]
      exact ih (unit.edit first).2

theorem edit_all_edits {σ : Type} (edit : σ → Edit → Except Failure Unit × σ) (state : σ) (edits : List Edit) :
    (editAll edit state edits).1.map Prod.fst = edits := by
  induction edits generalizing state with
  | nil => rfl
  | cons first rest ih => exact congrArg (first :: ·) (ih _)

namespace Indexed

-- Declarations of one name stand at one place, so the first one is the one at that place.
theorem in_step_find (state : Indexed) (inStep : state.InStep) (name : String) : state.find? name = state.unit.find? name := by
  cases found : state.unit.find? name with
  | none =>
      have absent : state.index.lookup name = none := by
        refine Option.eq_none_iff_forall_ne_some.mpr fun place known => ?_
        obtain ⟨d, stands, named⟩ := (inStep name place).mp known
        exact find_none state.unit name found ⟨d, List.mem_of_getElem? stands, named⟩
      rw [find?, absent, Option.bind_none]
  | some d =>
      obtain ⟨member, named⟩ := find_some state.unit name d found
      obtain ⟨place, stands⟩ := List.mem_iff_getElem?.mp member
      rw [find?, (inStep name place).mpr ⟨d, stands, named⟩, Option.bind_some, stands]

theorem declare_edit (state : Indexed) (inStep : state.InStep) (d : Declaration) :
    state.edit (.declare d) =
      match state.unit.find? d.name with
      | some existing =>
        if existing == d then (.ok (), state) else (.error (.malformed d.name .conflictingDeclarations), state)
      | none => (.ok (), state.add d) := by
  rw [edit, in_step_find state inStep]

theorem edit_unit (state : Indexed) (inStep : state.InStep) (request : Edit) :
    (state.edit request).1 = (state.unit.edit request).1 ∧ (state.edit request).2.unit = (state.unit.edit request).2 := by
  cases request with
  | reserve name => exact ⟨rfl, rfl⟩
  | claim base => exact ⟨rfl, rfl⟩
  | push f => exact ⟨rfl, rfl⟩
  | declare d =>
      rw [declare_edit state inStep, SourceUnit.declare_edit]
      cases state.unit.find? d.name with
      | none => exact ⟨rfl, rfl⟩
      | some existing =>
          dsimp only
          split <;> exact ⟨rfl, rfl⟩

theorem add_in_step (state : Indexed) (inStep : state.InStep) (d : Declaration) (absent : state.unit.find? d.name = none) :
    (state.add d).InStep := by
  intro name place
  have stands (e : Declaration) : (state.add d).unit.declarations[place]? = some e ↔
      state.unit.declarations[place]? = some e ∨ (place = state.unit.declarations.length ∧ d = e) := by
    change (state.unit.declarations ++ [d])[place]? = some e ↔ _
    rcases Nat.lt_trichotomy place state.unit.declarations.length with before | rfl | behind
    · rw [List.getElem?_append_left before]
      exact ⟨Or.inl, fun known => known.resolve_right fun last => absurd last.1 (Nat.ne_of_lt before)⟩
    · simp
    · have length : (state.unit.declarations ++ [d]).length ≤ place := by rwa [List.length_append]
      rw [List.getElem?_eq_none length, List.getElem?_eq_none (Nat.le_of_lt behind)]
      simp [Nat.ne_of_gt behind]
  simp only [stands]
  by_cases own : name = d.name
  · subst name
    rw [add, Data.lookup_insert_same, Option.some_inj]
    constructor
    · rintro rfl
      exact ⟨d, Or.inr ⟨rfl, rfl⟩, rfl⟩
    · rintro ⟨e, old | ⟨rfl, _⟩, named⟩
      · exact absurd ⟨e, List.mem_of_getElem? old, named⟩ (find_none state.unit d.name absent)
      · rfl
  · rw [add, Data.lookup_insert_other _ _ _ _ own, inStep name place]
    constructor
    · rintro ⟨e, old, named⟩
      exact ⟨e, Or.inl old, named⟩
    · rintro ⟨e, old | ⟨_, rfl⟩, named⟩
      · exact ⟨e, old, named⟩
      · exact absurd named.symm own

theorem edit_in_step (state : Indexed) (inStep : state.InStep) (request : Edit) : (state.edit request).2.InStep := by
  cases request with
  | reserve name => exact inStep
  | claim base => exact inStep
  | push f => exact inStep
  | declare d =>
      rw [declare_edit state inStep]
      cases found : state.unit.find? d.name with
      | none => exact add_in_step state inStep d found
      | some existing =>
          dsimp only
          split <;> exact inStep

theorem edit_all_in_step (state : Indexed) (inStep : state.InStep) (edits : List Edit) :
    (editAll edit state edits).2.InStep ∧
      editAll SourceUnit.edit state.unit edits = ((editAll edit state edits).1, (editAll edit state edits).2.unit) := by
  induction edits generalizing state with
  | nil => exact ⟨inStep, rfl⟩
  | cons first rest ih =>
      obtain ⟨last, same⟩ := ih (state.edit first).2 (edit_in_step state inStep first)
      obtain ⟨result, unit⟩ := edit_unit state inStep first
      refine ⟨last, ?_⟩
      rw [unit] at same
      simp only [editAll, same, result]

end Indexed

-- Declarations are compared as numbers are: zeros of both signs are equal, so the one that was declared first may differ
-- from the one that changes nothing, and a constant that is no number equals none, so it is refused a second time.
theorem edits_in_step (package : String) (edits : List Edit) :
    let (trace, unit) := editAll edit { package } edits
    let indexed := (editAll Indexed.edit { unit := { package } } edits).2
    trace.map Prod.fst = edits ∧
      (∀ name, unit.find? name = (accepted trace).find? (·.name = name)) ∧
      (∀ name, (unit.find? name).isSome = true ↔ ∃ d ∈ accepted trace, d.name = name) ∧
      unit.Distinct ∧
      (∀ more, unit.declarations <+: (editAll edit unit more).2.declarations) ∧
      (∀ d, (unit.edit (.declare d)).1 = .ok () ↔
        ∀ existing, unit.find? d.name = some existing → (existing == d) = true) ∧
      (∀ d existing, unit.find? d.name = some existing → (existing == d) = true →
        unit.edit (.declare d) = (.ok (), unit) ∧ indexed.edit (.declare d) = (.ok (), indexed)) ∧
      (∀ d failure, (unit.edit (.declare d)).1 = .error failure →
        unit.edit (.declare d) = (.error failure, unit) ∧ indexed.edit (.declare d) = (.error failure, indexed)) ∧
      editAll Indexed.edit { unit := { package } } edits = (trace, indexed) ∧ indexed.unit = unit ∧ indexed.InStep ∧
      ∀ name, indexed.find? name = unit.find? name := by
  have empty : Indexed.InStep { unit := { package } } := fun name place => by simp
  obtain ⟨inStep, same⟩ := Indexed.edit_all_in_step { unit := { package } } empty edits
  have found (name : String) : (editAll edit { package } edits).2.find? name =
      (accepted (editAll edit { package } edits).1).find? (·.name = name) := edit_all_find { package } edits name
  have unit : (editAll Indexed.edit { unit := { package } } edits).2.unit = (editAll edit { package } edits).2 := by
    rw [same]
  refine ⟨edit_all_edits edit _ edits, found, fun name => ?_, (edit_all_grows _ edits).distinct List.nodup_nil,
    fun more => (edit_all_grows _ more).declarations, declare_accepted_iff _, fun d existing known equal => ?_,
    fun d failure refused => ?_, by rw [same], unit, inStep, fun name => ?_⟩
  · rw [found, List.find?_isSome]
    simp
  · rw [declare_edit, Indexed.declare_edit _ inStep, unit, known]
    exact ⟨if_pos equal, if_pos equal⟩
  · obtain ⟨existing, known, different, rfl⟩ := declare_refused _ d failure refused
    rw [declare_edit, Indexed.declare_edit _ inStep, unit, known]
    exact ⟨if_neg different, if_neg different⟩
  · rw [Indexed.in_step_find _ inStep, unit]

theorem repeated_ids_in_step :
    let id : Declaration := { name := "ID", shape := .alias (.named "string") }
    let count : Declaration := { name := "ID", shape := .alias (.named "int") }
    let edits : List Edit := [.reserve "ID", .declare id, .claim "ID"]
    let unit := (editAll edit { package := "models" } edits).2
    let indexed := (editAll Indexed.edit { unit := { package := "models" } } edits).2
    unit.find? "ID" = some id ∧ unit.edit (.declare id) = (.ok (), unit) ∧
      indexed.edit (.declare id) = (.ok (), indexed) ∧ indexed.index = [("ID", 0)] ∧
      unit.edit (.declare count) = (.error (.malformed "ID" .conflictingDeclarations), unit) ∧
      indexed.edit (.declare count) = (.error (.malformed "ID" .conflictingDeclarations), indexed) := by
  intro id count edits unit indexed
  obtain ⟨_, found, _, _, _, _, again, refused, _⟩ := edits_in_step "models" edits
  have known : unit.find? "ID" = some id := found "ID"
  obtain ⟨same, sameIndexed⟩ := again id id known rfl
  obtain ⟨kept, keptIndexed⟩ := refused count (.malformed "ID" .conflictingDeclarations) rfl
  exact ⟨known, same, sameIndexed, rfl, kept, keptIndexed⟩

end ApiBindings.SourceUnit
