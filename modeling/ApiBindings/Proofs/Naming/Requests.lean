import ApiBindings.Proofs.Naming.Unique
import ApiBindings.Unit.Basic
import Mathlib.Tactic.Tauto
set_option autoImplicit false

namespace ApiBindings

namespace Names

inductive Request where
  | reserve (name : String)
  | claim (base : String)
deriving DecidableEq

inductive Grant where
  | reserved (name : String)
  | claimed (base name : String)
deriving DecidableEq

namespace Grant

def request : Grant → Request
  | .reserved name => .reserve name
  | .claimed base _ => .claim base

def name : Grant → String
  | .reserved name => name
  | .claimed _ name => name

end Grant

def serve (names : Names) : Request → Grant × Names
  | .reserve name => (.reserved name, names.reserve name)
  | .claim base => (.claimed base (names.claim base).1, (names.claim base).2)

def serveAll {σ : Type} (serve : σ → Request → Grant × σ) (state : σ) : List Request → List Grant × σ
  | [] => ([], state)
  | request :: rest =>
    let (grant, next) := serve state request
    let (grants, last) := serveAll serve next rest
    (grant :: grants, last)

-- The name for a base when `used` are in use. The search starts at two, and as many
-- numbers as there are names in use are more than enough.
def Least (used : List String) (base name : String) : Prop :=
  (base ∉ used ∧ name = base) ∨
    (base ∈ used ∧ ∃ number, 2 ≤ number ∧ number ≤ used.length + 1 ∧ name = base ++ toString number ∧ name ∉ used ∧
      ∀ n, 2 ≤ n → n < number → base ++ toString n ∈ used)

theorem least_free (used : List String) (base name : String) (least : Least used base name) : name ∉ used := by
  rcases least with ⟨free, rfl⟩ | ⟨_, _, _, _, _, free, _⟩
  · exact free
  · exact free

theorem found_least (used : List String) (base name : String) (tries : Nat) (found : Found used base tries name) :
    Least used base name := by
  have bounded := found_bounded used base name tries found
  obtain ⟨rfl, free, earlier⟩ := found
  cases tries with
  | zero => exact Or.inl ⟨free, rfl⟩
  | succ tries =>
      refine Or.inr ⟨earlier 0 (Nat.succ_pos tries), tries + 2, by omega, by omega, rfl, free, fun n low below => ?_⟩
      have tried := earlier (n - 1) (by omega)
      rwa [show n - 1 = (n - 2) + 1 by omega, attempt, show n - 2 + 2 = n by omega] at tried

theorem found_same (used others : List String) (same : ∀ other, other ∈ used ↔ other ∈ others) (base name : String)
    (tries : Nat) (found : Found used base tries name) : Found others base tries name :=
  ⟨found.attempted, fun member => found.free ((same name).mpr member),
    fun n below => (same _).mp (found.earlier n below)⟩

theorem serve_request (names : Names) (request : Request) : (names.serve request).1.request = request := by
  cases request <;> rfl

theorem serve_mem (names : Names) (request : Request) (other : String) :
    other ∈ (names.serve request).2.taken ↔ other = (names.serve request).1.name ∨ other ∈ names.taken := by
  cases request with
  | reserve name => exact names.reserve_mem name other
  | claim base => exact names.claim_mem base other

theorem serve_found (names : Names) (request : Request) (base name : String)
    (claimed : (names.serve request).1 = .claimed base name) : ∃ tries, Found names.taken base tries name := by
  cases request with
  | reserve name => cases claimed
  | claim base =>
      cases claimed
      exact names.claim_found base

theorem serve_all_requests (names : Names) (requests : List Request) :
    (serveAll serve names requests).1.map Grant.request = requests := by
  induction requests generalizing names with
  | nil => rfl
  | cons request rest ih => simp only [serveAll, List.map_cons, serve_request, ih]

theorem serve_all_mem (names : Names) (requests : List Request) (other : String) :
    other ∈ (serveAll serve names requests).2.taken ↔
      other ∈ names.taken ∨ other ∈ (serveAll serve names requests).1.map Grant.name := by
  induction requests generalizing names with
  | nil => simp [serveAll]
  | cons request rest ih =>
      simp only [serveAll, ih, serve_mem, List.map_cons, List.mem_cons]
      tauto

-- The induction is on the run. The names in use at a claim are those at the start and those
-- granted before it, in whatever order they are kept.
theorem serve_all_found (names : Names) (requests : List Request) (before later : List Grant) (base name : String)
    (run : (serveAll serve names requests).1 = before ++ .claimed base name :: later) :
    ∃ tries, Found (names.taken ++ before.map Grant.name) base tries name := by
  induction requests generalizing names before with
  | nil => simp [serveAll] at run
  | cons request rest ih =>
      simp only [serveAll] at run
      cases before with
      | nil =>
          obtain ⟨tries, found⟩ := names.serve_found request base name (List.cons.inj run).1
          exact ⟨tries, by simpa using found⟩
      | cons grant others =>
          obtain ⟨first, run⟩ := List.cons.inj run
          obtain ⟨tries, found⟩ := ih _ others run
          refine ⟨tries, found_same _ _ (fun other => ?_) base name tries found⟩
          simp only [List.mem_append, serve_mem, first, List.map_cons, List.mem_cons]
          tauto

end Names

namespace SourceUnit

open Names (Request Grant serveAll)

def serve (unit : SourceUnit) : Request → Grant × SourceUnit
  | .reserve name => (.reserved name, unit.reserve name)
  | .claim base => (.claimed base (unit.claim base).1, (unit.claim base).2)

theorem serve_eq (unit : SourceUnit) (request : Request) :
    unit.serve request = ((unit.names.serve request).1, { unit with names := (unit.names.serve request).2 }) := by
  cases request <;> rfl

theorem serve_all_eq (unit : SourceUnit) (requests : List Request) :
    serveAll serve unit requests =
      ((serveAll Names.serve unit.names requests).1,
        { unit with names := (serveAll Names.serve unit.names requests).2 }) := by
  induction requests generalizing unit with
  | nil => rfl
  | cons request rest ih => simp only [serveAll, serve_eq, ih]

end SourceUnit

namespace Names

theorem requests_granted (unit : SourceUnit) (requests : List Request) :
    let used := unit.names.taken
    let (grants, names) := serveAll serve unit.names requests
    grants.map Grant.request = requests ∧
      (∀ before base name later, grants = before ++ .claimed base name :: later →
        Least (used ++ before.map Grant.name) base name ∧ name ∉ used ∧ ∀ grant ∈ before, name ≠ grant.name) ∧
      (∀ other, other ∈ names.taken ↔ other ∈ used ∨ ∃ grant ∈ grants, grant.name = other) ∧
      serveAll SourceUnit.serve unit requests = (grants, { unit with names }) := by
  refine ⟨serve_all_requests unit.names requests, fun before base name later run => ?_, fun other => ?_,
    unit.serve_all_eq requests⟩
  · obtain ⟨tries, found⟩ := serve_all_found unit.names requests before later base name run
    have least := found_least _ base name tries found
    have free := least_free _ base name least
    rw [List.mem_append, not_or] at free
    exact ⟨least, free.1, fun grant member same => free.2 (same ▸ List.mem_map_of_mem member)⟩
  · rw [serve_all_mem unit.names requests other, List.mem_map]

-- A reserved name that looks like a numbered one is passed over.
theorem numbered_parts_granted :
    let unit : SourceUnit := { package := "models" }
    let requests : List Request := [.claim "Part", .reserve "Part2", .claim "Part"]
    let before : List Grant := [.claimed "Part" "Part", .reserved "Part2"]
    (serveAll serve unit.names requests).1 = before ++ [.claimed "Part" "Part3"] ∧
      Least (before.map Grant.name) "Part" "Part3" ∧ "Part3" ∉ unit.names.taken ∧
      ∀ grant ∈ before, "Part3" ≠ grant.name := by
  intro unit requests before
  have run : (serveAll serve unit.names requests).1 = before ++ [.claimed "Part" "Part3"] := by decide +kernel
  exact ⟨run, (requests_granted unit requests).2.1 before "Part" "Part3" [] run⟩

end Names

end ApiBindings
