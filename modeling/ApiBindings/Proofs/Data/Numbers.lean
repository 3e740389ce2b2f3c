import ApiBindings.Data.Decoder
import ApiBindings.Proofs.Number.Shortest
set_option autoImplicit false

namespace ApiBindings

namespace Number

theorem multiple_valid (significand k : Nat) (few : significand ≤ Nat.pow 2 53) :
    Double.spacing (significand * Nat.pow 2 k) ∣ significand * Nat.pow 2 k := by
  rcases few.lt_or_eq with less | rfl
  · have below : significand * Nat.pow 2 k < Nat.pow 2 (k + 53) := by
      rw [show Nat.pow 2 (k + 53) = Nat.pow 2 53 * Nat.pow 2 k from (Nat.pow_add 2 k 53).trans (Nat.mul_comm _ _)]
      exact Nat.mul_lt_mul_of_pos_right less (Nat.pow_pos (by decide))
    exact (spacing_divides _ k below).mul_left _
  · have same : Nat.pow 2 53 * Nat.pow 2 k = Nat.pow 2 (k + 53) := (Nat.mul_comm _ _).trans (Nat.pow_add 2 k 53).symm
    rw [same]
    have below : Nat.pow 2 (k + 53) < Nat.pow 2 (k + 1 + 53) := Nat.pow_lt_pow_right (by decide) (by omega)
    exact (spacing_divides _ (k + 1) below).trans (Nat.pow_dvd_pow 2 (by omega))

theorem round_div_le (num den : Nat) : Double.roundDiv num den ≤ num / den + 1 := by
  unfold Double.roundDiv
  dsimp only
  split <;> omega

theorem of_units_valid (negative : Bool) (num den : Nat) : (Double.ofUnits negative num den).Valid := by
  have few : Double.roundDiv num (den * Double.spacing (num / den)) ≤ Nat.pow 2 53 := by
    refine (round_div_le _ _).trans ?_
    rw [← Nat.div_div_eq_div_mul]
    exact quotient_few (num / den)
  have whole := multiple_valid _ (Nat.log2 (num / den) - 52) few
  unfold Double.ofUnits
  dsimp only
  by_cases below : Double.roundDiv num (den * Double.spacing (num / den)) * Double.spacing (num / den) < Double.limit
  · rw [if_pos below]
    exact .finite negative _ below whole
  · rw [if_neg below]
    exact .infinite negative

theorem of_ratio_valid (negative : Bool) (num den : Nat) : (Double.ofRatio negative num den).Valid :=
  of_units_valid negative (num * Double.one) den

theorem limit_pos : 0 < Double.limit := by decide +kernel

theorem zero_valid (negative : Bool) : (Double.finite negative 0).Valid :=
  .finite negative 0 limit_pos (Nat.dvd_zero _)

theorem of_decimal_valid (negative : Bool) (digits : Nat) (exponent : Int) :
    (Double.ofDecimal negative digits exponent).Valid := by
  unfold Double.ofDecimal
  split
  · exact zero_valid negative
  · split
    · exact .infinite negative
    · split
      · exact zero_valid negative
      · split <;> exact of_ratio_valid _ _ _

theorem negate_valid (x : Double) (valid : x.Valid) : x.negate.Valid := by
  cases valid with
  | nan => exact .nan
  | infinite negative => exact .infinite _
  | finite negative units below whole => exact .finite _ units below whole

end Number

open Number (Double of_ratio_valid)

namespace Data

def Atom.Machine : Atom → Prop
  | .integer n => -0x8000000000000000 ≤ n ∧ n < naturalLimit
  | .double x => x.Valid
  | _ => True

structure Scalar.Machine (s : Scalar) : Prop where
  atom : ∀ atom ∈ s.atom?, atom.Machine
  double : ∀ x ∈ s.double?, x.Valid
  natural : ∀ n ∈ s.natural?, n < naturalLimit

theorem unread_machine : ({} : Scalar).Machine where
  atom _ member := (Option.not_mem_none _ member).elim
  double _ member := (Option.not_mem_none _ member).elim
  natural _ member := (Option.not_mem_none _ member).elim

theorem of_atom_machine (atom : Atom) (machine : atom.Machine) : (Scalar.ofAtom atom).Machine := by
  have own (other : Atom) (same : other ∈ some atom) : other.Machine := Option.some.inj same ▸ machine
  cases atom with
  | null | flag | text => exact ⟨own, unread_machine.double, unread_machine.natural⟩
  | double x => exact ⟨own, fun y same => Option.some.inj same ▸ machine, unread_machine.natural⟩
  | integer n =>
      refine ⟨own, fun x same => Option.some.inj same ▸ of_ratio_valid _ _ _, fun natural found => ?_⟩
      obtain ⟨low, high⟩ := machine
      change natural ∈ (if 0 ≤ n then some n.toNat else none) at found
      split at found
      · obtain rfl := Option.some.inj found
        omega
      · cases found

-- The keys of a record are read as texts only.
inductive Node.Machine : Node → Prop where
  | scalar {s : Scalar} (own : s.Machine) : (Node.scalar s).Machine
  | list {labelled : Bool} {items : List Node} (each : ∀ node ∈ items, node.Machine) : (Node.list labelled items).Machine
  | record {labelled : Bool} {entries : List (Node × Node)} (each : ∀ entry ∈ entries, entry.2.Machine) :
      (Node.record labelled entries).Machine
  | alias (anchor : Nat) : (Node.alias anchor).Machine

structure Source.Machine (source : Source) : Prop where
  root : source.root.Machine
  anchors : ∀ entry ∈ source.anchors, entry.2.Machine

end Data

end ApiBindings
