import ApiBindings.Data.Json
import ApiBindings.Proofs.Data.Numbers
set_option autoImplicit false

namespace ApiBindings

open Number (Double of_units_valid of_ratio_valid negate_valid)

namespace Data

namespace Json

theorem multiply_valid (x y : Double) : (multiply x y).Valid := by
  unfold multiply
  split
  · exact of_units_valid _ _ _
  · exact .nan

theorem divide_valid (x y : Double) : (divide x y).Valid := by
  unfold divide
  split
  · exact of_units_valid _ _ _
  · exact .nan

theorem scale_down_valid (x : Double) (places : Nat) (valid : x.Valid) : (scaleDown x places).Valid := by
  fun_induction scaleDown x places with
  | case1 => exact divide_valid _ _
  | case2 => exact valid
  | case3 _ _ _ _ ih => exact ih (divide_valid _ _)

theorem scale_valid (significand : Nat) (exponent : Int) (x : Double) (scaled : scale? significand exponent = some x) :
    x.Valid := by
  have start : (Double.ofNat significand).Valid := of_ratio_valid false significand 1
  have scaled_up := multiply_valid (Double.ofNat significand) (powerOfTen exponent.toNat)
  have scaled_down := scale_down_valid (Double.ofNat significand) (-exponent).toNat start
  unfold scale? at scaled
  dsimp only at scaled
  generalize Double.ofNat significand = given at scaled start scaled_up scaled_down
  generalize multiply given (powerOfTen exponent.toNat) = larger at scaled scaled_up
  generalize scaleDown given (-exponent).toNat = smaller at scaled scaled_down
  split at scaled
  · split at scaled
    · exact Option.some.inj scaled ▸ start
    · split at scaled
      · cases scaled
      · split at scaled
        · exact Option.some.inj scaled ▸ scaled_up
        · cases scaled
  · exact Option.some.inj scaled ▸ scaled_down

theorem double_valid (n : Numeral) (x : Double) (read : n.double? = some x) : x.Valid := by
  obtain ⟨y, scaled, rfl⟩ := Option.map_eq_some_iff.mp read
  have valid := scale_valid _ _ y scaled
  split
  · exact negate_valid y valid
  · exact valid

theorem integer_bounded (n : Numeral) (i : Int) (read : n.integer? = some i) :
    -0x8000000000000000 ≤ i ∧ i < naturalLimit := by
  unfold Numeral.integer? at read
  split at read
  · cases read
  · dsimp only at read
    split at read
    · split at read
      · obtain rfl := Option.some.inj read
        omega
      · cases read
    · split at read
      · obtain rfl := Option.some.inj read
        omega
      · cases read

theorem numeral_machine (n : Numeral) : n.scalar.Machine := by
  unfold Numeral.scalar
  split
  next i integer =>
    obtain ⟨atom, double, natural⟩ := of_atom_machine (.integer i) (integer_bounded n i integer)
    exact ⟨atom, double, natural⟩
  next =>
    split
    next x double => exact of_atom_machine (.double x) (double_valid n x double)
    next => exact unread_machine

def Token.Machine : Token → Prop
  | .text s | .scalar s => s.Machine
  | _ => True

theorem text_machine (t : OpenText) : t.close.Machine := by
  unfold OpenText.close
  split
  · exact of_atom_machine (.text _) trivial
  · exact unread_machine

theorem word_machine (letters : List Char) (s : Scalar) (read : word? letters = some s) : s.Machine := by
  unfold word? at read
  split at read
  · exact Option.some.inj read ▸ of_atom_machine .null trivial
  · exact Option.some.inj read ▸ of_atom_machine (.flag true) trivial
  · exact Option.some.inj read ▸ of_atom_machine (.flag false) trivial
  · cases read

def Lexer.Emits (step : Option (List Token × Lexer)) : Prop := ∀ tokens next, step = some (tokens, next) →
  ∀ token ∈ tokens, token.Machine

namespace Lexer

theorem emits_refused : Emits none := fun _ _ stepped => by cases stepped

theorem emits_nothing (next : Lexer) : Emits (some ([], next)) := by
  intro tokens after stepped token member
  obtain ⟨rfl, _⟩ := Prod.mk.inj (Option.some.inj stepped)
  cases member

theorem emits_one (token : Token) (next : Lexer) (machine : token.Machine) : Emits (some ([token], next)) := by
  intro tokens after stepped
  obtain ⟨rfl, _⟩ := Prod.mk.inj (Option.some.inj stepped)
  exact List.forall_mem_singleton.mpr machine

theorem begin_emits (c : Char) : Emits (begin? c) := by
  unfold begin?
  split
  · exact emits_nothing _
  split
  · exact emits_nothing _
  split
  · exact emits_nothing _
  split
  · exact emits_nothing _
  split
  case h_7 => exact emits_refused
  all_goals exact emits_one _ _ trivial

theorem ended_emits (read : Option Scalar) (c : Char) (each : ∀ s, read = some s → s.Machine) :
    Emits (read.bind fun s => (begin? c).bind fun begun => some (.scalar s :: begun.1, begun.2)) := by
  intro tokens next stepped
  obtain ⟨s, known, rest⟩ := Option.bind_eq_some_iff.mp stepped
  obtain ⟨⟨others, after⟩, begun, same⟩ := Option.bind_eq_some_iff.mp rest
  obtain ⟨rfl, _⟩ := Prod.mk.inj (Option.some.inj same)
  exact List.forall_mem_cons.mpr ⟨each s known, begin_emits c others after begun⟩

theorem step_emits (lexer : Lexer) (c : Char) : Emits (lexer.step? c) := by
  cases lexer with
  | between => exact begin_emits c
  | word letters =>
      unfold step?
      dsimp only
      split
      · exact emits_nothing _
      · exact ended_emits (word? letters.reverse) c (word_machine letters.reverse)
  | numeral chars =>
      unfold step?
      dsimp only
      split
      · exact emits_nothing _
      · have ended := ended_emits ((Numeral.read? chars.reverse).map Numeral.scalar) c fun s read => by
          obtain ⟨n, _, rfl⟩ := Option.map_eq_some_iff.mp read
          exact numeral_machine n
        rwa [Option.bind_map] at ended
  | text t =>
      unfold step?
      dsimp only
      split
      · exact emits_one _ _ (text_machine t)
      split
      · exact emits_nothing _
      split
      · exact emits_refused
      · exact emits_nothing _
  | escape t =>
      unfold step?
      dsimp only
      split
      · exact emits_nothing _
      · cases escaped? c with
        | none => exact emits_refused
        | some e => exact emits_nothing _
  | unit t left value =>
      unfold step?
      cases hexValue? c with
      | none => exact emits_refused
      | some digit => cases left <;> exact emits_nothing _

end Lexer

theorem finish_machine (lexer : Lexer) (tokens : List Token) (finished : lexer.finish? = some tokens) :
    ∀ token ∈ tokens, token.Machine := by
  cases lexer with
  | between => exact Option.some.inj finished ▸ List.forall_mem_nil _
  | word letters =>
      obtain ⟨s, read, rfl⟩ := Option.map_eq_some_iff.mp finished
      exact List.forall_mem_singleton.mpr (word_machine _ s read)
  | numeral chars =>
      obtain ⟨n, _, rfl⟩ := Option.map_eq_some_iff.mp finished
      exact List.forall_mem_singleton.mpr (numeral_machine n)
  | text | escape | unit => cases finished

theorem tokens_machine (lexer : Lexer) (text : List Char) (tokens : List Token) (read : tokens? lexer text = some tokens) :
    ∀ token ∈ tokens, token.Machine := by
  induction text generalizing lexer tokens with
  | nil => exact finish_machine lexer tokens read
  | cons c rest ih =>
      rw [tokens?] at read
      split at read
      next => cases read
      next first next stepped =>
        obtain ⟨others, later, rfl⟩ := Option.map_eq_some_iff.mp read
        exact List.forall_mem_append.mpr ⟨lexer.step_emits c first next stepped, ih next others later⟩

def Frame.Machine : Frame → Prop
  | .list items => ∀ node ∈ items, node.Machine
  | .record entries | .entry entries _ => ∀ entry ∈ entries, entry.2.Machine

structure Builder.Machine (b : Builder) : Prop where
  frames : ∀ frame ∈ b.frames, frame.Machine
  built : ∀ node, b.expecting = .nothing node → node.Machine

section

variable {frames : List Frame} {next : Builder} (held : ∀ frame ∈ frames, frame.Machine)
include held

theorem deliver_machine (node : Node) (machine : node.Machine) (delivered : Builder.deliver? frames node = some next) :
    next.Machine := by
  cases frames with
  | nil =>
      obtain rfl := Option.some.inj delivered
      exact ⟨held, fun other same => Expecting.nothing.inj same ▸ machine⟩
  | cons frame outer =>
      obtain ⟨own, others⟩ := List.forall_mem_cons.mp held
      cases frame with
      | record => cases delivered
      | list | entry =>
          obtain rfl := Option.some.inj delivered
          exact ⟨List.forall_mem_cons.mpr ⟨List.forall_mem_cons.mpr ⟨machine, own⟩, others⟩, fun _ none => by cases none⟩

theorem close_machine (token : Token) (closed : Builder.close? frames token = some next) : next.Machine := by
  unfold Builder.close? at closed
  split at closed
  · obtain ⟨own, others⟩ := List.forall_mem_cons.mp held
    exact deliver_machine others _ (.list fun node member => own node (List.mem_reverse.mp member)) closed
  · obtain ⟨own, others⟩ := List.forall_mem_cons.mp held
    exact deliver_machine others _ (.record fun entry member => own entry (List.mem_reverse.mp member)) closed
  · cases closed

theorem awaiting_machine (expecting : Expecting) (more : ∀ node, expecting ≠ .nothing node) :
    (Builder.mk frames expecting).Machine := ⟨held, fun node same => absurd same (more node)⟩

theorem value_machine (token : Token) (machine : token.Machine) (valued : Builder.value? frames token = some next) :
    next.Machine := by
  have opened (frame : Frame) (empty : frame.Machine) : ∀ other ∈ frame :: frames, other.Machine :=
    List.forall_mem_cons.mpr ⟨empty, held⟩
  cases token with
  | text | scalar => exact deliver_machine held _ (.scalar machine) valued
  | openList =>
      have empty : (Frame.list []).Machine := List.forall_mem_nil _
      exact Option.some.inj valued ▸ awaiting_machine (opened _ empty) .firstItem fun _ none => by cases none
  | openRecord =>
      have empty : (Frame.record []).Machine := List.forall_mem_nil _
      exact Option.some.inj valued ▸ awaiting_machine (opened _ empty) .firstKey fun _ none => by cases none
  | closeList | closeRecord | comma | colon => cases valued

theorem key_machine (token : Token) (keyed : Builder.key? frames token = some next) : next.Machine := by
  unfold Builder.key? at keyed
  split at keyed
  · obtain ⟨own, others⟩ := List.forall_mem_cons.mp held
    exact Option.some.inj keyed ▸ ⟨List.forall_mem_cons.mpr ⟨own, others⟩, fun _ none => by cases none⟩
  · cases keyed

end

theorem builder_step_machine (b next : Builder) (token : Token) (machine : b.Machine) (known : token.Machine)
    (stepped : b.step? token = some next) : next.Machine := by
  obtain ⟨held, _⟩ := machine
  unfold Builder.step? at stepped
  split at stepped
  case h_1 | h_3 => exact value_machine held _ known stepped
  case h_2 | h_4 => exact close_machine held _ stepped
  case h_5 | h_6 => exact key_machine held _ stepped
  case h_7 => exact Option.some.inj stepped ▸ awaiting_machine held .value fun _ none => by cases none
  case h_8 =>
    split at stepped
    · exact Option.some.inj stepped ▸ awaiting_machine held .value fun _ none => by cases none
    · exact Option.some.inj stepped ▸ awaiting_machine held .key fun _ none => by cases none
  case h_9 => exact close_machine held _ stepped
  case h_10 => cases stepped

theorem build_machine (tokens : List Token) (b built : Builder) (machine : b.Machine)
    (known : ∀ token ∈ tokens, token.Machine) (done : tokens.foldlM Builder.step? b = some built) : built.Machine := by
  induction tokens generalizing b with
  | nil => exact Option.some.inj done ▸ machine
  | cons token rest ih =>
      obtain ⟨own, others⟩ := List.forall_mem_cons.mp known
      obtain ⟨next, stepped, later⟩ := Option.bind_eq_some_iff.mp done
      exact ih next (builder_step_machine b next token machine own stepped) others later

theorem read_machine (text : String) (node : Node) (read : read? text = some node) : node.Machine := by
  obtain ⟨tokens, scanned, rest⟩ := Option.bind_eq_some_iff.mp read
  obtain ⟨built, done, ended⟩ := Option.bind_eq_some_iff.mp rest
  have machine := build_machine tokens {} built
    ⟨List.forall_mem_nil _, fun _ none => by cases none⟩
    (tokens_machine .between text.toList tokens scanned) done
  split at ended
  next found expecting => exact machine.built node (Option.some.inj ended ▸ expecting)
  next => cases ended

end Json

end Data

end ApiBindings
