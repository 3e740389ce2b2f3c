import ApiBindings.Data.Yaml.Node
import ApiBindings.Proofs.Data.Numbers
set_option autoImplicit false

namespace ApiBindings

open Number (Double of_decimal_valid)

namespace Data

namespace Yaml

theorem decimal_valid (negative : Bool) (text : List Char) (x : Double) (read : decimal? negative text = some x) :
    x.Valid := by
  have ended (exponent : Option Int) (digits : Option Nat) (places : Int) (both : (exponent.bind fun exponent =>
      digits.bind fun digits => some (Double.ofDecimal negative digits (exponent - places))) = some x) : x.Valid := by
    obtain ⟨exponent, _, rest⟩ := Option.bind_eq_some_iff.mp both
    obtain ⟨digits, _, rounded⟩ := Option.bind_eq_some_iff.mp rest
    exact Option.some.inj rounded ▸ of_decimal_valid negative digits (exponent - places)
  unfold decimal? at read
  dsimp only [bind, pure] at read
  generalize text.span Char.isDigit = parts at read
  split at read
  all_goals
    split at read
    · cases read
    · split at read
      · exact ended _ _ _ read
      · split at read
        · split at read <;> exact ended _ _ _ read
        · cases read

theorem double_valid (text : List Char) (x : Double) (read : double? text = some x) : x.Valid := by
  unfold double? at read
  split at read
  case h_13 =>
    obtain ⟨value, _⟩ := Option.filter_eq_some_iff.mp read
    split at value <;> exact decimal_valid _ _ x value
  case h_10 | h_11 | h_12 => exact Option.some.inj read ▸ .nan
  all_goals exact Option.some.inj read ▸ .infinite _

theorem word_fits (n : Int) (fits : fitsWord n = true) : (Atom.integer n).Machine := by
  simpa [Atom.Machine, fitsWord] using fits

theorem plain_machine (text : String) (atom : Atom) (read : plainAtom? text = some atom) : atom.Machine := by
  unfold plainAtom? at read
  split at read
  · exact Option.some.inj read ▸ trivial
  · split at read
    · exact Option.some.inj read ▸ trivial
    · split at read
      next fits => exact Option.some.inj read ▸ word_fits _ fits
      next => cases read
    · split at read
      next x double =>
        obtain rfl := Option.some.inj read
        split at double
        · cases double
        · exact double_valid _ x double
      next => exact Option.some.inj read ▸ trivial

theorem atom_machine (style : Style) (tag : Option String) (text : String) (atom : Atom)
    (read : atom? style tag text = some atom) : atom.Machine := by
  have machine {α : Type} (found : Option α) (make : α → Atom) (each : ∀ a, found = some a → (make a).Machine)
      (made : found.map make = some atom) : atom.Machine := by
    obtain ⟨a, same, rfl⟩ := Option.map_eq_some_iff.mp made
    exact each a same
  unfold atom? at read
  split at read
  · split at read
    · exact plain_machine text atom read
    · exact Option.some.inj read ▸ trivial
  split at read
  · cases read
  split at read
  · exact machine _ .flag (fun _ _ => trivial) read
  split at read
  · exact machine _ .integer (fun n kept => word_fits n (Option.filter_eq_some_iff.mp kept).2) read
  split at read
  · exact machine _ .double (fun x double => double_valid _ x double) read
  split at read
  · split at read
    · exact Option.some.inj read ▸ trivial
    · cases read
  · exact Option.some.inj read ▸ trivial

theorem scalar_machine (style : Style) (tag : Option String) (text : String) : (scalarOf style tag text).Machine where
  atom atom read := atom_machine style tag text atom read
  double x read := by
    unfold scalarOf at read
    dsimp only at read
    split at read
    · exact double_valid _ x read
    · cases read
  natural n read := by
    unfold scalarOf at read
    dsimp only at read
    split at read
    · exact of_decide_eq_true (Option.filter_eq_some_iff.mp read).2
    · cases read

def Reading.Machine (r : Reading) : Prop := ∀ entry ∈ r.anchors, entry.2.Machine

namespace Reader

variable {α β : Type}

def Reads (holds : α → Prop) (read : Reader α) : Prop :=
  ∀ r a after, read r = some (a, after) → r.Machine → holds a ∧ after.Machine

theorem reads_pure (holds : α → Prop) (a : α) (held : holds a) : Reads holds (pure a) := by
  intro r b after done machine
  obtain ⟨rfl, rfl⟩ := Prod.mk.inj (Option.some.inj done)
  exact ⟨held, machine⟩

theorem reads_failure (holds : α → Prop) : Reads holds failure := fun _ _ _ done => by cases done

theorem reads_bind (first : α → Prop) (holds : β → Prop) (read : Reader α) (next : α → Reader β) (start : Reads first read)
    (kept : ∀ a, first a → Reads holds (next a)) : Reads holds (read >>= next) := by
  intro r b after done machine
  obtain ⟨⟨a, middle⟩, given, rest⟩ := Option.bind_eq_some_iff.mp done
  obtain ⟨held, still⟩ := start r a middle given machine
  exact kept a held middle b after rest still

def Keeps (read : Reader α) : Prop := Reads (fun _ => True) read

theorem reads_next (holds : β → Prop) (read : Reader α) (next : α → Reader β) (start : Keeps read)
    (kept : ∀ a, Reads holds (next a)) : Reads holds (read >>= next) :=
  reads_bind (fun _ => True) holds read next start fun a _ => kept a

theorem reads_map (first : α → Prop) (holds : β → Prop) (f : α → β) (read : Reader α) (start : Reads first read)
    (kept : ∀ a, first a → holds (f a)) : Reads holds (f <$> read) := by
  rw [map_eq_pure_bind]
  exact reads_bind first holds read _ start fun a held => reads_pure holds (f a) (kept a held)

theorem reads_if (holds : α → Prop) (condition : Prop) [Decidable condition] (first second : Reader α)
    (one : Reads holds first) (other : Reads holds second) : Reads holds (if condition then first else second) := by
  split
  · exact one
  · exact other

theorem keeps_modify (change : Reading → Reading) (same : ∀ r, (change r).anchors = r.anchors) :
    Keeps (modify change : Reader Unit) := by
  intro r a after done machine
  obtain ⟨_, rfl⟩ := Prod.mk.inj (Option.some.inj done)
  exact ⟨trivial, fun entry member => machine entry (same r ▸ member)⟩

theorem keeps_get : Keeps (get : Reader Reading) := by
  intro r a after done machine
  obtain ⟨_, rfl⟩ := Prod.mk.inj (Option.some.inj done)
  exact ⟨trivial, machine⟩

theorem keeps_pure (a : α) : Keeps (pure a : Reader α) := reads_pure _ a trivial

theorem keeps_peek : Keeps peek := reads_next _ _ _ keeps_get fun _ => keeps_pure _

theorem keeps_skip : Keeps skip := keeps_modify _ fun _ => rfl

theorem keeps_grow (n : Nat) : Keeps (grow n) := keeps_modify _ fun _ => rfl

theorem keeps_accept (token : Token) : Keeps (accept token) :=
  reads_next _ _ _ keeps_peek fun _ => reads_if _ _ _ _ (reads_next _ _ _ keeps_skip fun _ => keeps_pure _) (keeps_pure _)

theorem keeps_expect (token : Token) : Keeps (expect token) :=
  reads_next _ _ _ (keeps_accept token) fun _ => reads_if _ _ _ _ (reads_failure _) (keeps_pure _)

theorem keeps_at_any (tokens : List Token) : Keeps (atAny tokens) := reads_next _ _ _ keeps_peek fun _ => keeps_pure _

theorem nothing_reads (tag : Option String) : Reads Node.Machine (nothing tag) :=
  reads_next _ _ _ (keeps_grow 1) fun _ => reads_pure _ _ (.scalar (scalar_machine .plain tag ""))

theorem list_reads (tag : Option String) (items : List Node) (each : ∀ node ∈ items, node.Machine) :
    Reads Node.Machine (list tag items) :=
  reads_next _ _ _ (keeps_grow 2) fun _ => reads_pure _ _ (.list each)

theorem record_reads (tag : Option String) (entries : List (Node × Node)) (each : ∀ entry ∈ entries, entry.2.Machine) :
    Reads Node.Machine (record tag entries) :=
  reads_next _ _ _ (keeps_grow 2) fun _ => reads_pure _ _ (.record each)

theorem many_reads (holds : α → Prop) (member : Reader (Option α)) (each : Reads (fun found => ∀ a ∈ found, holds a) member)
    (fuel : Nat) : Reads (fun found => ∀ a ∈ found, holds a) (many member fuel) := by
  induction fuel with
  | zero => exact reads_failure _
  | succ fuel ih =>
      refine reads_bind _ _ _ _ each fun found held => ?_
      cases found with
      | none => exact reads_pure _ _ (List.forall_mem_nil _)
      | some a =>
          refine reads_bind _ _ _ _ ih fun others later => ?_
          exact reads_pure _ _ (List.forall_mem_cons.mpr ⟨held a rfl, later⟩)

theorem keeps_resolve_tag (handle suffix : String) : Keeps (resolveTag handle suffix) := by
  refine reads_if _ _ _ _ (keeps_pure _) (reads_next _ _ _ keeps_get fun r => ?_)
  split
  · exact keeps_pure _
  · exact reads_failure _

theorem keeps_anchor_name : Keeps anchorName := by
  refine reads_next _ _ _ keeps_peek fun token => ?_
  split
  · exact reads_next _ _ _ keeps_skip fun _ => keeps_pure _
  · exact keeps_pure _

theorem keeps_tag_text : Keeps tagText := by
  refine reads_next _ _ _ keeps_peek fun token => ?_
  split
  · exact reads_next _ _ _ keeps_skip fun _ => reads_map _ _ _ _ (keeps_resolve_tag _ _) fun _ _ => trivial
  · exact keeps_pure _

theorem keeps_properties : Keeps properties := by
  refine reads_next _ _ _ keeps_anchor_name fun name => ?_
  cases name with
  | some name => exact reads_next _ _ _ keeps_tag_text fun _ => keeps_pure _
  | none =>
      refine reads_next _ _ _ keeps_tag_text fun tag => reads_if _ _ _ _ ?_ (keeps_pure _)
      exact reads_next _ _ _ keeps_anchor_name fun _ => keeps_pure _

theorem anchored_reads (name : Option String) (read : Reader Node) (reads : Reads Node.Machine read) :
    Reads Node.Machine (anchored name read) := by
  cases name with
  | none => exact reads
  | some name =>
      intro r node after done machine
      obtain ⟨⟨found, inner⟩, given, rest⟩ := Option.bind_eq_some_iff.mp done
      obtain ⟨rfl, rfl⟩ := Prod.mk.inj (Option.some.inj rest)
      obtain ⟨held, inside⟩ := reads _ found inner given (List.forall_mem_nil _)
      exact ⟨held, List.forall_mem_append.mpr ⟨inside, List.forall_mem_cons.mpr ⟨held, machine⟩⟩⟩

theorem alias_reads (name : String) : Reads Node.Machine (aliasOf name) := by
  refine reads_next _ _ _ keeps_get fun r => ?_
  split
  · exact reads_next _ _ _ (keeps_grow 1) fun _ => reads_pure _ _ (.alias _)
  · exact reads_failure _

section

variable {node : Bool → Bool → Reader Node} (each : ∀ block indentless, Reads Node.Machine (node block indentless))

theorem node_unless_reads (ends : List Token) (read : Reader Node) (reads : Reads Node.Machine read) :
    Reads Node.Machine (nodeUnless ends read) :=
  reads_next _ _ _ (keeps_at_any ends) fun _ => reads_if _ _ _ _ (nothing_reads none) reads

theorem value_unless_reads (ends : List Token) (read : Reader Node) (reads : Reads Node.Machine read) :
    Reads Node.Machine (valueUnless ends read) :=
  reads_next _ _ _ (keeps_accept .value) fun _ =>
    reads_if _ _ _ _ (node_unless_reads ends read reads) (nothing_reads none)

theorem flow_members_reads (holds : α → Prop) (closing : Token) (member : Reader α) (reads : Reads holds member)
    (fuel : Nat) : Reads (fun found => ∀ a ∈ found, holds a) (flowMembers closing member fuel) := by
  have none : Reads (fun found : List α => ∀ a ∈ found, holds a) (pure []) :=
    reads_pure _ _ (List.forall_mem_nil _)
  have last : Reads (fun found : Option α => ∀ a ∈ found, holds a) (pure .none) :=
    reads_pure _ _ fun _ member => (Option.not_mem_none _ member).elim
  refine reads_next _ _ _ (keeps_accept closing) fun _ => reads_if _ _ _ _ none ?_
  refine reads_bind _ _ _ _ reads fun first held => reads_bind _ _ _ _ (many_reads holds _ ?_ fuel) fun others later =>
    reads_pure _ _ (List.forall_mem_cons.mpr ⟨held, later⟩)
  refine reads_next _ _ _ (keeps_accept closing) fun _ => reads_if _ _ _ _ last ?_
  refine reads_next _ _ _ (keeps_expect .flowEntry) fun _ => reads_next _ _ _ (keeps_accept closing) fun _ =>
    reads_if _ _ _ _ last ?_
  exact reads_map _ _ _ _ reads fun a held b same => Option.some.inj same ▸ held

include each

theorem block_item_reads : Reads (fun found => ∀ a ∈ found, a.Machine) (blockItem node) := by
  refine reads_next _ _ _ (keeps_accept .blockEntry) fun _ => reads_if _ _ _ _ ?_ ?_
  · exact reads_map _ _ _ _ (node_unless_reads _ _ (each true false)) fun a held b same => Option.some.inj same ▸ held
  · exact reads_next _ _ _ (keeps_expect .blockEnd) fun _ => reads_pure _ _ fun _ none => (Option.not_mem_none _ none).elim

theorem indentless_item_reads : Reads (fun found => ∀ a ∈ found, a.Machine) (indentlessItem node) := by
  refine reads_next _ _ _ (keeps_accept .blockEntry) fun _ => reads_if _ _ _ _ ?_ ?_
  · exact reads_map _ _ _ _ (node_unless_reads _ _ (each true false)) fun a held b same => Option.some.inj same ▸ held
  · exact reads_pure _ _ fun _ none => (Option.not_mem_none _ none).elim

theorem block_field_reads : Reads (fun found => ∀ entry ∈ found, entry.2.Machine) (blockField node) := by
  refine reads_next _ _ _ (keeps_accept .key) fun _ => reads_if _ _ _ _ ?_ ?_
  · refine reads_bind _ _ _ _ (node_unless_reads _ _ (each true true)) fun key _ =>
      reads_bind _ _ _ _ (value_unless_reads _ _ (each true true)) fun value held => ?_
    exact reads_pure _ _ fun entry same => Option.some.inj same ▸ held
  · exact reads_next _ _ _ (keeps_expect .blockEnd) fun _ => reads_pure _ _ fun _ none => (Option.not_mem_none _ none).elim

theorem flow_pair_reads : Reads Node.Machine (flowPair node) := by
  have paired (key : Node) : Reads Node.Machine (valueUnless [.flowEntry, .flowListEnd] (node false false) >>= fun value =>
      record none [(key, value)]) :=
    reads_bind _ _ _ _ (value_unless_reads _ _ (each false false)) fun value held =>
      record_reads none _ (List.forall_mem_singleton.mpr held)
  refine reads_next _ _ _ (keeps_at_any _) fun _ => reads_if _ _ _ _ ?_ ?_
  · exact reads_next _ _ _ keeps_skip fun _ => reads_bind _ _ _ _ (nothing_reads none) fun key _ => paired key
  · exact reads_bind _ _ _ _ (each false false) fun key _ => paired key

theorem flow_item_reads : Reads Node.Machine (flowItem node) :=
  reads_next _ _ _ (keeps_accept .key) fun _ => reads_if _ _ _ _ (flow_pair_reads each) (each false false)

theorem flow_field_reads : Reads (fun entry => entry.2.Machine) (flowField node) := by
  refine reads_next _ _ _ (keeps_accept .key) fun _ => reads_if _ _ _ _ ?_ ?_
  · exact reads_bind _ _ _ _ (node_unless_reads _ _ (each false false)) fun key _ =>
      reads_bind _ _ _ _ (value_unless_reads _ _ (each false false)) fun value held => reads_pure _ _ held
  · exact reads_bind _ _ _ _ (each false false) fun key _ =>
      reads_bind _ _ _ _ (nothing_reads none) fun value held => reads_pure _ _ held

theorem content_reads (fuel : Nat) (block indentless marked : Bool) (tag : Option String) :
    Reads Node.Machine (content node fuel block indentless marked tag) := by
  have other : Reads Node.Machine (if marked then nothing tag else failure) :=
    reads_if _ _ _ _ (nothing_reads tag) (reads_failure _)
  refine reads_next _ _ _ keeps_peek fun token => ?_
  split
  · refine reads_if _ _ _ _ ?_ other
    exact reads_bind _ _ _ _ (many_reads _ _ (indentless_item_reads each) fuel) fun items held => list_reads tag items held
  · exact reads_next _ _ _ keeps_skip fun _ => reads_next _ _ _ (keeps_grow 1) fun _ =>
      reads_pure _ _ (.scalar (scalar_machine _ _ _))
  · exact reads_next _ _ _ keeps_skip fun _ =>
      reads_bind _ _ _ _ (flow_members_reads _ .flowListEnd _ (flow_item_reads each) fuel) fun items held =>
        list_reads tag items held
  · exact reads_next _ _ _ keeps_skip fun _ =>
      reads_bind _ _ _ _ (flow_members_reads _ .flowRecordEnd _ (flow_field_reads each) fuel) fun entries held =>
        record_reads tag entries held
  · refine reads_if _ _ _ _ (reads_next _ _ _ keeps_skip fun _ => ?_) other
    exact reads_bind _ _ _ _ (many_reads _ _ (block_item_reads each) fuel) fun items held => list_reads tag items held
  · refine reads_if _ _ _ _ (reads_next _ _ _ keeps_skip fun _ => ?_) other
    exact reads_bind _ _ _ _ (many_reads _ _ (block_field_reads each) fuel) fun entries held => record_reads tag entries held
  · exact other

end

theorem node_reads (fuel : Nat) (block indentless : Bool) : Reads Node.Machine (node fuel block indentless) := by
  induction fuel generalizing block indentless with
  | zero => exact reads_failure _
  | succ fuel ih =>
      refine reads_next _ _ _ keeps_peek fun token => ?_
      split
      · exact reads_next _ _ _ keeps_skip fun _ => alias_reads _
      · exact reads_next _ _ _ keeps_properties fun marks => anchored_reads _ _ (content_reads ih fuel block indentless _ _)

theorem keeps_directive (versioned : Bool) : Keeps (directive versioned) := by
  refine reads_next _ _ _ keeps_peek fun token => ?_
  split
  · exact reads_if _ _ _ _ (reads_failure _) (reads_next _ _ _ keeps_skip fun _ => keeps_pure _)
  · refine reads_next _ _ _ keeps_get fun r => reads_if _ _ _ _ (reads_failure _) ?_
    exact reads_next _ _ _ keeps_skip fun _ => reads_next _ _ _ (keeps_modify _ fun _ => rfl) fun _ => keeps_pure _
  · exact keeps_pure _

theorem keeps_directives (versioned : Bool) (fuel : Nat) : Keeps (directives versioned fuel) := by
  induction fuel generalizing versioned with
  | zero => exact reads_failure _
  | succ fuel ih =>
      refine reads_next _ _ _ (keeps_directive versioned) fun found => ?_
      cases found with
      | some versioned => exact ih versioned
      | none => exact keeps_pure _

theorem document_reads (fuel : Nat) : Reads Node.Machine (document fuel) := by
  refine reads_next _ _ _ keeps_peek fun token => ?_
  split
  · exact nothing_reads none
  · refine reads_if _ _ _ _ ?_ (node_reads fuel true false)
    refine reads_next _ _ _ (keeps_directives false fuel) fun _ => reads_next _ _ _ (keeps_expect .documentStart) fun _ =>
      reads_next _ _ _ keeps_peek fun token => ?_
    split
    · exact nothing_reads none
    · exact nothing_reads none
    · exact nothing_reads none
    · exact reads_if _ _ _ _ (nothing_reads none) (node_reads fuel true false)

end Reader

theorem read_machine (text : String) (source : Source) (read : read? text = some source) : source.Machine := by
  obtain ⟨tokens, _, rest⟩ := Option.bind_eq_some_iff.mp read
  obtain ⟨⟨root, r⟩, done, ended⟩ := Option.bind_eq_some_iff.mp rest
  obtain ⟨machine, anchors⟩ := Reader.document_reads (tokens.length + 1) { tokens } root r done
    (List.forall_mem_nil _)
  dsimp only at ended
  split at ended
  · exact Option.some.inj ended ▸ ⟨machine, anchors⟩
  · cases ended

end Yaml

end Data

end ApiBindings
