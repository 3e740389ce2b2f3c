import ApiBindings.Proofs.Data.Dictionary
import ApiBindings.Proofs.Data.Numbers
set_option autoImplicit false

namespace ApiBindings.Data.Decoder

open ApiBindings.Number (Double)

variable {α β : Type}

def Gives (holds : α → Prop) (decode : Decoder α) : Prop :=
  ∀ anchors : List (Nat × Node), (∀ entry ∈ anchors, entry.2.Machine) →
    ∀ jumps a left, decode anchors jumps = some (a, left) → holds a

theorem gives_pure (holds : α → Prop) (a : α) (held : holds a) : Gives holds (pure a) := by
  intro anchors _ jumps b left done
  obtain ⟨rfl, _⟩ := Prod.mk.inj (Option.some.inj done)
  exact held

theorem gives_failure (holds : α → Prop) : Gives holds failure := fun _ _ _ _ _ done => by cases done

theorem gives_bind (first : α → Prop) (holds : β → Prop) (decode : Decoder α) (next : α → Decoder β)
    (start : Gives first decode) (kept : ∀ a, first a → Gives holds (next a)) : Gives holds (decode >>= next) := by
  intro anchors machine jumps b left done
  obtain ⟨⟨a, middle⟩, given, rest⟩ := Option.bind_eq_some_iff.mp done
  exact kept a (start anchors machine jumps a middle given) anchors machine middle b left rest

theorem gives_next (holds : β → Prop) (decode : Decoder α) (next : α → Decoder β) (kept : ∀ a, Gives holds (next a)) :
    Gives holds (decode >>= next) :=
  gives_bind (fun _ => True) holds decode next (fun _ _ _ _ _ _ => trivial) fun a _ => kept a

theorem gives_map (first : α → Prop) (holds : β → Prop) (f : α → β) (decode : Decoder α) (start : Gives first decode)
    (kept : ∀ a, first a → holds (f a)) : Gives holds (f <$> decode) := by
  rw [map_eq_pure_bind]
  exact gives_bind first holds decode _ start fun a held => gives_pure holds (f a) (kept a held)

theorem gives_weaker (first holds : α → Prop) (decode : Decoder α) (start : Gives first decode)
    (kept : ∀ a, first a → holds a) : Gives holds decode :=
  fun anchors machine jumps a left done => kept a (start anchors machine jumps a left done)

theorem gives_either (holds : α → Prop) (first second : Decoder α) (one : Gives holds first) (other : Gives holds second) :
    Gives holds (first <|> second) := by
  intro anchors machine jumps a left done
  change (first anchors jumps).orElse (fun _ => second anchors jumps) = some (a, left) at done
  cases given : first anchors jumps with
  | some found =>
      rw [given] at done
      exact one anchors machine jumps a left (given.trans done)
  | none =>
      rw [given] at done
      exact other anchors machine jumps a left done

theorem gives_list {γ : Type} (fits : γ → Prop) (holds : β → Prop) (decode : γ → Decoder β)
    (each : ∀ a, fits a → Gives holds (decode a)) (items : List γ) (all : ∀ a ∈ items, fits a) :
    Gives (fun decoded => ∀ b ∈ decoded, holds b) (items.mapM decode) := by
  induction items with
  | nil => exact gives_pure _ [] (List.forall_mem_nil _)
  | cons item rest ih =>
      obtain ⟨own, others⟩ := List.forall_mem_cons.mp all
      rw [List.mapM_cons]
      refine gives_bind holds _ _ _ (each item own) fun b first => gives_bind _ _ _ _ (ih others) fun more later => ?_
      exact gives_pure _ _ (List.forall_mem_cons.mpr ⟨first, later⟩)

theorem gives_fold {γ : Type} (holds : β → Prop) (items : List γ) (step : β → γ → Decoder β)
    (kept : ∀ b, ∀ item ∈ items, holds b → Gives holds (step b item)) (start : β) (held : holds start) :
    Gives holds (items.foldlM step start) := by
  induction items generalizing start with
  | nil => exact gives_pure _ start held
  | cons item rest ih =>
      rw [List.foldlM_cons]
      refine gives_bind _ _ _ _ (kept start item List.mem_cons_self held) fun b next => ?_
      exact ih (fun c other member => kept c other (List.mem_cons_of_mem _ member)) b next

theorem target_gives (node : Node) (machine : node.Machine) : Gives Node.Machine (target node) := by
  intro anchors known jumps found left done
  cases node with
  | scalar | list | record => exact (Prod.mk.inj (Option.some.inj done)).1 ▸ machine
  | «alias» anchor =>
      change follow anchor anchors jumps = some (found, left) at done
      unfold follow at done
      split at done
      next node located =>
        obtain ⟨rfl, _⟩ := Prod.mk.inj (Option.some.inj done)
        exact known _ (lookup_mem anchor node anchors located)
      next => cases done

theorem scalar_gives (holds : α → Prop) (f : Scalar → Option α) (each : ∀ s : Scalar, s.Machine → ∀ a ∈ f s, holds a)
    (node : Node) (machine : node.Machine) : Gives holds (scalar f node) := by
  refine gives_bind _ _ _ _ (target_gives node machine) fun node own => ?_
  cases own with
  | @scalar s own =>
      intro anchors _ jumps a left done
      obtain ⟨found, given, same⟩ := Option.bind_eq_some_iff.mp done
      obtain ⟨rfl, _⟩ := Prod.mk.inj (Option.some.inj same)
      exact each s own found given
  | list | record | «alias» => exact gives_failure _

theorem double_gives (node : Node) (machine : node.Machine) : Gives Double.Valid (double node) :=
  scalar_gives _ _ (fun _ own => own.double) node machine

theorem natural_gives (node : Node) (machine : node.Machine) : Gives (· < naturalLimit) (natural node) :=
  scalar_gives _ _ (fun _ own => own.natural) node machine

theorem atom_gives (node : Node) (machine : node.Machine) : Gives Atom.Machine (atom node) :=
  scalar_gives _ _ (fun _ own => own.atom) node machine

theorem settle_scalar_gives (s : Scalar) (machine : s.Machine) : Gives Node.Machine (settleScalar s) := by
  intro anchors _ jumps node left done
  obtain ⟨⟨atom, _⟩, read, same⟩ := Option.bind_eq_some_iff.mp done
  obtain ⟨found, given, same'⟩ := Option.bind_eq_some_iff.mp read
  obtain ⟨rfl, _⟩ := Prod.mk.inj (Option.some.inj same')
  obtain ⟨rfl, _⟩ := Prod.mk.inj (Option.some.inj same)
  exact .scalar (of_atom_machine found (machine.atom found given))

theorem settle_gives (depth : Nat) (node : Node) (machine : node.Machine) : Gives Node.Machine (settle depth node) := by
  induction depth generalizing node with
  | zero =>
      refine gives_bind _ _ _ _ (target_gives node machine) fun node own => ?_
      cases own with
      | scalar own => exact settle_scalar_gives _ own
      | list | record | «alias» => exact gives_failure _
  | succ depth ih =>
      refine gives_bind _ _ _ _ (target_gives node machine) fun node own => ?_
      cases own with
      | scalar own => exact settle_scalar_gives _ own
      | @list labelled _ items =>
          cases labelled with
          | true => exact gives_failure _
          | false => exact gives_bind _ _ _ _ (gives_list _ _ _ ih _ items) fun found held => gives_pure _ _ (.list held)
      | @record labelled _ entries =>
          cases labelled with
          | true => exact gives_failure _
          | false =>
              refine gives_bind _ _ _ _ (gives_list (fun entry : Node × Node => entry.2.Machine)
                (fun entry : Node × Node => entry.2.Machine) _ (fun entry own => ?_) _ entries) fun found held =>
                gives_pure _ _ (.record held)
              refine gives_next _ _ _ fun key => ?_
              exact gives_bind _ _ _ _ (ih entry.2 own) fun value held => gives_pure _ _ held
      | «alias» => exact gives_failure _

section

variable (holds : α → Prop) (decode : Node → Decoder α) (each : ∀ node, node.Machine → Gives holds (decode node))
include each

theorem optional_gives (node : Node) (machine : node.Machine) :
    Gives (fun found => ∀ a ∈ found, holds a) (Decoder.optional decode node) := by
  refine gives_bind _ _ _ _ (target_gives node machine) fun node own => ?_
  split
  · exact gives_failure _
  · exact gives_pure _ _ fun _ none => (Option.not_mem_none _ none).elim
  · exact gives_map _ _ _ _ (each node own) fun a held b same => Option.some.inj same ▸ held

theorem list_gives (depth : Nat) (node : Node) (machine : node.Machine) :
    Gives (fun found => ∀ a ∈ found, holds a) (Decoder.list depth decode node) := by
  refine gives_bind _ _ _ _ (target_gives node machine) fun node own => ?_
  cases own with
  | list items =>
      dsimp only
      split
      · exact gives_failure _
      · exact gives_list Node.Machine holds decode each _ items
  | scalar =>
      dsimp only
      split
      · exact gives_pure _ _ (List.forall_mem_nil _)
      · exact gives_failure _
  | record | «alias» => exact gives_failure _

theorem dictionary_gives (depth : Nat) (node : Node) (machine : node.Machine) :
    Gives (fun found => Ordered found ∧ ∀ entry ∈ found, holds entry.2) (Decoder.dictionary depth decode node) := by
  refine gives_bind _ _ _ _ (target_gives node machine) fun node own => ?_
  cases own with
  | record entries =>
      dsimp only
      split
      · exact gives_failure _
      · refine gives_map (fun pairs : List (String × α) => ∀ pair ∈ pairs, holds pair.2) _ _ _ ?_ fun pairs held => ?_
        · refine gives_list (fun entry : Node × Node => entry.2.Machine) (fun pair : String × α => holds pair.2) _
            (fun entry own => ?_) _ entries
          refine gives_next _ _ _ fun key => ?_
          exact gives_bind holds _ _ _ (each entry.2 own) fun value held => gives_pure _ _ held
        · obtain ⟨ordered, known⟩ := dictionary_ordered pairs
          exact ⟨ordered, fun entry member => held entry (known entry member)⟩
  | scalar =>
      dsimp only
      split
      · exact gives_pure _ _ ⟨List.Pairwise.nil, List.forall_mem_nil _⟩
      · exact gives_failure _
  | list | «alias» => exact gives_failure _

end

def Fields.Machine (f : Fields) : Prop := ∀ entry ∈ f.values, entry.2.Machine

theorem collect_gives (known : List String) (entries : List (Node × Node)) (machine : ∀ entry ∈ entries, entry.2.Machine) :
    Gives (fun found => ∀ entry ∈ found, entry.2.Machine) (collect known entries) := by
  refine gives_fold _ _ _ (fun found entry member held => ?_) [] (List.forall_mem_nil _)
  refine gives_next _ _ _ fun name => ?_
  cases name with
  | none => exact gives_pure _ _ held
  | some name =>
      dsimp only
      split
      · exact gives_pure _ _ held
      · split
        · exact gives_failure _
        · exact gives_pure _ _ (List.forall_mem_cons.mpr ⟨machine entry member, held⟩)

theorem fields_gives (depth : Nat) (known : List String) (node : Node) (machine : node.Machine) :
    Gives Fields.Machine (fields depth known node) := by
  refine gives_bind _ _ _ _ (target_gives node machine) fun node own => ?_
  cases own with
  | record entries =>
      dsimp only
      split
      · exact gives_failure _
      · exact gives_bind _ _ _ _ (collect_gives known _ entries) fun found held => gives_pure _ _ held
  | list items =>
      dsimp only
      split
      · exact gives_failure _
      · exact gives_pure _ _ fun entry member => items _ (List.of_mem_zip member).2
  | scalar =>
      dsimp only
      split
      · exact gives_pure _ _ (List.forall_mem_nil _)
      · exact gives_failure _
  | «alias» => exact gives_failure _

namespace Fields

variable (holds : α → Prop) (f : Fields) (machine : f.Machine) (decode : Node → Decoder α)
  (each : ∀ node, node.Machine → Gives holds (decode node))
include machine each

theorem optional_gives (key : String) : Gives (fun found => ∀ a ∈ found, holds a) (f.optional key decode) := by
  unfold optional
  split
  next node found => exact Decoder.optional_gives holds decode each node (machine _ (lookup_mem _ _ _ found))
  next =>
    split
    · exact gives_failure _
    · exact gives_pure _ _ fun _ none => (Option.not_mem_none _ none).elim

theorem defaulted_gives (key : String) (otherwise : α) (held : holds otherwise) :
    Gives holds (f.defaulted key otherwise decode) := by
  unfold defaulted
  split
  next node found => exact each node (machine _ (lookup_mem _ _ _ found))
  next => exact gives_pure _ _ held

end Fields

end ApiBindings.Data.Decoder
