import ApiBindings.Proofs.Layout.Scan
set_option autoImplicit false

namespace ApiBindings.Layout

inductive Piece where
  | code (c : Char)
  | lineComment (text : List Char)
  | blockComment (text : List Char)
  | raw (text : List Char)
  | literal (quote : Char) (text : List Char)
deriving DecidableEq, Repr

namespace Piece

def chars : Piece → List Char
  | code c => [c]
  | lineComment text => '/' :: '/' :: text ++ ['\n']
  | blockComment text => '/' :: '*' :: text ++ ['*', '/']
  | raw text => '\x60' :: text ++ ['\x60']
  | literal quote text => quote :: text ++ [quote]

def isBracket : Piece → Bool
  | code c => isOpening c || (opening? c).isSome
  | _ => false

end Piece

def Piece.Whole (rest : List Char) : Piece → Prop
  | code c => isQuote c = false ∧ c ≠ '\x60' ∧ (c = '/' → rest.head? ≠ some '/' ∧ rest.head? ≠ some '*')
  | lineComment text => '\n' ∉ text
  | blockComment text => ¬ ['*', '/'] <:+: text
  | raw text => '\x60' ∉ text
  | literal quote text => isQuote quote = true ∧ Inside quote text

inductive Splits : List Char → List Piece → List Char → Prop where
  | none {rest : List Char} : Splits rest [] rest
  | piece {first : Piece} {after rest : List Char} {pieces : List Piece} (whole : first.Whole after)
      (more : Splits after pieces rest) : Splits (first.chars ++ after) (first :: pieces) rest

inductive Nested : List Piece → Prop where
  | none : Nested []
  | other {piece : Piece} {rest : List Piece} (plain : piece.isBracket = false) (more : Nested rest) : Nested (piece :: rest)
  | pair {opening closing : Char} {inside rest : List Piece} (closes : opening? closing = some opening)
      (nested : Nested inside) (more : Nested rest) : Nested (.code opening :: (inside ++ .code closing :: rest))

-- Pieces that leave brackets open, innermost first; each stands with what is before it.
inductive Begun : List (List Piece × Char) → List Piece → Prop where
  | nested {pieces : List Piece} (nested : Nested pieces) : Begun [] pieces
  | opening {opened : List (List Piece × Char)} {before inside : List Piece} {opening : Char} (begun : Begun opened before)
      (opens : isOpening opening = true) (nested : Nested inside) :
      Begun ((before, opening) :: opened) (before ++ .code opening :: inside)

def Closed (rest : List Char) : Prop := rest = [] ∨ ∃ text, '\n' ∉ text ∧ rest = '/' :: '/' :: text

-- A piece that begins in a region and that the end of the text leaves open.
inductive Unfinished : Region → List Char → Prop where
  | blockComment {text : List Char} (inside : ¬ ['*', '/'] <:+: text) : Unfinished .blockComment ('/' :: '*' :: text)
  | raw {text : List Char} (inside : '\x60' ∉ text) : Unfinished .raw ('\x60' :: text)
  | literal {quote : Char} {text : List Char} (opens : isQuote quote = true) (inside : Inside quote text) :
      Unfinished (literalRegion quote) (quote :: text)
  | backslash {quote : Char} {text : List Char} (opens : isQuote quote = true) (inside : Inside quote text) :
      Unfinished (literalRegion quote) (quote :: text ++ ['\\'])

def Broken (rest : List Char) : Prop :=
  ∃ quote text after, isQuote quote = true ∧ Inside quote text ∧ rest = quote :: text ++ '\n' :: after

theorem splits_parts (text rest : List Char) (first last : List Piece) (splits : Splits text (first ++ last) rest) :
    ∃ middle, Splits text first middle ∧ Splits middle last rest := by
  induction first generalizing text with
  | nil => exact ⟨text, .none, splits⟩
  | cons piece others ih =>
      cases splits with
      | piece whole more =>
          obtain ⟨middle, before, after⟩ := ih _ more
          exact ⟨middle, .piece whole before, after⟩

theorem nested_append (first last : List Piece) (before : Nested first) (after : Nested last) : Nested (first ++ last) := by
  induction before with
  | none => exact after
  | other plain _ ih => exact .other plain ih
  | pair closes nested _ _ ih =>
      rw [List.cons_append, List.append_assoc, List.cons_append]
      exact .pair closes nested ih

theorem begun_append (opened : List (List Piece × Char)) (first last : List Piece) (begun : Begun opened first)
    (nested : Nested last) : Begun opened (first ++ last) := by
  cases begun with
  | nested before => exact .nested (nested_append first last before nested)
  | opening begun opens inside =>
      rw [List.append_assoc, List.cons_append]
      exact .opening begun opens (nested_append _ _ inside nested)

def bracket? (before : List Piece) (opened : List (List Piece × Char)) : Piece → Option (List (List Piece × Char))
  | .code c =>
    if isOpening c then some ((before, c) :: opened)
    else match opening? c with
      | none => some opened
      | some expected =>
        match opened with
        | [] => none
        | (_, opening) :: outer => if opening = expected then some outer else none
  | _ => some opened

def brackets? (before : List Piece) (opened : List (List Piece × Char)) : List Piece → Option (List (List Piece × Char))
  | [] => some opened
  | piece :: rest => (bracket? before opened piece).bind fun opened => brackets? (before ++ [piece]) opened rest

theorem opening_other (c opening : Char) (closes : opening? c = some opening) : isOpening c = false := by
  rcases closing_kinds c opening closes with ⟨rfl, _⟩ | ⟨rfl, _⟩ | ⟨rfl, _⟩ <;> rfl

theorem opening_opens (c opening : Char) (closes : opening? c = some opening) : isOpening opening = true := by
  rcases closing_kinds c opening closes with ⟨_, rfl⟩ | ⟨_, rfl⟩ | ⟨_, rfl⟩ <;> rfl

theorem bracket_plain (before : List Piece) (opened : List (List Piece × Char)) (piece : Piece)
    (plain : piece.isBracket = false) : bracket? before opened piece = some opened := by
  cases piece with
  | code c =>
      obtain ⟨opens, closes⟩ := Bool.or_eq_false_iff.mp plain
      rw [bracket?, if_neg (Bool.eq_false_iff.mp opens), Option.isNone_iff_eq_none.mp (Option.isSome_eq_false_iff.mp closes)]
  | _ => rfl

theorem brackets_append (before first last : List Piece) (opened : List (List Piece × Char)) :
    brackets? before opened (first ++ last) =
      (brackets? before opened first).bind fun middle => brackets? (before ++ first) middle last := by
  induction first generalizing before opened with
  | nil => rw [List.append_nil]; rfl
  | cons piece others ih =>
      rw [List.cons_append, brackets?, brackets?, Option.bind_assoc]
      refine congrArg (Option.bind _) (funext fun middle => ?_)
      rw [ih, List.append_assoc, List.singleton_append]

theorem nested_brackets (pieces : List Piece) (nested : Nested pieces) (before : List Piece)
    (opened : List (List Piece × Char)) : brackets? before opened pieces = some opened := by
  induction nested generalizing before opened with
  | none => rfl
  | other plain _ ih =>
      rw [brackets?, bracket_plain _ _ _ plain]
      exact ih _ opened
  | @pair opening closing inside rest closes _ _ ih more =>
      have opens : bracket? before opened (.code opening) = some ((before, opening) :: opened) :=
        if_pos (opening_opens closing opening closes)
      have closed (front : List Piece) : bracket? front ((before, opening) :: opened) (.code closing) = some opened := by
        rw [bracket?, opening_other closing opening closes, if_neg Bool.false_ne_true, closes]
        exact if_pos rfl
      rw [brackets?, opens, Option.bind_some, brackets_append, ih, Option.bind_some, brackets?, closed, Option.bind_some, more]

theorem begun_brackets (pieces : List Piece) (opened : List (List Piece × Char)) (begun : Begun opened pieces) :
    brackets? [] [] pieces = some opened := by
  induction begun with
  | nested nested => exact nested_brackets _ nested [] []
  | @opening opened before inside opening _ opens nested ih =>
      have entered : bracket? before opened (.code opening) = some ((before, opening) :: opened) := if_pos opens
      rw [brackets_append, ih, Option.bind_some, brackets?, List.nil_append, entered, Option.bind_some]
      exact nested_brackets inside nested _ _

theorem bracket_begun (before : List Piece) (opened after : List (List Piece × Char)) (piece : Piece)
    (begun : Begun opened before) (step : bracket? before opened piece = some after) : Begun after (before ++ [piece]) := by
  by_cases plain : piece.isBracket = false
  · rw [bracket_plain before opened piece plain] at step
    obtain rfl := Option.some.inj step
    exact begun_append opened before [piece] begun (.other plain .none)
  · cases piece with
    | code c =>
        rw [bracket?] at step
        split at step
        next opens =>
          obtain rfl := Option.some.inj step
          exact .opening begun opens .none
        next closing =>
          split at step
          next unclosing => simp [Piece.isBracket, unclosing, closing] at plain
          next expected closes =>
            split at step
            next => cases step
            next front opening outer =>
              split at step
              next same =>
                subst same
                obtain rfl := Option.some.inj step
                cases begun with
                | @opening _ _ inside _ outside _ nested =>
                    rw [List.append_assoc, List.cons_append]
                    exact begun_append outer front _ outside (.pair closes nested .none)
              next => cases step
    | _ => exact absurd rfl plain

theorem brackets_begun (before pieces : List Piece) (opened after : List (List Piece × Char)) (begun : Begun opened before)
    (steps : brackets? before opened pieces = some after) : Begun after (before ++ pieces) := by
  induction pieces generalizing before opened with
  | nil =>
      obtain rfl := Option.some.inj steps
      rwa [List.append_nil]
  | cons piece rest ih =>
      obtain ⟨middle, step, later⟩ := Option.bind_eq_some_iff.mp steps
      have whole := ih (before ++ [piece]) middle (bracket_begun before opened middle piece begun step) later
      rwa [List.append_assoc, List.singleton_append] at whole

theorem bracket_refused (before : List Piece) (opened : List (List Piece × Char)) (c : Char)
    (stuck : bracket? before opened (.code c) = none) :
    (opening? c).isSome = true ∧
      (opened = [] ∨ ∃ front opening outer, opened = (front, opening) :: outer ∧ opening? c ≠ some opening) := by
  rw [bracket?] at stuck
  by_cases opens : isOpening c = true
  · cases (if_pos opens).symm.trans stuck
  · rw [if_neg opens] at stuck
    cases closes : opening? c with
    | none =>
        rw [closes] at stuck
        cases stuck
    | some expected =>
        rw [closes] at stuck
        refine ⟨rfl, ?_⟩
        cases opened with
        | nil => exact Or.inl rfl
        | cons entry outer =>
            refine Or.inr ⟨entry.1, entry.2, outer, rfl, fun same => ?_⟩
            cases (if_pos (Option.some.inj same).symm).symm.trans stuck

theorem brackets_refused (before pieces : List Piece) (opened : List (List Piece × Char))
    (refused : brackets? before opened pieces = none) :
    ∃ front c rest middle, pieces = front ++ .code c :: rest ∧ brackets? before opened front = some middle ∧
      bracket? (before ++ front) middle (.code c) = none := by
  induction pieces generalizing before opened with
  | nil => cases refused
  | cons piece rest ih =>
      rw [brackets?] at refused
      cases step : bracket? before opened piece with
      | none =>
          cases piece with
          | code c => exact ⟨[], c, rest, opened, rfl, rfl, by rwa [List.append_nil]⟩
          | _ => cases step
      | some middle =>
          rw [step, Option.bind_some] at refused
          obtain ⟨front, c, others, last, parts, steps, stuck⟩ := ih (before ++ [piece]) middle refused
          refine ⟨piece :: front, c, others, last, congrArg _ parts, ?_, ?_⟩
          · rw [brackets?, step, Option.bind_some, steps]
          · rwa [List.append_assoc, List.singleton_append] at stuck

theorem comment_closed (text : List Char) (closed : ['*', '/'] <:+: text) :
    ∃ comment rest, text = comment ++ '*' :: '/' :: rest ∧ ¬ ['*', '/'] <:+: comment := by
  induction text with
  | nil => exact absurd closed (by decide)
  | cons c others ih =>
      by_cases front : ['*', '/'] <+: c :: others
      · obtain ⟨rest, same⟩ := front
        exact ⟨[], rest, same.symm, by decide⟩
      · obtain ⟨comment, rest, same, first⟩ := ih ((List.infix_cons_iff.mp closed).resolve_left front)
        have begins : c :: comment <+: c :: others := by
          rw [same]
          exact List.prefix_append (c :: comment) _
        refine ⟨c :: comment, rest, congrArg _ same, fun found => ?_⟩
        exact (List.infix_cons_iff.mp found).elim (fun early => front (early.trans begins)) first

theorem literal_ends (quote : Char) (text : List Char) :
    ∃ inside rest, text = inside ++ rest ∧ Inside quote inside ∧
      (rest = [] ∨ rest = ['\\'] ∨ (∃ after, rest = quote :: after) ∨ ∃ after, rest = '\n' :: after) := by
  match text with
  | [] => exact ⟨[], [], rfl, .none, Or.inl rfl⟩
  | c :: others =>
      by_cases closing : c = quote
      · exact ⟨[], c :: others, rfl, .none, Or.inr (Or.inr (Or.inl ⟨others, congrArg (· :: others) closing⟩))⟩
      by_cases feed : c = '\n'
      · exact ⟨[], c :: others, rfl, .none, Or.inr (Or.inr (Or.inr ⟨others, congrArg (· :: others) feed⟩))⟩
      by_cases backslash : c = '\\'
      · subst backslash
        cases others with
        | nil => exact ⟨[], ['\\'], rfl, .none, Or.inr (Or.inl rfl)⟩
        | cons d behind =>
            obtain ⟨inside, rest, same, more, ends⟩ := literal_ends quote behind
            exact ⟨'\\' :: d :: inside, rest, by rw [same]; rfl, .escaped more, ends⟩
      · obtain ⟨inside, rest, same, more, ends⟩ := literal_ends quote others
        exact ⟨c :: inside, rest, by rw [same]; rfl, .plain closing backslash feed more, ends⟩
termination_by text.length

def Ended (rest : List Char) : Prop := Closed rest ∨ (∃ region, Unfinished region rest) ∨ Broken rest

def Begins (text : List Char) : Prop := ∃ (piece : Piece) (after : List Char), text = piece.chars ++ after ∧ piece.Whole after

theorem literal_first (quote : Char) (text : List Char) (quotes : isQuote quote = true) :
    Ended (quote :: text) ∨ Begins (quote :: text) := by
  obtain ⟨inside, rest, rfl, literal, rfl | rfl | ⟨after, rfl⟩ | ⟨after, rfl⟩⟩ := literal_ends quote text
  · rw [List.append_nil]
    exact Or.inl (Or.inr (Or.inl ⟨_, .literal quotes literal⟩))
  · exact Or.inl (Or.inr (Or.inl ⟨_, .backslash quotes literal⟩))
  · exact Or.inr ⟨.literal quote inside, after, by simp [Piece.chars], quotes, literal⟩
  · exact Or.inl (Or.inr (Or.inr ⟨quote, inside, after, quotes, literal, rfl⟩))

theorem raw_first (text : List Char) :
    Ended ('\x60' :: text) ∨ Begins ('\x60' :: text) := by
  by_cases closed : '\x60' ∈ text
  · obtain ⟨inside, after, rfl, first⟩ := List.eq_append_cons_of_mem closed
    exact Or.inr ⟨.raw inside, after, by simp [Piece.chars], first⟩
  · exact Or.inl (Or.inr (Or.inl ⟨_, .raw closed⟩))

theorem line_comment_first (text : List Char) :
    Ended ('/' :: '/' :: text) ∨ Begins ('/' :: '/' :: text) := by
  by_cases closed : '\n' ∈ text
  · obtain ⟨inside, after, rfl, first⟩ := List.eq_append_cons_of_mem closed
    exact Or.inr ⟨.lineComment inside, after, by simp [Piece.chars], first⟩
  · exact Or.inl (Or.inl (Or.inr ⟨text, closed, rfl⟩))

theorem block_comment_first (text : List Char) :
    Ended ('/' :: '*' :: text) ∨ Begins ('/' :: '*' :: text) := by
  by_cases closed : ['*', '/'] <:+: text
  · obtain ⟨inside, after, rfl, first⟩ := comment_closed text closed
    exact Or.inr ⟨.blockComment inside, after, by simp [Piece.chars], first⟩
  · exact Or.inl (Or.inr (Or.inl ⟨_, .blockComment closed⟩))

theorem first_piece (text : List Char) : Ended text ∨ Begins text := by
  match text with
  | [] => exact Or.inl (Or.inl (Or.inl rfl))
  | c :: others =>
      by_cases quotes : isQuote c = true
      · exact literal_first c others quotes
      by_cases tick : c = '\x60'
      · rw [tick]
        exact raw_first others
      by_cases comment : c = '/' ∧ others.head? = some '/'
      · obtain ⟨behind, rfl⟩ := List.head?_eq_some_iff.mp comment.2
        rw [comment.1]
        exact line_comment_first behind
      by_cases block : c = '/' ∧ others.head? = some '*'
      · obtain ⟨behind, rfl⟩ := List.head?_eq_some_iff.mp block.2
        rw [block.1]
        exact block_comment_first behind
      · refine Or.inr ⟨.code c, others, rfl, Bool.eq_false_iff.mpr quotes, tick, fun slash => ?_⟩
        exact ⟨fun second => comment ⟨slash, second⟩, fun second => block ⟨slash, second⟩⟩

theorem chars_nonempty (piece : Piece) : 0 < piece.chars.length := by
  cases piece <;> exact Nat.succ_pos _

theorem text_splits (text : List Char) : ∃ pieces rest, Splits text pieces rest ∧ Ended rest := by
  rcases first_piece text with ended | ⟨piece, after, same, whole⟩
  · exact ⟨[], text, .none, ended⟩
  · have shorter : after.length < text.length := by
      rw [same, List.length_append]
      exact Nat.lt_add_of_pos_left (chars_nonempty piece)
    obtain ⟨pieces, rest, more, ended⟩ := text_splits after
    exact ⟨piece :: pieces, rest, same ▸ .piece whole more, ended⟩
termination_by text.length

end ApiBindings.Layout
