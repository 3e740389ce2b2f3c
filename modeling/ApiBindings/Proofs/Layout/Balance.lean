import ApiBindings.Proofs.Layout.Pieces
import Mathlib.Algebra.GroupWithZero.Nat
set_option autoImplicit false

namespace ApiBindings.Layout

def Piece.feeds : Piece → Nat
  | .literal _ _ => 0
  | piece => piece.chars.count '\n'

def Piece.passed : Piece → Nat
  | piece@(.literal _ _) => piece.chars.count '\n'
  | _ => 0

def lineAfter (pieces : List Piece) : Nat := 1 + (pieces.map Piece.feeds).sum

def lineBehind (front : List Char) : Nat := 1 + front.count '\n'

def passedFeeds (pieces : List Piece) : Nat := (pieces.map Piece.passed).sum

theorem line_after_passed (pieces : List Piece) :
    lineAfter pieces + passedFeeds pieces = lineBehind (pieces.flatMap Piece.chars) := by
  have parted (piece : Piece) : piece.chars.count '\n' = piece.feeds + piece.passed := by
    cases piece with
    | literal _ _ => exact (Nat.zero_add _).symm
    | _ => rfl
  rw [lineAfter, passedFeeds, lineBehind]
  induction pieces with
  | nil => rfl
  | cons piece rest ih =>
      rw [List.map_cons, List.map_cons, List.sum_cons, List.sum_cons, List.flatMap_cons, List.count_append, parted]
      omega

theorem line_after_snoc (pieces : List Piece) (piece : Piece) :
    lineAfter (pieces ++ [piece]) = lineAfter pieces + piece.feeds := by
  simp [lineAfter, Nat.add_assoc]

def openAt (opened : List (List Piece × Char)) : Open := opened.map fun entry => (entry.2, lineAfter entry.1)

inductive Faulty (text : List Char) : Imbalance → Prop where
  | unmatched {pieces : List Piece} {closing : Char} {rest : List Char} {line : Nat}
      (splits : Splits text pieces (closing :: rest)) (nested : Begun [] pieces) (closes : (opening? closing).isSome = true)
      (counted : line + passedFeeds pieces = lineBehind (pieces.flatMap Piece.chars)) :
      Faulty text (.unmatched closing line)
  | crossed {pieces before : List Piece} {outer : List (List Piece × Char)} {opening closing : Char} {rest : List Char}
      {line opened : Nat} (splits : Splits text pieces (closing :: rest)) (begun : Begun ((before, opening) :: outer) pieces)
      (closes : (opening? closing).isSome = true) (other : opening? closing ≠ some opening)
      (counted : line + passedFeeds pieces = lineBehind (pieces.flatMap Piece.chars))
      (opener : opened + passedFeeds before = lineBehind (before.flatMap Piece.chars)) :
      Faulty text (.crossed closing line opening opened)
  | unterminated {pieces : List Piece} {outer : List (List Piece × Char)} {rest : List Char} {line : Nat}
      (splits : Splits text pieces rest) (begun : Begun outer pieces) (broken : Broken rest)
      (counted : line + passedFeeds pieces = lineBehind (pieces.flatMap Piece.chars)) : Faulty text (.unterminated line)
  | unclosed {pieces before : List Piece} {outer : List (List Piece × Char)} {opening : Char} {rest : List Char}
      {opened : Nat} (splits : Splits text pieces rest) (closed : Closed rest)
      (begun : Begun ((before, opening) :: outer) pieces)
      (opener : opened + passedFeeds before = lineBehind (before.flatMap Piece.chars)) :
      Faulty text (.unclosed opening opened)
  | unfinished {pieces : List Piece} {outer : List (List Piece × Char)} {region : Region} {rest : List Char}
      (splits : Splits text pieces rest) (begun : Begun outer pieces) (unfinished : Unfinished region rest) :
      Faulty text (.unfinished region)

theorem code_char_read (before : List Piece) (opened after : List (List Piece × Char)) (c : Char)
    (quote : isQuote c = false) (tick : c ≠ '\x60') (step : bracket? before opened (.code c) = some after) :
    codeChar (openAt opened) (lineAfter before) c = .ok (openAt after, .code) := by
  obtain ⟨double, single⟩ : c ≠ '"' ∧ c ≠ '\'' := by simpa [isQuote] using quote
  rw [codeChar, if_neg double, if_neg tick, if_neg single]
  rw [bracket?] at step
  by_cases opens : isOpening c = true
  · rw [if_pos opens] at step ⊢
    obtain rfl := Option.some.inj step
    rfl
  · rw [if_neg opens] at step ⊢
    cases closes : opening? c with
    | none =>
        rw [closes] at step
        obtain rfl := Option.some.inj step
        rfl
    | some expected =>
        rw [closes] at step
        cases opened with
        | nil => cases step
        | cons entry outer =>
            by_cases same : entry.2 = expected
            · obtain rfl := Option.some.inj ((if_pos same).symm.trans step)
              exact if_pos same
            · cases (if_neg same).symm.trans step

theorem line_after_code (before : List Piece) (c : Char) :
    lineAfter (before ++ [.code c]) = if c = '\n' then lineAfter before + 1 else lineAfter before := by
  rw [line_after_snoc]
  by_cases feed : c = '\n'
  · rw [if_pos feed, feed]
    rfl
  · have uncounted : (Piece.code c).feeds = 0 := by simp [Piece.feeds, Piece.chars, feed]
    rw [if_neg feed, uncounted]
    rfl

theorem scan_code_piece (before : List Piece) (opened after : List (List Piece × Char)) (c : Char) (rest : List Char)
    (whole : (Piece.code c).Whole rest) (step : bracket? before opened (.code c) = some after) :
    scan (openAt opened) .code (lineAfter before) (c :: rest) =
      scan (openAt after) .code (lineAfter (before ++ [.code c])) rest := by
  rw [line_after_code]
  refine scan_code _ _ _ .code c rest whole.2.2 ?_
  by_cases feed : c = '\n'
  · subst feed
    obtain rfl := Option.some.inj step
    rfl
  · rw [if_neg feed]
    exact code_char_read before opened after c whole.1 whole.2.1 step

theorem scan_piece (before : List Piece) (opened after : List (List Piece × Char)) (piece : Piece) (rest : List Char)
    (whole : piece.Whole rest) (step : bracket? before opened piece = some after) :
    scan (openAt opened) .code (lineAfter before) (piece.chars ++ rest) =
      scan (openAt after) .code (lineAfter (before ++ [piece])) rest := by
  cases piece with
  | code c =>
      rw [Piece.chars, List.singleton_append]
      exact scan_code_piece before opened after c rest whole step
  | lineComment text =>
      obtain rfl := Option.some.inj step
      have counted : (Piece.lineComment text).feeds = 1 := by
        simp [Piece.feeds, Piece.chars, List.count_eq_zero.mpr whole]
      have parts : (Piece.lineComment text).chars ++ rest = '/' :: '/' :: (text ++ '\n' :: rest) := by simp [Piece.chars]
      rw [line_after_snoc, counted, parts, scan_line_begun, scan_line_text _ _ text _ whole, scan_line_ended]
  | blockComment text =>
      obtain rfl := Option.some.inj step
      have counted : (Piece.blockComment text).feeds = text.count '\n' := by simp [Piece.feeds, Piece.chars]
      have parts : (Piece.blockComment text).chars ++ rest = '/' :: '*' :: (text ++ '*' :: '/' :: rest) := by
        simp [Piece.chars]
      rw [line_after_snoc, counted, parts, scan_block_begun, scan_block_text _ _ text _ whole (by simp), scan_block_ended]
  | raw text =>
      obtain rfl := Option.some.inj step
      have counted : (Piece.raw text).feeds = text.count '\n' := by simp [Piece.feeds, Piece.chars]
      have parts : (Piece.raw text).chars ++ rest = '\x60' :: (text ++ '\x60' :: rest) := by simp [Piece.chars]
      rw [line_after_snoc, counted, parts, scan_tick, scan_raw_text _ _ text _ whole, scan_raw_ended]
  | literal quote text =>
      obtain rfl := Option.some.inj step
      obtain ⟨quotes, inside⟩ := whole
      have uncounted : (Piece.literal quote text).feeds = 0 := rfl
      have parts : (Piece.literal quote text).chars ++ rest = quote :: (text ++ quote :: rest) := by simp [Piece.chars]
      rw [line_after_snoc, uncounted, Nat.add_zero, parts, scan_quote _ _ quote _ quotes,
        scan_inside _ _ quote text _ quotes inside, scan_literal_ended _ _ quote rest quotes]

theorem scan_pieces (text rest : List Char) (pieces before : List Piece) (opened after : List (List Piece × Char))
    (splits : Splits text pieces rest) (steps : brackets? before opened pieces = some after) :
    scan (openAt opened) .code (lineAfter before) text = scan (openAt after) .code (lineAfter (before ++ pieces)) rest := by
  induction splits generalizing before opened with
  | none =>
      obtain rfl := Option.some.inj steps
      rw [List.append_nil]
  | @piece first behind _ pieces whole _ ih =>
      obtain ⟨middle, step, later⟩ := Option.bind_eq_some_iff.mp steps
      rw [scan_piece before opened middle first behind whole step, ih _ _ later, List.append_assoc, List.singleton_append]

theorem check_pieces (text rest : List Char) (pieces : List Piece) (opened : List (List Piece × Char))
    (splits : Splits text pieces rest) (begun : Begun opened pieces) :
    check text = scan (openAt opened) .code (lineAfter pieces) rest :=
  scan_pieces text rest pieces [] [] opened splits (begun_brackets pieces opened begun)

theorem closed_finish (opened : Open) (line : Nat) (rest : List Char) (closed : Closed rest) :
    scan opened .code line rest = finish opened .code := by
  rcases closed with rfl | ⟨text, feedless, rfl⟩
  · rfl
  · have passed := scan_line_text opened line text [] feedless
    rw [List.append_nil] at passed
    rw [scan_line_begun, passed]
    rfl

theorem unfinished_refused (opened : Open) (line : Nat) (region : Region) (rest : List Char)
    (unfinished : Unfinished region rest) : scan opened .code line rest = .error (.unfinished region) := by
  cases unfinished with
  | @blockComment text inside =>
      have passed := scan_block_text opened line text [] inside (by simp)
      rw [List.append_nil] at passed
      rw [scan_block_begun, passed]
      rfl
  | @raw text inside =>
      have passed := scan_raw_text opened line text [] inside
      rw [List.append_nil] at passed
      rw [scan_tick, passed]
      rfl
  | @literal quote text quotes inside =>
      have passed := scan_inside opened line quote text [] quotes inside
      rw [List.append_nil] at passed
      rw [scan_quote opened line quote text quotes, passed]
      rcases quote_kinds quote quotes with rfl | rfl <;> rfl
  | @backslash quote text quotes inside =>
      rw [List.cons_append, scan_quote opened line quote _ quotes, scan_inside opened line quote text _ quotes inside,
        scan_literal opened line quote '\\' [] quotes, if_pos rfl]

theorem broken_refused (opened : Open) (line : Nat) (rest : List Char) (broken : Broken rest) :
    scan opened .code line rest = .error (.unterminated line) := by
  obtain ⟨quote, text, after, quotes, inside, rfl⟩ := broken
  rw [List.cons_append, scan_quote opened line quote _ quotes, scan_inside opened line quote text _ quotes inside,
    scan_literal opened line quote '\n' after quotes, if_neg (by decide), if_pos rfl]

theorem closing_whole (c : Char) (rest : List Char) (closes : (opening? c).isSome = true) : (Piece.code c).Whole rest := by
  obtain ⟨opening, same⟩ := Option.isSome_iff_exists.mp closes
  rcases closing_kinds c opening same with ⟨rfl, _⟩ | ⟨rfl, _⟩ | ⟨rfl, _⟩ <;>
    exact ⟨by decide, by decide, fun slash => absurd slash (by decide)⟩

theorem closing_refused (opened : Open) (line : Nat) (c : Char) (rest : List Char) (closes : (opening? c).isSome = true) :
    (opened = [] → scan opened .code line (c :: rest) = .error (.unmatched c line)) ∧
    ∀ opening number outer, opened = (opening, number) :: outer → opening? c ≠ some opening →
      scan opened .code line (c :: rest) = .error (.crossed c line opening number) := by
  obtain ⟨quote, tick, code⟩ := closing_whole c rest closes
  obtain ⟨double, single⟩ : c ≠ '"' ∧ c ≠ '\'' := by simpa [isQuote] using quote
  obtain ⟨expected, same⟩ := Option.isSome_iff_exists.mp closes
  have unopening : ¬ isOpening c = true := Bool.eq_false_iff.mp (opening_other c expected same)
  have feed : c ≠ '\n' := by
    rintro rfl
    cases closes
  have refused (fault : Imbalance) (read : codeChar opened line c = .error fault) :
      scan opened .code line (c :: rest) = .error fault :=
    scan_code_refused opened line fault c rest code (by rw [if_neg feed, read])
  refine ⟨?_, ?_⟩
  · rintro rfl
    refine refused _ ?_
    rw [codeChar, if_neg double, if_neg tick, if_neg single, if_neg unopening, same]
  · rintro opening number outer rfl other
    refine refused _ ?_
    rw [codeChar, if_neg double, if_neg tick, if_neg single, if_neg unopening, same]
    exact if_neg fun matching => other (same.trans (congrArg some matching.symm))

def Accepted (text : List Char) : Prop := ∃ pieces rest, Splits text pieces rest ∧ Closed rest ∧ Nested pieces

theorem accepted_checks (text : List Char) (accepted : Accepted text) : check text = .ok () := by
  obtain ⟨pieces, rest, splits, closed, nested⟩ := accepted
  rw [check_pieces text rest pieces [] splits (.nested nested), closed_finish _ _ rest closed]
  rfl

theorem faulty_refused (text : List Char) (fault : Imbalance) (faulty : Faulty text fault) : check text = .error fault := by
  have reported (pieces : List Piece) (line : Nat)
      (counted : line + passedFeeds pieces = lineBehind (pieces.flatMap Piece.chars)) : lineAfter pieces = line := by
    have same := line_after_passed pieces
    omega
  cases faulty with
  | @unmatched pieces closing rest line splits nested closes counted =>
      rw [check_pieces text _ pieces [] splits nested, (closing_refused (openAt []) _ closing rest closes).1 rfl,
        reported pieces line counted]
  | @crossed pieces before outer opening closing rest line opened splits begun closes other counted opener =>
      have refused := (closing_refused (openAt ((before, opening) :: outer)) (lineAfter pieces) closing rest closes).2
        opening (lineAfter before) (openAt outer) rfl other
      rw [check_pieces text _ pieces _ splits begun, refused, reported pieces line counted, reported before opened opener]
  | @unterminated pieces outer rest line splits begun broken counted =>
      rw [check_pieces text rest pieces outer splits begun, broken_refused _ _ rest broken, reported pieces line counted]
  | @unclosed pieces before outer opening rest opened splits closed begun opener =>
      rw [check_pieces text rest pieces _ splits begun, closed_finish _ _ rest closed, ← reported before opened opener]
      rfl
  | @unfinished pieces outer region rest splits begun unfinished =>
      rw [check_pieces text rest pieces outer splits begun, unfinished_refused _ _ region rest unfinished]

theorem accepted_or_faulty (text : List Char) : Accepted text ∨ ∃ fault, Faulty text fault := by
  obtain ⟨pieces, rest, splits, ended⟩ := text_splits text
  cases steps : brackets? [] [] pieces with
  | none =>
      obtain ⟨front, c, others, opened, rfl, reached, stuck⟩ := brackets_refused [] pieces [] steps
      obtain ⟨middle, before, behind⟩ := splits_parts text rest front (.code c :: others) splits
      have begun := brackets_begun [] front [] opened (.nested .none) reached
      cases behind with
      | piece _ _ =>
          obtain ⟨closes, rfl | ⟨outside, opening, outer, rfl, other⟩⟩ := bracket_refused front opened c stuck
          · exact Or.inr ⟨_, .unmatched before begun closes (line_after_passed front)⟩
          · exact Or.inr ⟨_, .crossed before begun closes other (line_after_passed front) (line_after_passed outside)⟩
  | some opened =>
      have begun := brackets_begun [] pieces [] opened (.nested .none) steps
      rcases ended with closed | ⟨region, unfinished⟩ | broken
      · cases begun with
        | nested nested => exact Or.inl ⟨pieces, rest, splits, closed, nested⟩
        | @opening outer before inside bracket outside opens nested =>
            exact Or.inr ⟨_, .unclosed splits closed (.opening outside opens nested) (line_after_passed before)⟩
      · exact Or.inr ⟨_, .unfinished splits begun unfinished⟩
      · exact Or.inr ⟨_, .unterminated splits begun broken (line_after_passed pieces)⟩

theorem check_accepts_or_blames (text : List Char) :
    (check text = .ok () ↔ Accepted text) ∧ ∀ fault, check text = .error fault ↔ Faulty text fault := by
  refine ⟨⟨fun passed => ?_, accepted_checks text⟩, fun fault => ⟨fun refused => ?_, faulty_refused text fault⟩⟩
  · rcases accepted_or_faulty text with accepted | ⟨fault, faulty⟩
    · exact accepted
    · cases passed.symm.trans (faulty_refused text fault faulty)
  · rcases accepted_or_faulty text with accepted | ⟨other, faulty⟩
    · cases refused.symm.trans (accepted_checks text accepted)
    · obtain rfl := Except.error.inj (refused.symm.trans (faulty_refused text other faulty))
      exact faulty

-- A backslash lets a line feed into a literal, and what follows is blamed a line too early.
theorem escaped_feed_passed :
    (check ['"', '\\', '\n', '"'] = .ok () ∧ ¬ ∃ pieces rest, Splits ['"', '\\', '\n', '"'] pieces rest ∧ Closed rest ∧
      Nested pieces ∧ passedFeeds pieces = 0) ∧
    check ['"', '\\', '\n', '"', ')'] = .error (.unmatched ')' 1) ∧ lineBehind ['"', '\\', '\n', '"'] = 2 := by
  refine ⟨⟨by decide, ?_⟩, by decide, by decide⟩
  generalize same : ['"', '\\', '\n', '"'] = text
  rintro ⟨pieces, rest, splits, closed, _, unpassed⟩
  cases splits with
  | none =>
      rcases closed with rfl | ⟨comment, _, rfl⟩
      · cases same
      · exact absurd (List.cons.inj same).1 (by decide)
  | @piece first after _ others whole _ =>
      cases first with
      | code c =>
          obtain rfl : '"' = c := (List.cons.inj same).1
          cases whole.1
      | lineComment _ | blockComment _ | raw _ => exact absurd (List.cons.inj same).1 (by decide)
      | literal quote inside =>
          obtain rfl : '"' = quote := (List.cons.inj same).1
          have body : ['\\', '\n', '"'] = inside ++ '"' :: after := by simpa [Piece.chars] using same
          have feedless : '\n' ∉ inside := by
            have counted : List.count '\n' ('"' :: inside ++ ['"']) = 0 :=
              Nat.eq_zero_of_le_zero (unpassed ▸ Nat.le_add_right _ _)
            exact fun member => List.count_eq_zero.mp counted (by simp [member])
          obtain ⟨_, literal⟩ := whole
          cases literal with
          | none => cases body
          | plain _ unescaped _ _ => exact unescaped (List.cons.inj body).1.symm
          | @escaped c more _ =>
              obtain rfl : '\n' = c := (List.cons.inj (List.cons.inj body).2).1
              exact feedless (by simp)

end ApiBindings.Layout
