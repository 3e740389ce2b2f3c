import ApiBindings.Proofs.Layout.Lines
import ApiBindings.Proofs.Layout.Scan
import ApiBindings.Text.Quoted
set_option autoImplicit false

namespace ApiBindings

namespace Layout

inductive Edge where
  | start
  | blank
  | solid
deriving DecidableEq, Repr

-- A place in the code of a text: the brackets that are open there, innermost first,
-- and the end of the open line.
structure Place where
  stack : List Char
  edge : Edge
deriving DecidableEq, Repr

def isPlain (c : Char) : Bool :=
  !(c = '\n' || c = '\r' || c = '"' || c = '\x60' || c = '\'' || c = '/' || isOpening c || (opening? c).isSome)

def edgeOf (c : Char) : Edge := if Text.isBlank c then .blank else .solid

-- The second list is the code of the first one: what is left without comments and
-- without the contents of literals.
inductive Reads : Place → List Char → List Char → Place → Prop where
  | none {place : Place} : Reads place [] [] place
  | plain {stack : List Char} {edge : Edge} {c : Char} (plain : isPlain c = true) :
      Reads ⟨stack, edge⟩ [c] [c] ⟨stack, edgeOf c⟩
  | feed {stack : List Char} {edge : Edge} (solid : edge ≠ .blank) :
      Reads ⟨stack, edge⟩ ['\n'] ['\n'] ⟨stack, .start⟩
  | opening {stack : List Char} {edge : Edge} {c : Char} (opens : isOpening c = true) :
      Reads ⟨stack, edge⟩ [c] [c] ⟨c :: stack, .solid⟩
  | closing {stack : List Char} {edge : Edge} {c opened : Char} (closes : opening? c = some opened) :
      Reads ⟨opened :: stack, edge⟩ [c] [c] ⟨stack, .solid⟩
  | quoted {stack : List Char} {edge : Edge} (text : List Char) :
      Reads ⟨stack, edge⟩ (Text.literal text) ['"', '"'] ⟨stack, .solid⟩
  | raw {stack : List Char} {edge : Edge} {text : List Char} (closed : ∀ c ∈ text, c ≠ '\x60' ∧ c ≠ '\n') :
      Reads ⟨stack, edge⟩ ('\x60' :: text ++ ['\x60']) ['\x60', '\x60'] ⟨stack, .solid⟩
  | comment {stack indent text : List Char} (tabs : ∀ c ∈ indent, c = '\t') (feedless : '\n' ∉ text) :
      Reads ⟨stack, .start⟩ (indent ++ '/' :: '/' :: text ++ ['\n']) [] ⟨stack, .start⟩
  | append {a b c : Place} {first last firstCode lastCode : List Char} (before : Reads a first firstCode b)
      (after : Reads b last lastCode c) : Reads a (first ++ last) (firstCode ++ lastCode) c

-- What is open outside of a text does not matter to it.
theorem reads_framed (p q : Place) (text code outer : List Char) (reads : Reads p text code q) :
    Reads ⟨p.stack ++ outer, p.edge⟩ text code ⟨q.stack ++ outer, q.edge⟩ := by
  induction reads with
  | none => exact .none
  | plain plain => exact .plain plain
  | feed solid => exact .feed solid
  | opening opens => exact .opening opens
  | closing closes => exact .closing closes
  | quoted text => exact .quoted text
  | raw closed => exact .raw closed
  | comment tabs feedless => exact .comment tabs feedless
  | append _ _ first last => exact .append first last

def walk (place : Place) : List Char → Option Place
  | [] => some place
  | c :: rest =>
    if isPlain c then walk ⟨place.stack, edgeOf c⟩ rest
    else if c = '\n' ∧ place.edge ≠ .blank then walk ⟨place.stack, .start⟩ rest
    else if isOpening c then walk ⟨c :: place.stack, .solid⟩ rest
    else match opening? c, place.stack with
      | some expected, opened :: outer => if opened = expected then walk ⟨outer, .solid⟩ rest else none
      | _, _ => none

theorem walk_reads (p q : Place) (text : List Char) (walked : walk p text = some q) : Reads p text text q := by
  induction text generalizing p with
  | nil =>
      obtain rfl := Option.some.inj walked
      exact .none
  | cons c rest ih =>
      unfold walk at walked
      split at walked
      next plain => exact .append (.plain plain) (ih _ walked)
      next =>
        split at walked
        next feed =>
          obtain ⟨rfl, solid⟩ := feed
          exact .append (.feed solid) (ih _ walked)
        next =>
          split at walked
          next opens => exact .append (.opening opens) (ih _ walked)
          next =>
            split at walked
            next expected opened outer closes stack =>
              split at walked
              next same =>
                subst same
                obtain ⟨brackets, edge⟩ := p
                obtain rfl : brackets = opened :: outer := stack
                exact .append (.closing closes) (ih _ walked)
              next => cases walked
            next => cases walked

theorem control_digits_plain (c : Char) (control : Text.isControl c = true) :
    ∀ d ∈ Text.hexPadded 4 c.toNat, d ≠ '\\' ∧ d ≠ '"' ∧ d ≠ '\n' := by
  have digits : ∀ n : Fin 0xa0, (Text.hexPadded 4 n.val).all (fun d => d ≠ '\\' ∧ d ≠ '"' ∧ d ≠ '\n') = true := by
    decide +kernel
  have small : c.toNat < 0xa0 := by
    simp only [Text.isControl, Bool.or_eq_true, Bool.and_eq_true, decide_eq_true_eq] at control
    omega
  simpa using digits ⟨c.toNat, small⟩

theorem literal_char_parts (c : Char) :
    ∃ escape plain, Text.literalChar c = escape ++ plain ∧ (escape = [] ∨ ∃ d, d ≠ '\n' ∧ escape = ['\\', d]) ∧
      ∀ d ∈ plain, d ≠ '\\' ∧ d ≠ '"' ∧ d ≠ '\n' := by
  have pair (d : Char) (feed : d ≠ '\n') : ∃ escape plain, ['\\', d] = escape ++ plain ∧
      (escape = [] ∨ ∃ d, d ≠ '\n' ∧ escape = ['\\', d]) ∧ ∀ d ∈ plain, d ≠ '\\' ∧ d ≠ '"' ∧ d ≠ '\n' :=
    ⟨['\\', d], [], rfl, Or.inr ⟨d, feed, rfl⟩, List.forall_mem_nil _⟩
  unfold Text.literalChar
  split
  · exact pair '\\' (by decide)
  split
  · exact pair '"' (by decide)
  split
  · exact pair 'n' (by decide)
  split
  · exact pair 'r' (by decide)
  split
  · exact pair 't' (by decide)
  next escape quote feed _ _ =>
    split
    next control => exact ⟨['\\', 'u'], _, rfl, Or.inr ⟨'u', by decide, rfl⟩, control_digits_plain c control⟩
    next =>
      refine ⟨[], [c], rfl, Or.inl rfl, fun d member => ?_⟩
      rw [List.mem_singleton.mp member]
      exact ⟨escape, quote, feed⟩

section Scan

theorem scan_plain (opened : Open) (line : Nat) (c : Char) (rest : List Char) (plain : isPlain c = true) :
    scan opened .code line (c :: rest) = scan opened .code line rest := by
  simp only [isPlain, Bool.not_eq_true', Bool.or_eq_false_iff, decide_eq_false_iff_not, Option.isSome_eq_false_iff,
    Option.isNone_iff_eq_none] at plain
  obtain ⟨⟨⟨⟨⟨⟨⟨feed, _⟩, quote⟩, tick⟩, rune⟩, slash⟩, opens⟩, closes⟩ := plain
  have read : codeChar opened (if c = '\n' then line + 1 else line) c = .ok (opened, .code) := by
    simp [codeChar, quote, tick, rune, opens, closes]
  rw [scan_code_char opened line opened .code c rest slash read, if_neg feed]

theorem plain_inside (text : List Char) (plain : ∀ c ∈ text, c ≠ '\\' ∧ c ≠ '"' ∧ c ≠ '\n') : Inside '"' text := by
  induction text with
  | nil => exact .none
  | cons c others ih =>
      obtain ⟨escape, quote, feed⟩ := plain c List.mem_cons_self
      exact .plain quote escape feed (ih fun d member => plain d (List.mem_cons_of_mem _ member))

theorem literal_char_inside (c : Char) : Inside '"' (Text.literalChar c) := by
  obtain ⟨escape, plain, parts, escaped, unescaped⟩ := literal_char_parts c
  rw [parts]
  rcases escaped with rfl | ⟨d, _, rfl⟩
  · exact plain_inside plain unescaped
  · exact .escaped (plain_inside plain unescaped)

theorem scan_quoted (opened : Open) (line : Nat) (text rest : List Char) :
    scan opened .code line (Text.literal text ++ rest) = scan opened .code line rest := by
  have inside : Inside '"' (text.flatMap Text.literalChar) := by
    induction text with
    | nil => exact .none
    | cons c others ih => exact inside_append '"' _ _ (literal_char_inside c) ih
  have parts : Text.literal text ++ rest = '"' :: (text.flatMap Text.literalChar ++ '"' :: rest) := by simp [Text.literal]
  rw [parts, scan_quote _ _ '"' _ rfl, scan_inside _ _ '"' _ _ rfl inside, scan_literal_ended _ _ '"' rest rfl]

theorem scan_raw (opened : Open) (line : Nat) (text rest : List Char) (closed : ∀ c ∈ text, c ≠ '\x60' ∧ c ≠ '\n') :
    scan opened .code line ('\x60' :: text ++ ['\x60'] ++ rest) = scan opened .code line rest := by
  have unclosed : '\x60' ∉ text := fun member => (closed _ member).1 rfl
  have feedless : text.count '\n' = 0 := List.count_eq_zero.mpr fun member => (closed _ member).2 rfl
  rw [List.cons_append, List.cons_append, List.append_assoc, scan_tick, scan_raw_text opened line text _ unclosed,
    feedless]
  exact scan_raw_ended opened line rest

theorem scan_comment (opened : Open) (line : Nat) (indent text rest : List Char) (tabs : ∀ c ∈ indent, c = '\t')
    (feedless : '\n' ∉ text) :
    scan opened .code line (indent ++ '/' :: '/' :: text ++ ['\n'] ++ rest) = scan opened .code (line + 1) rest := by
  have inside : scan opened .lineComment line (text ++ '\n' :: rest) = scan opened .code (line + 1) rest := by
    rw [scan_line_text opened line text _ feedless, scan_line_ended]
  induction indent with
  | nil => simpa [scan_line_begun] using inside
  | cons c others ih =>
      rw [List.cons_append, List.cons_append, List.cons_append,
        scan_plain opened line c _ (by rw [tabs c List.mem_cons_self]; decide)]
      exact ih fun d member => tabs d (List.mem_cons_of_mem _ member)

theorem scan_opening (opened : Open) (line : Nat) (c : Char) (rest : List Char) (opens : isOpening c = true) :
    scan opened .code line (c :: rest) = scan ((c, line) :: opened) .code line rest := by
  rcases opening_kinds c opens with rfl | rfl | rfl <;> exact scan_code_char opened line _ .code _ rest (by decide) rfl

theorem scan_closing (opened : Open) (line number : Nat) (c expected : Char) (rest : List Char)
    (closes : opening? c = some expected) :
    scan ((expected, number) :: opened) .code line (c :: rest) = scan opened .code line rest := by
  rcases closing_kinds c expected closes with ⟨rfl, rfl⟩ | ⟨rfl, rfl⟩ | ⟨rfl, rfl⟩ <;>
    exact scan_code_char _ line opened .code _ rest (by decide) rfl

theorem reads_scan (p q : Place) (text code : List Char) (reads : Reads p text code q) (opened : Open) (line : Nat)
    (same : opened.map Prod.fst = p.stack) :
    ∃ after last, after.map Prod.fst = q.stack ∧
      ∀ rest, scan opened .code line (text ++ rest) = scan after .code last rest := by
  induction reads generalizing opened line with
  | none => exact ⟨opened, line, same, fun rest => rfl⟩
  | plain plain => exact ⟨opened, line, same, fun rest => scan_plain opened line _ rest plain⟩
  | feed => exact ⟨opened, line + 1, same, fun rest => scan_code_char opened line opened .code '\n' rest (by decide) rfl⟩
  | @opening _ _ c opens =>
      exact ⟨(c, line) :: opened, line, congrArg (List.cons c) same, fun rest => scan_opening opened line c rest opens⟩
  | @closing _ _ c expected closes =>
      cases opened with
      | nil => cases same
      | cons entry outer =>
          obtain ⟨bracket, number⟩ := entry
          obtain ⟨rfl, others⟩ := List.cons.inj same
          exact ⟨outer, line, others, fun rest => scan_closing outer line number c _ rest closes⟩
  | quoted text => exact ⟨opened, line, same, fun rest => scan_quoted opened line text rest⟩
  | raw closed => exact ⟨opened, line, same, fun rest => scan_raw opened line _ rest closed⟩
  | comment tabs feedless => exact ⟨opened, line + 1, same, fun rest => scan_comment opened line _ _ rest tabs feedless⟩
  | append _ _ first last =>
      obtain ⟨middle, next, stack, before⟩ := first opened line same
      obtain ⟨after, final, closed, later⟩ := last middle next stack
      exact ⟨after, final, closed, fun rest => by rw [List.append_assoc, before, later]⟩

theorem reads_check (edge : Edge) (text code : List Char) (reads : Reads ⟨[], .start⟩ text code ⟨[], edge⟩) :
    check text = .ok () := by
  obtain ⟨after, last, closed, ran⟩ := reads_scan _ _ text code reads [] 1 rfl
  obtain rfl := List.map_eq_nil_iff.mp closed
  have finished := ran []
  rw [List.append_nil] at finished
  rw [check, finished]
  rfl

end Scan

end Layout

end ApiBindings
