import ApiBindings.Layout
import Mathlib.Data.List.Basic
set_option autoImplicit false

namespace ApiBindings.Layout

inductive Inside (quote : Char) : List Char → Prop where
  | none : Inside quote []
  | plain {c : Char} {rest : List Char} (other : c ≠ quote) (unescaped : c ≠ '\\') (unbroken : c ≠ '\n')
      (more : Inside quote rest) : Inside quote (c :: rest)
  | escaped {c : Char} {rest : List Char} (more : Inside quote rest) : Inside quote ('\\' :: c :: rest)

theorem inside_append (quote : Char) (first last : List Char) (before : Inside quote first) (after : Inside quote last) :
    Inside quote (first ++ last) := by
  induction before with
  | none => exact after
  | plain other unescaped unbroken _ ih => exact .plain other unescaped unbroken ih
  | escaped _ ih => exact .escaped ih

def isQuote (c : Char) : Bool := c = '"' || c = '\''

def literalRegion (quote : Char) : Region := if quote = '"' then .interpreted else .rune

theorem quote_kinds (quote : Char) (quotes : isQuote quote = true) : quote = '"' ∨ quote = '\'' := by
  simpa [isQuote] using quotes

theorem quote_plain (quote : Char) (quotes : isQuote quote = true) : quote ≠ '\\' ∧ quote ≠ '\n' := by
  rcases quote_kinds quote quotes with rfl | rfl <;> decide

theorem opening_kinds (c : Char) (opens : isOpening c = true) : c = '(' ∨ c = '[' ∨ c = '{' := by
  simpa [isOpening, or_assoc] using opens

theorem closing_kinds (c opening : Char) (closes : opening? c = some opening) :
    (c = ')' ∧ opening = '(') ∨ (c = ']' ∧ opening = '[') ∨ (c = '}' ∧ opening = '{') := by
  unfold opening? at closes
  split at closes
  next => exact Or.inl ⟨rfl, (Option.some.inj closes).symm⟩
  next => exact Or.inr (Or.inl ⟨rfl, (Option.some.inj closes).symm⟩)
  next => exact Or.inr (Or.inr ⟨rfl, (Option.some.inj closes).symm⟩)
  next => cases closes

section Scan

variable (opened : Open) (line : Nat)

theorem scan_code (after : Open) (region : Region) (c : Char) (rest : List Char)
    (code : c = '/' → rest.head? ≠ some '/' ∧ rest.head? ≠ some '*')
    (read : codeChar opened (if c = '\n' then line + 1 else line) c = .ok (after, region)) :
    scan opened .code line (c :: rest) = scan after region (if c = '\n' then line + 1 else line) rest := by
  rw [scan.eq_def]
  cases rest with
  | nil => simp only [read, scan]
  | cons d others =>
      have first : ¬ (c = '/' ∧ d = '/') := fun both => (code both.1).1 (congrArg some both.2)
      have second : ¬ (c = '/' ∧ d = '*') := fun both => (code both.1).2 (congrArg some both.2)
      simp only [if_neg first, if_neg second, read]

theorem scan_code_refused (fault : Imbalance) (c : Char) (rest : List Char)
    (code : c = '/' → rest.head? ≠ some '/' ∧ rest.head? ≠ some '*')
    (refused : codeChar opened (if c = '\n' then line + 1 else line) c = .error fault) :
    scan opened .code line (c :: rest) = .error fault := by
  rw [scan.eq_def]
  cases rest with
  | nil => simp only [refused]
  | cons d others =>
      have first : ¬ (c = '/' ∧ d = '/') := fun both => (code both.1).1 (congrArg some both.2)
      have second : ¬ (c = '/' ∧ d = '*') := fun both => (code both.1).2 (congrArg some both.2)
      simp only [if_neg first, if_neg second, refused]

theorem scan_code_char (after : Open) (region : Region) (c : Char) (rest : List Char) (slash : c ≠ '/')
    (read : codeChar opened (if c = '\n' then line + 1 else line) c = .ok (after, region)) :
    scan opened .code line (c :: rest) = scan after region (if c = '\n' then line + 1 else line) rest :=
  scan_code opened line after region c rest (fun same => absurd same slash) read

theorem scan_tick (rest : List Char) : scan opened .code line ('\x60' :: rest) = scan opened .raw line rest :=
  scan_code_char opened line opened .raw '\x60' rest (by decide) rfl

theorem scan_quote (quote : Char) (rest : List Char) (quotes : isQuote quote = true) :
    scan opened .code line (quote :: rest) = scan opened (literalRegion quote) line rest := by
  rcases quote_kinds quote quotes with rfl | rfl <;> exact scan_code_char opened line opened _ _ rest (by decide) rfl

theorem scan_line_begun (rest : List Char) :
    scan opened .code line ('/' :: '/' :: rest) = scan opened .lineComment line rest := rfl

theorem scan_line_ended (rest : List Char) :
    scan opened .lineComment line ('\n' :: rest) = scan opened .code (line + 1) rest := rfl

theorem scan_block_begun (rest : List Char) :
    scan opened .code line ('/' :: '*' :: rest) = scan opened .blockComment line rest := rfl

theorem scan_block_ended (rest : List Char) :
    scan opened .blockComment line ('*' :: '/' :: rest) = scan opened .code line rest := rfl

theorem scan_raw_ended (rest : List Char) : scan opened .raw line ('\x60' :: rest) = scan opened .code line rest := rfl

theorem scan_line_char (c : Char) (rest : List Char) (feed : c ≠ '\n') :
    scan opened .lineComment line (c :: rest) = scan opened .lineComment line rest := by
  have step : scan opened .lineComment line (c :: rest) =
      scan opened (if c = '\n' then .code else .lineComment) (if c = '\n' then line + 1 else line) rest := rfl
  rw [step, if_neg feed, if_neg feed]

theorem scan_block_char (c : Char) (rest : List Char) (unclosed : ¬ (c = '*' ∧ rest.head? = some '/')) :
    scan opened .blockComment line (c :: rest) =
      scan opened .blockComment (if c = '\n' then line + 1 else line) rest := by
  cases rest with
  | nil => rfl
  | cons d others => exact if_neg fun both => unclosed ⟨both.1, congrArg some both.2⟩

theorem scan_raw_char (c : Char) (rest : List Char) (tick : c ≠ '\x60') :
    scan opened .raw line (c :: rest) = scan opened .raw (if c = '\n' then line + 1 else line) rest := by
  have step : scan opened .raw line (c :: rest) =
      scan opened (if c = '\x60' then .code else .raw) (if c = '\n' then line + 1 else line) rest := rfl
  rw [step, if_neg tick]

theorem scan_line_text (text rest : List Char) (feedless : '\n' ∉ text) :
    scan opened .lineComment line (text ++ rest) = scan opened .lineComment line rest := by
  induction text with
  | nil => rfl
  | cons c others ih =>
      have feed : c ≠ '\n' := fun same => feedless (same ▸ List.mem_cons_self)
      rw [List.cons_append, scan_line_char opened line c _ feed]
      exact ih fun member => feedless (List.mem_cons_of_mem _ member)

theorem line_counted (c : Char) (others : List Char) :
    (if c = '\n' then line + 1 else line) + others.count '\n' = line + (c :: others).count '\n' := by
  by_cases feed : c = '\n' <;> simp [feed, Nat.add_assoc, Nat.add_comm 1]

theorem scan_block_text (text rest : List Char) (unclosed : ¬ ['*', '/'] <:+: text) (apart : rest.head? ≠ some '/') :
    scan opened .blockComment line (text ++ rest) = scan opened .blockComment (line + text.count '\n') rest := by
  induction text generalizing line with
  | nil => rfl
  | cons c others ih =>
      have closing : ¬ (c = '*' ∧ (others ++ rest).head? = some '/') := by
        rintro ⟨rfl, slash⟩
        cases others with
        | nil => exact apart slash
        | cons d more =>
            obtain rfl := Option.some.inj slash
            exact unclosed (List.infix_cons_iff.mpr (Or.inl ⟨more, rfl⟩))
      rw [List.cons_append, scan_block_char opened line c _ closing, ← line_counted]
      exact ih _ fun found => unclosed (List.infix_cons_iff.mpr (Or.inr found))

theorem scan_raw_text (text rest : List Char) (unclosed : '\x60' ∉ text) :
    scan opened .raw line (text ++ rest) = scan opened .raw (line + text.count '\n') rest := by
  induction text generalizing line with
  | nil => rfl
  | cons c others ih =>
      have tick : c ≠ '\x60' := fun same => unclosed (same ▸ List.mem_cons_self)
      rw [List.cons_append, scan_raw_char opened line c _ tick, ← line_counted]
      exact ih _ fun member => unclosed (List.mem_cons_of_mem _ member)

theorem scan_literal (quote c : Char) (rest : List Char) (quotes : isQuote quote = true) :
    scan opened (literalRegion quote) line (c :: rest) =
      if c = '\\' then
        match rest with
        | [] => .error (.unfinished (literalRegion quote))
        | _ :: after => scan opened (literalRegion quote) line after
      else if c = '\n' then .error (.unterminated line)
      else scan opened (if c = quote then .code else literalRegion quote) line rest := by
  rw [scan.eq_def]
  rcases quote_kinds quote quotes with rfl | rfl <;> cases rest <;> by_cases feed : c = '\n' <;> simp [literalRegion, feed, finish]

theorem scan_literal_ended (quote : Char) (rest : List Char) (quotes : isQuote quote = true) :
    scan opened (literalRegion quote) line (quote :: rest) = scan opened .code line rest := by
  obtain ⟨unescaped, unbroken⟩ := quote_plain quote quotes
  rw [scan_literal _ _ quote _ _ quotes, if_neg unescaped, if_neg unbroken, if_pos rfl]

theorem scan_inside (quote : Char) (text rest : List Char) (quotes : isQuote quote = true) (inside : Inside quote text) :
    scan opened (literalRegion quote) line (text ++ rest) = scan opened (literalRegion quote) line rest := by
  induction inside with
  | none => rfl
  | plain other unescaped unbroken _ ih =>
      rw [← ih, List.cons_append, scan_literal _ _ quote _ _ quotes, if_neg unescaped, if_neg unbroken, if_neg other]
  | escaped _ ih => rw [← ih, List.cons_append, List.cons_append, scan_literal _ _ quote _ _ quotes, if_pos rfl]

end Scan

end ApiBindings.Layout
