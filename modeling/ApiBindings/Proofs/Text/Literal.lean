import ApiBindings.Text.Quoted
import Mathlib.Data.List.Basic
set_option autoImplicit false

namespace ApiBindings.Text

def hexDigit? (c : Char) : Option Nat :=
  if c.isDigit then some (c.toNat - '0'.toNat)
  else if 'a' ≤ c ∧ c ≤ 'f' then some (c.toNat - 'a'.toNat + 10)
  else if 'A' ≤ c ∧ c ≤ 'F' then some (c.toNat - 'A'.toNat + 10)
  else none

def hexNumber? (digits : List Char) : Option Nat :=
  (digits.mapM hexDigit?).map (·.foldl (fun number digit => 16 * number + digit) 0)

def escaped? : Char → Option Char
  | 'n' => some '\n'
  | 'r' => some '\r'
  | 't' => some '\t'
  | '\\' => some '\\'
  | '"' => some '"'
  | _ => none

def unquote? : List Char → Option (List Char × List Char)
  | [] => none
  | c :: rest =>
    if c = '"' then some ([], rest)
    else if c = '\n' then none
    else if c = '\\' then
      match rest with
      | 'u' :: a :: b :: d :: e :: after =>
        (hexNumber? [a, b, d, e]).bind fun number =>
          (unquote? after).map fun (text, behind) => (Char.ofNat number :: text, behind)
      | e :: after => (escaped? e).bind fun c => (unquote? after).map fun (text, behind) => (c :: text, behind)
      | [] => none
    else (unquote? rest).map fun (text, behind) => (c :: text, behind)

theorem control_digits_read (c : Char) (control : isControl c = true) :
    ∃ a b d e, hexPadded 4 c.toNat = [a, b, d, e] ∧ hexNumber? [a, b, d, e] = some c.toNat := by
  have read : ∀ n < 0xa0, ∃ a b d e, hexPadded 4 n = [a, b, d, e] ∧ hexNumber? [a, b, d, e] = some n := by
    have digits : ∀ n < 0xa0, (hexPadded 4 n).length = 4 ∧ hexNumber? (hexPadded 4 n) = some n := by decide +kernel
    intro n below
    obtain ⟨four, value⟩ := digits n below
    obtain ⟨a, b, d, e, same⟩ := List.length_eq_four.mp four
    exact ⟨a, b, d, e, same, same ▸ value⟩
  apply read
  simp only [isControl, Bool.or_eq_true, Bool.and_eq_true, decide_eq_true_eq] at control
  omega

theorem unquote_plain (c : Char) (rest : List Char) (quote : c ≠ '"') (feed : c ≠ '\n') (backslash : c ≠ '\\') :
    unquote? (c :: rest) = (unquote? rest).map fun (text, behind) => (c :: text, behind) := by
  rw [unquote?.eq_def]
  simp only [quote, feed, backslash, if_false]

theorem unquote_char (c : Char) (rest : List Char) :
    unquote? (literalChar c ++ rest) = (unquote? rest).map fun (text, behind) => (c :: text, behind) := by
  unfold literalChar
  by_cases backslash : c = '\\'
  · subst c
    simp [unquote?, escaped?]
  by_cases quote : c = '"'
  · subst c
    simp [unquote?, escaped?]
  by_cases feed : c = '\n'
  · subst c
    simp [unquote?, escaped?]
  by_cases carriage : c = '\r'
  · subst c
    simp [unquote?, escaped?]
  by_cases tab : c = '\t'
  · subst c
    simp [unquote?, escaped?]
  by_cases control : isControl c
  · obtain ⟨a, b, d, e, digits, value⟩ := control_digits_read c control
    simp [backslash, quote, feed, carriage, tab, control, digits, unquote?, value]
  · simpa [backslash, quote, feed, carriage, tab, control] using unquote_plain c rest quote feed backslash

theorem unquote_literal (text rest : List Char) :
    unquote? (text.flatMap literalChar ++ '"' :: rest) = some (text, rest) := by
  induction text with
  | nil =>
      rw [List.flatMap_nil, List.nil_append, unquote?.eq_def]
      rfl
  | cons c others ih => rw [List.flatMap_cons, List.append_assoc, unquote_char, ih, Option.map_some]

end ApiBindings.Text
