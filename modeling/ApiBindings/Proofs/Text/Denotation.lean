import ApiBindings.Proofs.Text.Literal
import ApiBindings.Unit.Printer
set_option autoImplicit false

namespace ApiBindings

namespace Text

-- What the characters between the quotes stand for: an escape for the one that it
-- names, and any other for itself. A quote, a backslash or a line feed is no such one,
-- and a number has to be that of a character.
inductive StandsFor : List Char → List Char → Prop where
  | none : StandsFor [] []
  | plain {c : Char} {body text : List Char} (quote : c ≠ '"') (backslash : c ≠ '\\') (feed : c ≠ '\n')
      (more : StandsFor body text) : StandsFor (c :: body) (c :: text)
  | escaped {e c : Char} {body text : List Char} (known : escaped? e = some c) (more : StandsFor body text) :
      StandsFor ('\\' :: e :: body) (c :: text)
  | numbered {a b d e : Char} {number : Nat} {body text : List Char} (value : hexNumber? [a, b, d, e] = some number)
      (valid : number.isValidChar) (more : StandsFor body text) :
      StandsFor ('\\' :: 'u' :: a :: b :: d :: e :: body) (Char.ofNat number :: text)

def Denotes (word text : List Char) : Prop := ∃ body, word = '"' :: body ++ ['"'] ∧ StandsFor body text

theorem literal_char_stands (c : Char) (body text : List Char) (more : StandsFor body text) :
    StandsFor (literalChar c ++ body) (c :: text) := by
  unfold literalChar
  split
  next backslash => exact .escaped (by rw [backslash]; rfl) more
  split
  next quote => exact .escaped (by rw [quote]; rfl) more
  split
  next feed => exact .escaped (by rw [feed]; rfl) more
  split
  next carriage => exact .escaped (by rw [carriage]; rfl) more
  split
  next tab => exact .escaped (by rw [tab]; rfl) more
  split
  next control =>
    obtain ⟨a, b, d, e, digits, value⟩ := control_digits_read c control
    have numbered := StandsFor.numbered value c.valid more
    rw [Char.ofNat_toNat] at numbered
    rw [digits]
    exact numbered
  next backslash quote feed _ _ _ => exact .plain quote backslash feed more

theorem literal_denotes (text : List Char) : Denotes (literal text) text := by
  refine ⟨text.flatMap literalChar, rfl, ?_⟩
  induction text with
  | nil => exact .none
  | cons c others ih =>
      rw [List.flatMap_cons]
      exact literal_char_stands c _ others ih

theorem escaped_not_numbered (e c : Char) (known : escaped? e = some c) : e ≠ 'u' := by
  rintro rfl
  cases known

theorem stands_unquote (body text rest : List Char) (stands : StandsFor body text) :
    unquote? (body ++ '"' :: rest) = some (text, rest) := by
  induction stands with
  | none => rw [List.nil_append, unquote?.eq_def]; rfl
  | @plain c body text quote backslash feed _ ih =>
      rw [List.cons_append, unquote_plain c _ quote feed backslash, ih]
      rfl
  | @escaped e c body text known _ ih =>
      have numberless := escaped_not_numbered e c known
      rw [List.cons_append, List.cons_append, unquote?.eq_def]
      simp [numberless, known, ih]
  | @numbered a b d e number body text value _ _ ih =>
      rw [List.cons_append, List.cons_append, List.cons_append, List.cons_append, List.cons_append, List.cons_append,
        unquote?.eq_def]
      simp [value, ih]

theorem denotes_unique (first last text other : List Char) (rest more : List Char) (denotes : Denotes first text)
    (again : Denotes last other) (same : first ++ rest = last ++ more) : text = other ∧ first = last ∧ rest = more := by
  obtain ⟨body, rfl, stands⟩ := denotes
  obtain ⟨inside, rfl, standsToo⟩ := again
  have tails : body ++ '"' :: rest = inside ++ '"' :: more := by simpa using same
  have read := stands_unquote body text rest stands
  rw [tails, stands_unquote inside other more standsToo] at read
  obtain ⟨rfl, rfl⟩ := Prod.mk.inj (Option.some.inj read)
  exact ⟨rfl, List.append_cancel_right same, rfl⟩

end Text

theorem quoted_denotes (text : String) :
    (∀ other, Text.Denotes (quoted text).toList other ↔ other = text.toList) ∧
    (∀ word other rest more, Text.Denotes word other ∧ word ++ rest = (quoted text).toList ++ more ↔
      word = (quoted text).toList ∧ other = text.toList ∧ rest = more) ∧
    (∀ other, quoted text = quoted other ↔ text = other) := by
  have denotes (text : String) : Text.Denotes (quoted text).toList text.toList := by
    rw [quoted, String.toList_ofList]
    exact Text.literal_denotes text.toList
  have unique := fun word other rest more (again : Text.Denotes word other) same =>
    Text.denotes_unique (quoted text).toList word text.toList other more rest (denotes text) again same
  refine ⟨fun other => ⟨fun again => ?_, ?_⟩, fun word other rest more => ⟨?_, ?_⟩, fun other => ⟨fun same => ?_, congrArg quoted⟩⟩
  · exact (unique _ other [] [] again rfl).1.symm
  · rintro rfl
    exact denotes text
  · rintro ⟨again, same⟩
    obtain ⟨texts, words, rests⟩ := unique word other rest more again same.symm
    exact ⟨words.symm, texts.symm, rests.symm⟩
  · rintro ⟨rfl, rfl, rfl⟩
    exact ⟨denotes text, rfl⟩
  · have again := denotes other
    rw [← same] at again
    exact String.toList_inj.mp (unique _ other.toList [] [] again rfl).1

end ApiBindings
