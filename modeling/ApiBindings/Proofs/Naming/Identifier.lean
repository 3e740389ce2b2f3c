import ApiBindings.Proofs.Naming.Exported
import ApiBindings.Proofs.Naming.Unique
set_option autoImplicit false

namespace ApiBindings.Naming

def Reserved (name : String) : Prop := name ∈ keywords ∨ name ∈ bodyNames

instance (name : String) : Decidable (Reserved name) := inferInstanceAs (Decidable (_ ∨ _))

theorem reserved_ending (name : String) (reserved : Reserved name) :
    ¬ "Param".toList <:+ name.toList ∧ ∀ c ∈ name.toList.getLast?, c.isDigit = false := by
  have all : ∀ name ∈ keywords ++ bodyNames,
      ¬ "Param".toList.isSuffixOf name.toList = true ∧ name.toList.getLast?.all (!·.isDigit) = true := by decide
  obtain ⟨suffix, digit⟩ := all name (List.mem_append.mpr reserved)
  refine ⟨fun ends => suffix (List.isSuffixOf_iff_suffix.mpr ends), fun c last => ?_⟩
  rw [Option.mem_def.mp last] at digit
  simpa using digit

theorem local_name_free (name : String) : ¬ Reserved (localName name) := by
  unfold localName localChars
  cases parts : Text.words name.toList with
  | nil => decide
  | cons first others =>
      dsimp only
      generalize (if (Text.lower first ++ others.flatMap pascalWord).head?.any Char.isDigit then
        'p' :: (Text.lower first ++ others.flatMap pascalWord)
        else Text.lower first ++ others.flatMap pascalWord) = safe
      by_cases clash : (keywords.contains (String.ofList safe) || bodyNames.contains (String.ofList safe)) = true
      · rw [if_pos clash]
        have text : (String.ofList (safe ++ "Param".toList)).toList = safe ++ "Param".toList := String.toList_ofList
        intro reserved
        apply (reserved_ending _ reserved).1
        rw [text]
        exact List.suffix_append _ _
      · rw [if_neg clash]
        simpa [Reserved] using clash

theorem numbered_last (base : String) (number : Nat) :
    ∃ c ∈ (base ++ toString number).toList.getLast?, c.isDigit = true := by
  have digits : (toString number).toList = Nat.toDigits 10 number := by rw [Nat.toString_eq_repr, Nat.toList_repr]
  have present : Nat.toDigits 10 number ≠ [] := Nat.toDigits_ne_nil
  refine ⟨(Nat.toDigits 10 number).getLast present, ?_,
    Nat.isDigit_of_mem_toDigits (by decide) (Nat.le_refl 10) (List.getLast_mem present)⟩
  rw [String.toList_append, digits, List.getLast?_append, List.getLast?_eq_some_getLast present]
  rfl

theorem numbered_free (base : String) (number : Nat) : ¬ Reserved (base ++ toString number) := by
  intro reserved
  obtain ⟨c, last, digit⟩ := numbered_last base number
  rw [(reserved_ending _ reserved).2 c last] at digit
  exact Bool.noConfusion digit

-- Which characters are letters and digits is fixed for ASCII only.
structure Alphabet where
  letter : Char → Prop
  digit : Char → Prop
  letters : ∀ c, c.isAlpha = true → letter c
  digits : ∀ c, c.isDigit = true → digit c

namespace Alphabet

def ascii : Alphabet where
  letter c := c.isAlpha = true
  digit c := c.isDigit = true
  letters _ alpha := alpha
  digits _ digit := digit

variable (alphabet : Alphabet)

def Inside (c : Char) : Prop := alphabet.letter c ∨ alphabet.digit c ∨ c = '_'

structure Spelled (name : String) : Prop where
  head : ∃ c rest, name.toList = c :: rest ∧ (alphabet.letter c ∨ c = '_')
  chars : ∀ c ∈ name.toList, alphabet.Inside c

structure Identifier (name : String) : Prop extends alphabet.Spelled name where
  keyword : name ∉ keywords

theorem word_char_inside (c : Char) (word : isWordChar c = true) : alphabet.Inside c := by
  simp only [isWordChar, Char.isAlphanum, Bool.or_eq_true, decide_eq_true_eq] at word
  rcases word with (alpha | digit) | underscore
  · exact Or.inl (alphabet.letters c alpha)
  · exact Or.inr (Or.inl (alphabet.digits c digit))
  · exact Or.inr (Or.inr underscore)

theorem word_spelled (name : String) (word : Word name) (head : ∀ c ∈ name.toList.head?, c.isDigit = false) :
    alphabet.Spelled name := by
  have inside : ∀ c ∈ name.toList, alphabet.Inside c := fun c member => alphabet.word_char_inside c (word.chars c member)
  cases chars : name.toList with
  | nil => exact absurd (String.toList_inj.mp (chars.trans String.toList_empty.symm)) word.nonempty
  | cons c rest =>
      refine ⟨⟨c, rest, chars, ?_⟩, inside⟩
      have first := word.chars c (by simp [chars])
      simp only [isWordChar, Char.isAlphanum, head c (by simp [chars]), Bool.or_false, Bool.or_eq_true,
        decide_eq_true_eq] at first
      exact first.imp_left (alphabet.letters c)

theorem spelled_append (name ending : String) (spelled : alphabet.Spelled name) (chars : WordChars ending) :
    alphabet.Spelled (name ++ ending) := by
  obtain ⟨c, rest, first, letter⟩ := spelled.head
  refine ⟨⟨c, rest ++ ending.toList, by rw [String.toList_append, first, List.cons_append], letter⟩, fun d member => ?_⟩
  rw [String.toList_append] at member
  rcases List.mem_append.mp member with before | after
  · exact spelled.chars d before
  · exact alphabet.word_char_inside d (chars d after)

end Alphabet

theorem upper_range (c : Char) (upper : c.isUpper = true) : 65 ≤ c.toNat ∧ c.toNat ≤ 90 :=
  of_decide_eq_true upper

theorem lower_range (c : Char) (lower : c.isLower = true) : 97 ≤ c.toNat ∧ c.toNat ≤ 122 := by
  obtain ⟨least, most⟩ := Bool.and_eq_true_iff.mp lower
  exact ⟨of_decide_eq_true least, of_decide_eq_true most⟩

theorem digit_range (c : Char) (digit : c.isDigit = true) : 48 ≤ c.toNat ∧ c.toNat ≤ 57 :=
  Char.isDigit_iff_toNat.mp digit

theorem capital_or_digit_not_lower (c : Char) (kind : c.isUpper = true ∨ c.isDigit = true) : c.isLower = false := by
  refine Bool.eq_false_iff.mpr fun lower => ?_
  have range := lower_range c lower
  rcases kind with upper | digit
  · have := upper_range c upper
    omega
  · have := digit_range c digit
    omega

theorem keyword_lower (name : String) (keyword : name ∈ keywords) : ∀ c ∈ name.toList, c.isLower = true := by
  have all : ∀ name ∈ keywords, name.toList.all Char.isLower = true := by decide
  exact List.all_eq_true.mp (all name keyword)

def Small (name : String) : Prop := ∃ c rest, name.toList = c :: rest ∧ c.isLower = true

theorem lowered_head (c : Char) (alphanumeric : c.isAlphanum = true) (letter : c.toLower.isDigit = false) :
    c.toLower.isLower = true := by
  revert c
  exact ascii_checked alphanumeric_ascii (by decide)

-- A word may begin with a digit, and then a letter is put before it.
theorem local_name_small (name : String) : Small (localName name) := by
  suffices head : ∃ c rest, localChars name.toList = c :: rest ∧ c.isLower = true by
    simpa only [Small, localName, String.toList_ofList] using head
  have alphanumeric := Text.words_alphanumeric name.toList
  unfold localChars
  cases parts : Text.words name.toList with
  | nil => exact ⟨'p', "aram".toList, rfl, rfl⟩
  | cons first others =>
      obtain ⟨nonempty, letters⟩ := alphanumeric first (by simp [parts])
      obtain ⟨c, word, rfl⟩ := List.exists_cons_of_ne_nil nonempty
      have joined : Text.lower (c :: word) ++ others.flatMap pascalWord =
          c.toLower :: (word.map Char.toLower ++ others.flatMap pascalWord) := rfl
      dsimp only
      rw [joined]
      generalize word.map Char.toLower ++ others.flatMap pascalWord = rest
      have safe : ∃ d more, (if (c.toLower :: rest).head?.any Char.isDigit = true then 'p' :: c.toLower :: rest
          else c.toLower :: rest) = d :: more ∧ d.isLower = true := by
        split
        next => exact ⟨'p', _, rfl, rfl⟩
        next letter => exact ⟨_, _, rfl, lowered_head c (letters c List.mem_cons_self) (by simpa using letter)⟩
      obtain ⟨d, more, same, small⟩ := safe
      rw [same]
      split
      · exact ⟨d, more ++ "Param".toList, rfl, small⟩
      · exact ⟨d, more, rfl, small⟩

theorem small_append (name ending : String) (small : Small name) : Small (name ++ ending) := by
  obtain ⟨c, rest, chars, lower⟩ := small
  exact ⟨c, rest ++ ending.toList, by rw [String.toList_append, chars, List.cons_append], lower⟩

theorem alpha_not_digit (c : Char) (alpha : c.isAlpha = true) : c.isDigit = false := by
  refine Bool.eq_false_iff.mpr fun digit => ?_
  have range := digit_range c digit
  rcases Bool.or_eq_true_iff.mp alpha with upper | lower
  · have := upper_range c upper
    omega
  · have := lower_range c lower
    omega

theorem small_identifier (alphabet : Alphabet) (name : String) (word : Word name) (small : Small name)
    (free : name ∉ keywords) : alphabet.Identifier name := by
  obtain ⟨c, rest, chars, lower⟩ := small
  refine ⟨alphabet.word_spelled name word fun d first => ?_, free⟩
  obtain rfl : c = d := by simpa [chars] using first
  exact alpha_not_digit c (Bool.or_eq_true_iff.mpr (Or.inr lower))

theorem small_not_capital (name : String) (small : Small name) : ¬ Capital name := by
  obtain ⟨c, rest, chars, lower⟩ := small
  rintro ⟨d, others, same, upper⟩
  obtain ⟨rfl, _⟩ := List.cons.inj (chars.symm.trans same)
  rw [capital_or_digit_not_lower c (Or.inl upper)] at lower
  cases lower

structure Local (name : String) : Prop where
  word : Word name
  small : Small name
  free : ¬ Reserved name

theorem local_identifier (alphabet : Alphabet) (name : String) (own : Local name) : alphabet.Identifier name :=
  small_identifier alphabet name own.word own.small fun keyword => own.free (Or.inl keyword)

structure Plain (name : String) : Prop where
  nonempty : name ≠ ""
  ascii : ∀ c ∈ name.toList, c.toNat < 0x80 ∧ c.isAlphanum = true

structure ExportedName (name : String) : Prop extends Plain name where
  capital : Capital name

structure LocalName (name : String) : Prop extends Plain name where
  small : Small name
  keyword : name ∉ keywords
  body : name ∉ bodyNames

theorem letters_plain (name : String) (nonempty : name ≠ "") (letters : ∀ c ∈ name.toList, c.isAlphanum = true) :
    Plain name :=
  ⟨nonempty, fun c member => ⟨alphanumeric_ascii c (letters c member), letters c member⟩⟩

theorem exported_name (name : String) : ExportedName (exported name) :=
  ⟨letters_plain _ (exported_word name).nonempty (exported_letters name), exported_capital name⟩

theorem local_name (name : String) : LocalName (localName name) := by
  obtain ⟨nonempty, letters⟩ := local_name_letters name
  obtain ⟨keyword, body⟩ := not_or.mp (local_name_free name)
  exact ⟨letters_plain _ nonempty letters, local_name_small name, keyword, body⟩

theorem plain_numbered (name : String) (plain : Plain name) (number : Nat) : Plain (name ++ toString number) := by
  refine ⟨fun empty => plain.nonempty (String.append_eq_empty_iff.mp empty).1, fun c member => ?_⟩
  rw [String.toList_append] at member
  rcases List.mem_append.mp member with before | digit
  · exact plain.ascii c before
  · rw [Nat.toString_eq_repr, Nat.toList_repr] at digit
    have decimal := Nat.isDigit_of_mem_toDigits (by decide) (Nat.le_refl 10) digit
    have letter : c.isAlphanum = true := by rw [Char.isAlphanum, decimal, Bool.or_true]
    exact ⟨alphanumeric_ascii c letter, letter⟩

theorem exported_numbered (name : String) (own : ExportedName name) (number : Nat) :
    ExportedName (name ++ toString number) :=
  ⟨plain_numbered name own.toPlain number, capital_append name _ (number_word_chars number) own.capital⟩

-- A number after a reserved name is enough to leave the list, and no other name gets onto it: none of them ends in a
-- digit.
theorem local_numbered (name : String) (own : LocalName name) (number : Nat) : LocalName (name ++ toString number) := by
  obtain ⟨keyword, body⟩ := not_or.mp (numbered_free name number)
  exact ⟨plain_numbered name own.toPlain number, small_append name _ own.small, keyword, body⟩

theorem claimed_holds (holds : String → Prop) (names : Names) (base : String) (plain : holds base)
    (numbered : ∀ number : Nat, holds (base ++ toString number)) : holds (names.claim base).1 := by
  rcases names.claim_cases base with same | ⟨number, same⟩
  · rw [same]
    exact plain
  · rw [same]
    exact numbered number

theorem local_claim_free (names : Names) (wire : String) : ¬ Reserved (names.claim (localName wire)).1 :=
  claimed_holds (¬ Reserved ·) names _ (local_name_free wire) (numbered_free _)

theorem identifiers_stay_numbered (name : String) :
    (ExportedName (exported name) ∧ LocalName (localName name)) ∧
      (∀ number : Nat, ExportedName (exported name ++ toString number) ∧ LocalName (localName name ++ toString number)) ∧
      ∀ names : Names, ExportedName (names.claim (exported name)).1 ∧ LocalName (names.claim (localName name)).1 := by
  have upper := exported_numbered _ (exported_name name)
  have lower := local_numbered _ (local_name name)
  refine ⟨⟨exported_name name, local_name name⟩, fun number => ⟨upper number, lower number⟩, fun names => ⟨?_, ?_⟩⟩
  · exact claimed_holds ExportedName names _ (exported_name name) upper
  · exact claimed_holds LocalName names _ (local_name name) lower

end ApiBindings.Naming
