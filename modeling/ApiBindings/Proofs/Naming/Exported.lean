import ApiBindings.Naming
import ApiBindings.Proofs.Naming.Word
import ApiBindings.Proofs.Text.Words
set_option autoImplicit false

namespace ApiBindings

namespace Naming

def Capital (name : String) : Prop := ∃ c rest, name.toList = c :: rest ∧ c.isUpper = true

theorem capital_iff (name : String) : name.toList.head?.any Char.isUpper = true ↔ Capital name := by
  cases chars : name.toList with
  | nil => simp [Capital, chars]
  | cons c rest => simp [Capital, chars]

instance (name : String) : Decidable (Capital name) := decidable_of_iff _ (capital_iff name)

theorem alphanumeric_ascii (c : Char) (alphanumeric : c.isAlphanum = true) : c.toNat < 0x80 := by
  have ranges : ((decide (c.val ≥ 'A'.val ∧ c.val ≤ 'Z'.val) || (decide (c.val ≥ 'a'.val) && decide (c.val ≤ 'z'.val))) ||
      (decide (c.val ≥ '0'.val) && decide (c.val ≤ '9'.val))) = true := alphanumeric
  simp only [Bool.or_eq_true, Bool.and_eq_true, decide_eq_true_eq, ge_iff_le, UInt32.le_iff_toNat_le] at ranges
  change ((65 ≤ c.toNat ∧ c.toNat ≤ 90) ∨ (97 ≤ c.toNat ∧ c.toNat ≤ 122)) ∨ (48 ≤ c.toNat ∧ c.toNat ≤ 57) at ranges
  omega

-- What holds of all characters of a kind can be checked one by one when they are ASCII.
theorem ascii_checked {kind : Char → Bool} {holds : Char → Prop} (ascii : ∀ c, kind c = true → c.toNat < 0x80)
    (checked : ∀ n : Fin 0x80, kind (Char.ofNat n) = true → holds (Char.ofNat n)) (c : Char) (own : kind c = true) :
    holds c := by
  have known := checked ⟨c.toNat, ascii c own⟩
  rw [Char.ofNat_toNat] at known
  exact known own

theorem upper_alphanumeric (c : Char) (alphanumeric : c.isAlphanum = true) :
    (c.toUpper.isUpper = true ∨ c.toUpper.isDigit = true) ∧ c.toLower.isAlphanum = true := by
  revert c
  exact ascii_checked alphanumeric_ascii (by decide)

theorem pascal_word_head (c : Char) (word : List Char) (alphanumeric : c.isAlphanum = true) :
    ∃ d rest, pascalWord (c :: word) = d :: rest ∧ (d.isUpper = true ∨ d.isDigit = true) := by
  obtain ⟨upper, lowered⟩ := upper_alphanumeric c alphanumeric
  by_cases initialism : initialisms.contains (String.ofList (Text.upper (c :: word))) = true
  · exact ⟨c.toUpper, Text.upper word, by simp only [pascalWord, if_pos initialism]; rfl, upper⟩
  · refine ⟨c.toLower.toUpper, Text.lower word, ?_, (upper_alphanumeric c.toLower lowered).1⟩
    rw [pascalWord, if_neg initialism]
    exact Text.capitalize_ascii (alphanumeric_ascii c.toLower lowered)

theorem exported_capital (name : String) : Capital (exported name) := by
  suffices head : ∃ c rest, exportedChars name.toList = c :: rest ∧ c.isUpper = true by
    simpa only [Capital, exported, String.toList_ofList] using head
  have alphanumeric := Text.words_alphanumeric name.toList
  unfold exportedChars pascalChars
  cases parts : Text.words name.toList with
  | nil => exact ⟨'U', "nnamed".toList, rfl, rfl⟩
  | cons part others =>
      obtain ⟨nonempty, letters⟩ := alphanumeric part (by simp [parts])
      obtain ⟨c, word, rfl⟩ := List.exists_cons_of_ne_nil nonempty
      obtain ⟨d, rest, head, kind⟩ := pascal_word_head c word (letters c (by simp))
      rw [List.flatMap_cons, head, List.cons_append]
      by_cases digit : d.isDigit = true
      · exact ⟨'N', d :: (rest ++ others.flatMap pascalWord), by simp [digit], rfl⟩
      · exact ⟨d, rest ++ others.flatMap pascalWord, by simp [digit], kind.resolve_right digit⟩

theorem capital_append (name ending : String) (_ : WordChars ending) (capital : Capital name) :
    Capital (name ++ ending) := by
  obtain ⟨c, rest, chars, upper⟩ := capital
  exact ⟨c, rest ++ ending.toList, by simp [chars], upper⟩

theorem lower_alphanumeric (word : List Char) (letters : ∀ c ∈ word, c.isAlphanum = true) :
    ∀ c ∈ Text.lower word, c.isAlphanum = true := by
  intro c member
  obtain ⟨d, inside, rfl⟩ := List.mem_map.mp member
  exact (upper_alphanumeric d (letters d inside)).2

theorem upper_is_alphanumeric (c : Char) (alphanumeric : c.isAlphanum = true) : c.toUpper.isAlphanum = true := by
  rcases (upper_alphanumeric c alphanumeric).1 with upper | digit
  · change ((c.toUpper.isUpper || c.toUpper.isLower) || c.toUpper.isDigit) = true
    simp [upper]
  · simp [Char.isAlphanum, digit]

theorem pascal_word_alphanumeric (word : List Char) (letters : ∀ c ∈ word, c.isAlphanum = true) :
    ∀ c ∈ pascalWord word, c.isAlphanum = true := by
  have lowered := lower_alphanumeric word letters
  unfold pascalWord
  split
  · intro c member
    obtain ⟨d, inside, rfl⟩ := List.mem_map.mp member
    exact upper_is_alphanumeric d (letters d inside)
  · cases chars : Text.lower word with
    | nil => exact fun c member => absurd member List.not_mem_nil
    | cons c rest =>
        rw [chars] at lowered
        have first := lowered c List.mem_cons_self
        rw [Text.capitalize_ascii (alphanumeric_ascii c first)]
        intro d member
        rcases List.mem_cons.mp member with rfl | later
        · exact upper_is_alphanumeric c first
        · exact lowered d (List.mem_cons_of_mem _ later)

theorem pascal_words_alphanumeric (words : List (List Char))
    (letters : ∀ word ∈ words, ∀ c ∈ word, c.isAlphanum = true) :
    ∀ c ∈ words.flatMap pascalWord, c.isAlphanum = true := by
  intro c member
  obtain ⟨word, listed, inside⟩ := List.mem_flatMap.mp member
  exact pascal_word_alphanumeric word (letters word listed) c inside

theorem pascal_word_chars (name : String) : WordChars (pascal name) := by
  intro c member
  rw [pascal, String.toList_ofList] at member
  exact alphanumeric_word_char c
    (pascal_words_alphanumeric _ (fun word listed => (Text.words_alphanumeric _ word listed).2) c member)

theorem stem_sublist (ending text stem : List Char) (found : stem? ending text = some stem) : stem.Sublist text := by
  unfold stem? at found
  split at found
  next =>
    rw [← Option.some.inj found]
    exact List.take_sublist _ _
  next => cases found

theorem singular_word_chars (word : String) (chars : WordChars word) : WordChars (singular word) := by
  unfold singular singularChars WordChars
  rw [String.toList_ofList]
  split
  next stem found =>
    intro c member
    rcases List.mem_append.mp member with inside | y
    · exact chars c ((stem_sublist _ _ _ found).subset inside)
    · rw [List.mem_singleton.mp y]
      decide
  next =>
    split
    next stem found =>
      split
      · exact chars
      · exact fun c member => chars c ((stem_sublist _ _ _ found).subset member)
    next => exact chars

theorem exported_letters (name : String) : ∀ c ∈ (exported name).toList, c.isAlphanum = true := by
  have letters : ∀ c ∈ pascalChars name.toList, c.isAlphanum = true :=
    pascal_words_alphanumeric _ fun word listed => (Text.words_alphanumeric _ word listed).2
  intro c member
  rw [exported, String.toList_ofList] at member
  unfold exportedChars at member
  split at member
  · exact List.all_eq_true.mp (by decide : "Unnamed".toList.all Char.isAlphanum = true) c member
  next d rest chars =>
    rw [chars] at letters
    split at member
    · rcases List.mem_cons.mp member with rfl | inside
      · rfl
      · exact letters c inside
    · exact letters c member

theorem exported_word (name : String) : Word (exported name) := by
  refine ⟨fun empty => ?_, fun c member => alphanumeric_word_char c (exported_letters name c member)⟩
  obtain ⟨c, rest, chars, _⟩ := exported_capital name
  rw [empty] at chars
  cases chars

theorem local_name_letters (name : String) :
    localName name ≠ "" ∧ ∀ c ∈ (localName name).toList, c.isAlphanum = true := by
  have alphanumeric := Text.words_alphanumeric name.toList
  suffices letters : localChars name.toList ≠ [] ∧ ∀ c ∈ localChars name.toList, c.isAlphanum = true by
    refine ⟨fun empty => letters.1 (by simpa [localName] using congrArg String.toList empty), fun c member => ?_⟩
    rw [localName, String.toList_ofList] at member
    exact letters.2 c member
  unfold localChars
  cases parts : Text.words name.toList with
  | nil => exact ⟨by decide, List.all_eq_true.mp (by decide)⟩
  | cons first others =>
      rw [parts] at alphanumeric
      obtain ⟨nonempty, letters⟩ := alphanumeric first List.mem_cons_self
      have joined : ∀ c ∈ Text.lower first ++ others.flatMap pascalWord, c.isAlphanum = true := by
        intro c member
        rcases List.mem_append.mp member with inside | later
        · exact lower_alphanumeric first letters c inside
        · exact pascal_words_alphanumeric others
            (fun word listed => (alphanumeric word (List.mem_cons_of_mem _ listed)).2) c later
      have filled : Text.lower first ++ others.flatMap pascalWord ≠ [] := by
        simp [Text.lower, nonempty]
      dsimp only
      generalize Text.lower first ++ others.flatMap pascalWord = chars at joined filled ⊢
      have safe : (if chars.head?.any Char.isDigit then 'p' :: chars else chars) ≠ [] ∧
          ∀ c ∈ (if chars.head?.any Char.isDigit then 'p' :: chars else chars), c.isAlphanum = true := by
        split
        · refine ⟨List.cons_ne_nil _ _, fun c member => ?_⟩
          rcases List.mem_cons.mp member with rfl | inside
          · rfl
          · exact joined c inside
        · exact ⟨filled, joined⟩
      generalize (if chars.head?.any Char.isDigit then 'p' :: chars else chars) = name at safe ⊢
      split
      · refine ⟨by simp, fun c member => ?_⟩
        rcases List.mem_append.mp member with inside | ending
        · exact safe.2 c inside
        · exact List.all_eq_true.mp (by decide : "Param".toList.all Char.isAlphanum = true) c ending
      · exact safe

theorem local_name_word (name : String) : Word (localName name) := by
  obtain ⟨nonempty, letters⟩ := local_name_letters name
  exact ⟨nonempty, fun c member => alphanumeric_word_char c (letters c member)⟩

end Naming

end ApiBindings
