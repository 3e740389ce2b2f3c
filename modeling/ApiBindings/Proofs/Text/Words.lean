import ApiBindings.Text.Words
set_option autoImplicit false

namespace ApiBindings.Text

-- A word begins directly behind another one: with a capital behind a small letter or a digit, or with the last
-- one of several capitals when a small letter follows it.
def CaseChange (previous : Char) : List Char → Prop
  | [] => False
  | c :: rest => c.isUpper = true ∧
    (previous.isLower = true ∨ previous.isDigit = true ∨
      (previous.isUpper = true ∧ ∃ next ∈ rest.head?, next.isLower = true))

def Unbroken : List Char → List Char → Prop
  | [], _ => True
  | [_], _ => True
  | previous :: c :: word, rest => ¬ CaseChange previous (c :: (word ++ rest)) ∧ Unbroken (c :: word) rest

-- Words in a text, in their order. `previous` is the last character of a word that ends where the text begins.
inductive Laid : Option Char → List (List Char) → List Char → Prop where
  | done {previous : Option Char} {gap : List Char} (apart : ∀ c ∈ gap, c.isAlphanum = false) : Laid previous [] gap
  | word {previous : Option Char} {gap word rest : List Char} {words : List (List Char)}
      (apart : ∀ c ∈ gap, c.isAlphanum = false) (nonempty : word ≠ []) (letters : ∀ c ∈ word, c.isAlphanum = true)
      (changed : gap = [] → ∀ p ∈ previous, CaseChange p (word ++ rest)) (unbroken : Unbroken word rest)
      (later : Laid word.getLast? words rest) :
      Laid previous (word :: words) (gap ++ (word ++ rest))

theorem case_change_iff (previous c : Char) (rest : List Char) :
    CaseChange previous (c :: rest) ↔ (c.isUpper && beginsWord previous rest.head?) = true := by
  simp only [CaseChange, beginsWord, Bool.and_eq_true, Bool.or_eq_true, Option.any_eq_true, or_assoc]
  rfl

theorem unbroken_next (word rest : List Char) (previous c : Char) (unbroken : Unbroken (word ++ [previous]) (c :: rest))
    (same : ¬ CaseChange previous (c :: rest)) : Unbroken (word ++ [previous, c]) rest := by
  induction word with
  | nil => exact ⟨same, trivial⟩
  | cons first later ih =>
      cases later with
      | nil =>
          obtain ⟨begun, _⟩ := unbroken
          exact ⟨begun, same, trivial⟩
      | cons second others =>
          obtain ⟨begun, unbroken⟩ := unbroken
          refine ⟨?_, ih unbroken⟩
          simpa using begun

theorem laid_separator (previous : Option Char) (c : Char) (separator : c.isAlphanum = false) (words : List (List Char))
    (name : List Char) (laid : Laid none words name) : Laid previous words (c :: name) := by
  cases laid with
  | done apart => exact .done (List.forall_mem_cons.mpr ⟨separator, apart⟩)
  | @word _ gap word rest words apart nonempty letters _ unbroken later =>
      exact @Laid.word previous (c :: gap) word rest words (List.forall_mem_cons.mpr ⟨separator, apart⟩) nonempty letters
        (fun empty => absurd empty (List.cons_ne_nil c gap)) unbroken later

theorem laid_front (previous : Option Char) (word name : List Char) (words : List (List Char)) (nonempty : word ≠ [])
    (letters : ∀ c ∈ word, c.isAlphanum = true) (changed : ∀ p ∈ previous, CaseChange p (word ++ name))
    (unbroken : Unbroken word name) (laid : Laid word.getLast? words name) : Laid previous (word :: words) (word ++ name) :=
  @Laid.word previous [] word name words (List.forall_mem_nil _) nonempty letters
    (fun _ => changed) unbroken laid

-- The open word is kept reversed. All of it was alphanumeric when it was read, and the case has not changed in it.
theorem words_from_laid (opened name : List Char) (previous : Option Char) (letters : ∀ c ∈ opened, c.isAlphanum = true)
    (unbroken : Unbroken opened.reverse name) (changed : ∀ p ∈ previous, CaseChange p (opened.reverse ++ name)) :
    Laid previous (wordsFrom opened name) (opened.reverse ++ name) := by
  have reversed {word : List Char} (letters : ∀ c ∈ word, c.isAlphanum = true) :
      ∀ c ∈ word.reverse, c.isAlphanum = true := fun c member => letters c (List.mem_reverse.mp member)
  have none_changed (text : List Char) : ∀ p ∈ (none : Option Char), CaseChange p text := fun p member => by cases member
  fun_induction wordsFrom opened name generalizing previous with
  | case1 => exact .done (by simp)
  | case2 word nonempty =>
      exact laid_front previous word.reverse [] [] (by simpa using nonempty) (reversed letters) changed unbroken
        (.done (by simp))
  | case3 c rest alphanumeric ih => exact ih previous (by simpa using alphanumeric) trivial changed
  | case4 c rest separator ih =>
      exact laid_separator previous c (Bool.eq_false_iff.mpr separator) _ rest
        (ih none (by simp) trivial (none_changed _))
  | case5 last word c rest separator ih =>
      exact laid_front previous _ _ _ (by simp) (reversed letters) changed unbroken
        (laid_separator _ c (by simpa using separator) _ rest (ih none (by simp) trivial (none_changed _)))
  | case6 last word c rest alphanumeric begins ih =>
      refine laid_front previous _ _ _ (by simp) (reversed letters) changed unbroken
        (ih _ (by simpa using alphanumeric) trivial fun p ended => ?_)
      obtain rfl : last = p := by simpa using ended
      exact (case_change_iff last c rest).mpr begins
  | case7 last word c rest alphanumeric inside ih =>
      rw [List.reverse_cons, List.reverse_cons, List.append_assoc, List.append_assoc] at ih
      rw [List.reverse_cons, List.append_assoc] at changed ⊢
      rw [List.reverse_cons] at unbroken
      exact ih previous (List.forall_mem_cons.mpr ⟨by simpa using alphanumeric, letters⟩)
        (unbroken_next word.reverse rest last c unbroken (mt (case_change_iff last c rest).mp inside)) changed

theorem words_laid (name : List Char) : Laid none (words name) name :=
  words_from_laid [] name none (by simp) trivial fun p member => by cases member

theorem laid_alphanumeric (previous : Option Char) (words : List (List Char)) (name : List Char)
    (laid : Laid previous words name) : ∀ word ∈ words, word ≠ [] ∧ ∀ c ∈ word, c.isAlphanum = true := by
  induction laid with
  | done => exact fun word member => absurd member List.not_mem_nil
  | word _ nonempty letters _ _ _ ih => exact List.forall_mem_cons.mpr ⟨⟨nonempty, letters⟩, ih⟩

theorem words_alphanumeric (name part : List Char) (member : part ∈ words name) :
    part ≠ [] ∧ ∀ c ∈ part, c.isAlphanum = true :=
  laid_alphanumeric none (words name) name (words_laid name) part member

theorem laid_flatten (previous : Option Char) (words : List (List Char)) (name : List Char)
    (laid : Laid previous words name) : words.flatten = name.filter Char.isAlphanum := by
  have dropped {gap : List Char} (apart : ∀ c ∈ gap, c.isAlphanum = false) : gap.filter Char.isAlphanum = [] :=
    List.filter_eq_nil_iff.mpr fun c member => Bool.eq_false_iff.mp (apart c member)
  induction laid with
  | done apart => exact (dropped apart).symm
  | word apart _ letters _ _ _ ih =>
      rw [List.filter_append, List.filter_append, dropped apart, List.filter_eq_self.mpr letters, List.flatten_cons, ih,
        List.nil_append]

theorem separator_read (opened rest : List Char) (c : Char) (separator : c.isAlphanum = false) :
    wordsFrom opened (c :: rest) = wordsFrom opened [] ++ wordsFrom [] rest := by
  cases opened with
  | nil => simp [wordsFrom, separator]
  | cons last word => simp [wordsFrom, separator]

theorem gap_read (gap rest : List Char) (apart : ∀ c ∈ gap, c.isAlphanum = false) :
    wordsFrom [] (gap ++ rest) = wordsFrom [] rest := by
  induction gap with
  | nil => rfl
  | cons c later ih =>
      obtain ⟨separator, apart⟩ := List.forall_mem_cons.mp apart
      rw [List.cons_append, separator_read [] _ c separator, ih apart]
      rfl

theorem change_read (opened rest : List Char) (previous c : Char) (letter : c.isAlphanum = true)
    (changed : CaseChange previous (c :: rest)) :
    wordsFrom (previous :: opened) (c :: rest) = wordsFrom (previous :: opened) [] ++ wordsFrom [] (c :: rest) := by
  have begins := (case_change_iff previous c rest).mp changed
  simp [wordsFrom, letter, begins]

theorem unbroken_read (opened word rest : List Char) (previous : Char) (letters : ∀ c ∈ word, c.isAlphanum = true)
    (unbroken : Unbroken (previous :: word) rest) :
    wordsFrom (previous :: opened) (word ++ rest) = wordsFrom (word.reverse ++ previous :: opened) rest := by
  induction word generalizing opened previous with
  | nil => rfl
  | cons c later ih =>
      obtain ⟨letter, letters⟩ := List.forall_mem_cons.mp letters
      obtain ⟨same, unbroken⟩ := unbroken
      have inside := mt (case_change_iff previous c (later ++ rest)).mpr same
      have read : wordsFrom (previous :: opened) (c :: (later ++ rest)) =
          wordsFrom (c :: previous :: opened) (later ++ rest) := by
        rw [wordsFrom, letter, if_neg (by simp), if_neg inside]
      rw [List.cons_append, read, ih (previous :: opened) c letters unbroken, List.reverse_cons, List.append_assoc]
      rfl

theorem word_read (word rest : List Char) (letters : ∀ c ∈ word, c.isAlphanum = true) (unbroken : Unbroken word rest) :
    wordsFrom [] (word ++ rest) = wordsFrom word.reverse rest := by
  cases word with
  | nil => rfl
  | cons c later =>
      obtain ⟨letter, letters⟩ := List.forall_mem_cons.mp letters
      rw [List.cons_append, wordsFrom, if_pos letter, unbroken_read [] later rest c letters unbroken, List.reverse_cons]

theorem laid_read (opened : List Char) (words : List (List Char)) (name : List Char) (laid : Laid opened.head? words name) :
    wordsFrom opened name = wordsFrom opened [] ++ words := by
  generalize ended : opened.head? = previous at laid
  induction laid generalizing opened with
  | @done _ gap apart =>
      cases gap with
      | nil => rw [List.append_nil]
      | cons c later =>
          obtain ⟨separator, apart⟩ := List.forall_mem_cons.mp apart
          have skipped := gap_read later [] apart
          rw [List.append_nil] at skipped
          rw [separator_read opened later c separator, skipped]
          rfl
  | @word _ gap word rest words apart nonempty letters changed unbroken _ ih =>
      have closed : wordsFrom word.reverse [] = [word] := by
        cases reversed : word.reverse with
        | nil => exact absurd (List.reverse_eq_nil_iff.mp reversed) nonempty
        | cons last others => simp [wordsFrom, ← reversed]
      have own : wordsFrom [] (word ++ rest) = word :: words := by
        rw [word_read word rest letters unbroken, ih word.reverse List.head?_reverse, closed]
        rfl
      rw [← own]
      cases gap with
      | cons c later =>
          obtain ⟨separator, apart⟩ := List.forall_mem_cons.mp apart
          rw [List.cons_append, separator_read opened _ c separator, gap_read later _ apart]
      | nil =>
          cases opened with
          | nil => rfl
          | cons last others =>
              obtain ⟨c, later, rfl⟩ := List.exists_cons_of_ne_nil nonempty
              exact change_read others _ last c (letters c List.mem_cons_self) (changed rfl last (ended ▸ rfl))

theorem laid_iff (parts : List (List Char)) (name : List Char) : Laid none parts name ↔ parts = words name := by
  constructor
  · intro laid
    exact (laid_read [] parts name laid).symm
  · rintro rfl
    exact words_laid name

example : words "HTTPServer_id".toList = ["HTTP".toList, "Server".toList, "id".toList] := by decide

end ApiBindings.Text
