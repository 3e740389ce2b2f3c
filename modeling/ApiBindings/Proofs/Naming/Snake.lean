import ApiBindings.Operation.Path
import ApiBindings.Proofs.Naming.Exported
set_option autoImplicit false

namespace ApiBindings

namespace Text

theorem lowered_small (c : Char) (alphanumeric : c.isAlphanum = true) :
    c.toLower.isUpper = false ∧ c.toLower.toLower = c.toLower := by
  revert c
  exact Naming.ascii_checked Naming.alphanumeric_ascii (by decide)

structure Whole (word : List Char) : Prop where
  nonempty : word ≠ []
  letters : ∀ c ∈ word, c.isAlphanum = true
  small : ∀ c ∈ word, c.isUpper = false

theorem lowered_whole (name word : List Char) (member : word ∈ words name) : Whole (lower word) := by
  obtain ⟨nonempty, letters⟩ := words_alphanumeric name word member
  refine ⟨by simpa [lower] using nonempty, Naming.lower_alphanumeric word letters, fun c lowered => ?_⟩
  obtain ⟨d, inside, rfl⟩ := List.mem_map.mp lowered
  exact (lowered_small d (letters d inside)).1

theorem whole_unbroken (word rest : List Char) (small : ∀ c ∈ word, c.isUpper = false) : Unbroken word rest := by
  induction word with
  | nil => trivial
  | cons previous later ih =>
      cases later with
      | nil => trivial
      | cons c others =>
          have letter : c.isUpper = false := small c (List.mem_cons_of_mem _ List.mem_cons_self)
          refine ⟨fun changed => ?_, ih fun d member => small d (List.mem_cons_of_mem _ member)⟩
          rw [changed.1] at letter
          cases letter

theorem joined_laid (parts : List (List Char)) (whole : ∀ part ∈ parts, Whole part) :
    Laid none parts (['_'].intercalate parts) := by
  have first (text : List Char) : ∀ p ∈ (none : Option Char), CaseChange p text := fun p member => by cases member
  induction parts with
  | nil => exact .done (by simp)
  | cons part others ih =>
      obtain ⟨own, later⟩ := List.forall_mem_cons.mp whole
      have front (rest : List Char) (laid : Laid part.getLast? others rest) : Laid none (part :: others) (part ++ rest) :=
        laid_front none part rest others own.nonempty own.letters (first _) (whole_unbroken part rest own.small) laid
      cases others with
      | nil => simpa using front [] (.done (by simp))
      | cons next rest =>
          rw [List.intercalate_cons_cons, List.append_assoc]
          exact front _ (laid_separator _ '_' rfl _ _ (ih later))

theorem snake_words (name : List Char) : words (snakeCase name) = (words name).map lower := by
  refine ((laid_iff _ _).mp (joined_laid _ fun part member => ?_)).symm
  obtain ⟨word, listed, rfl⟩ := List.mem_map.mp member
  exact lowered_whole name word listed

theorem snake_again (name : List Char) : snakeCase (snakeCase name) = snakeCase name := by
  have same : ((words name).map lower).map lower = (words name).map lower := by
    rw [List.map_map]
    refine List.map_congr_left fun word member => ?_
    have letters := (words_alphanumeric name word member).2
    simp only [Function.comp_apply, lower, List.map_map]
    exact List.map_congr_left fun c inside => (lowered_small c (letters c inside)).2
  rw [snakeCase, snake_words, same, snakeCase]

end Text

namespace Naming

theorem snake_idempotent (name : String) : snake (snake name) = snake name := by
  rw [snake, snake, String.toList_ofList, Text.snake_again]

end Naming

namespace BoundParameter

def inSnake (b : BoundParameter) : BoundParameter := { b with wire := Naming.snake b.wire }

end BoundParameter

-- An exact match comes first, so of two parameters with the same words either one may be found. The words of what is
-- found are those of the placeholder all the same.
theorem find_bound_words (bound : List BoundParameter) (placeholder : String) :
    (findBound bound placeholder).map (Naming.snake ·.wire) =
      if Naming.snake placeholder ∈ bound.map (Naming.snake ·.wire) then some (Naming.snake placeholder) else none := by
  cases found : findBound bound placeholder with
  | none =>
      rw [findBound, Option.or_eq_none_iff, List.find?_eq_none, List.find?_eq_none] at found
      have absent : Naming.snake placeholder ∉ bound.map (Naming.snake ·.wire) := by
        intro member
        obtain ⟨b, listed, same⟩ := List.mem_map.mp member
        exact found.2 b listed (by simpa using same)
      rw [if_neg absent]
      rfl
  | some b =>
      have matched : b ∈ bound ∧ Naming.snake b.wire = Naming.snake placeholder := by
        rw [findBound, Option.or_eq_some_iff] at found
        rcases found with exact | ⟨_, loosely⟩
        · have same : b.wire = placeholder := by simpa using List.find?_some exact
          exact ⟨List.mem_of_find?_eq_some exact, by rw [same]⟩
        · exact ⟨List.mem_of_find?_eq_some loosely, by simpa using List.find?_some loosely⟩
      rw [if_pos (List.mem_map.mpr ⟨b, matched⟩), Option.map_some, matched.2]

namespace Naming

open BoundParameter (inSnake)

theorem words_kept_in_snake (name : String) :
    let words := Text.words name.toList
    (∀ word ∈ words, word ≠ [] ∧ ∀ c ∈ word, c.toNat < 0x80 ∧ c.isAlphanum = true) ∧
      words.flatten = name.toList.filter Char.isAlphanum ∧
      (∀ parts, Text.Laid none parts name.toList ↔ parts = words) ∧
      Text.words (snake name).toList = words.map Text.lower ∧ snake (snake name) = snake name ∧
      ∀ bound : List BoundParameter,
        bound.find? (fun b => snake b.wire = snake (snake name)) = bound.find? (fun b => snake b.wire = snake name) ∧
        (bound.map inSnake).find? (fun b => snake b.wire = snake name) =
          (bound.find? fun b => snake b.wire = snake name).map inSnake ∧
        (findBound bound (snake name)).map (snake ·.wire) = (findBound bound name).map (snake ·.wire) ∧
        (findBound (bound.map inSnake) name).map (snake ·.wire) = (findBound bound name).map (snake ·.wire) := by
  intro words
  refine ⟨fun word member => ?_, Text.laid_flatten none _ _ (Text.words_laid name.toList),
    fun parts => Text.laid_iff parts name.toList, ?_, snake_idempotent name, fun bound => ?_⟩
  · obtain ⟨nonempty, letters⟩ := Text.words_alphanumeric name.toList word member
    exact ⟨nonempty, fun c inside => ⟨alphanumeric_ascii c (letters c inside), letters c inside⟩⟩
  · rw [snake, String.toList_ofList, Text.snake_words]
  · have wires : (bound.map inSnake).map (snake ·.wire) = bound.map (snake ·.wire) := by
      rw [List.map_map]
      exact List.map_congr_left fun b _ => snake_idempotent b.wire
    refine ⟨by rw [snake_idempotent], ?_, ?_, ?_⟩
    · rw [List.find?_map]
      simp only [Function.comp_def, inSnake, snake_idempotent]
    · rw [find_bound_words, find_bound_words, snake_idempotent]
    · rw [find_bound_words, find_bound_words, wires]

end Naming

end ApiBindings
