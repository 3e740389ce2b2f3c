import ApiBindings.Layout
import Mathlib.Data.List.Basic
set_option autoImplicit false

namespace ApiBindings

namespace Text

theorem trim_end_cons (c : Char) (line : List Char) :
    trimEnd (c :: line) = if trimEnd line = [] ∧ isBlank c = true then [] else c :: trimEnd line := by
  simp only [trimEnd, List.reverse_cons, List.dropWhile_append, List.reverse_eq_nil_iff, List.isEmpty_iff]
  by_cases rest : List.dropWhile isBlank line.reverse = []
  · by_cases blank : isBlank c = true <;> simp [rest, blank]
  · simp [rest]

theorem trim_end_subset (line : List Char) : ∀ c ∈ trimEnd line, c ∈ line := fun _ member =>
  List.mem_reverse.mp ((List.dropWhile_sublist isBlank).subset (List.mem_reverse.mp member))

theorem trim_end_last (line : List Char) (c : Char) (last : (trimEnd line).getLast? = some c) : isBlank c = false := by
  rw [trimEnd, List.getLast?_reverse] at last
  cases rest : List.dropWhile isBlank line.reverse with
  | nil =>
      rw [rest] at last
      cases last
  | cons d others =>
      rw [rest] at last
      obtain rfl := Option.some.inj last
      have kept := List.head_dropWhile_not isBlank (l := line.reverse) (by simp [rest])
      simpa only [rest, List.head_cons] using kept

theorem trim_end_whole (line : List Char) (solid : ∀ c, line.getLast? = some c → isBlank c = false) : trimEnd line = line := by
  rcases List.eq_nil_or_concat line with rfl | ⟨front, last, rfl⟩
  · rfl
  · rw [List.concat_eq_append] at solid ⊢
    have unblank := solid last (by simp)
    simp [trimEnd, unblank]

theorem drop_return_subset (line : List Char) : ∀ c ∈ dropReturn line, c ∈ line := by
  unfold dropReturn
  split
  · exact fun c member => List.mem_cons_of_mem _ member
  · exact fun c member => member

theorem lines_from_feedless (line text : List Char) (opened : '\n' ∉ line) :
    ∀ part ∈ linesFrom line text, '\n' ∉ part := by
  fun_induction linesFrom line text with
  | case1 => simp
  | case2 line nonempty => simpa using opened
  | case3 line rest ih =>
      intro part member feed
      rcases List.mem_cons.mp member with rfl | later
      · exact opened (drop_return_subset line _ (List.mem_reverse.mp feed))
      · exact ih List.not_mem_nil part later feed
  | case4 line c rest other ih =>
      refine ih fun member => ?_
      rcases List.mem_cons.mp member with same | earlier
      · exact other same.symm
      · exact opened earlier

theorem lines_feedless (text : List Char) : ∀ line ∈ lines text, '\n' ∉ line :=
  lines_from_feedless [] text List.not_mem_nil

theorem lines_from_part (line part rest : List Char) (feedless : '\n' ∉ part) :
    linesFrom line (part ++ rest) = linesFrom (part.reverse ++ line) rest := by
  induction part generalizing line with
  | nil => rfl
  | cons c others ih =>
      have other : c ≠ '\n' := fun same => feedless (same ▸ List.mem_cons_self)
      rw [List.cons_append, linesFrom.eq_def]
      simp only [if_neg other]
      rw [ih (c :: line) fun member => feedless (List.mem_cons_of_mem _ member), List.reverse_cons, List.append_assoc]
      rfl

theorem lines_from_line (line part rest : List Char) (feedless : '\n' ∉ part) :
    linesFrom line (part ++ '\n' :: rest) = (dropReturn (part.reverse ++ line)).reverse :: linesFrom [] rest := by
  rw [lines_from_part line part _ feedless]
  simp [linesFrom]

theorem drop_return_kept (line : List Char) (last : line.head? ≠ some '\r') : dropReturn line = line := by
  unfold dropReturn
  split
  · exact absurd rfl last
  · rfl

theorem lines_block (parts : List (List Char)) (rest : List Char)
    (whole : ∀ part ∈ parts, '\n' ∉ part ∧ part.getLast? ≠ some '\r') :
    lines ((parts.flatMap fun part => part ++ ['\n']) ++ rest) = parts ++ lines rest := by
  induction parts with
  | nil => rfl
  | cons part others ih =>
      obtain ⟨feedless, last⟩ := whole part List.mem_cons_self
      have later := ih fun other member => whole other (List.mem_cons_of_mem _ member)
      rw [List.flatMap_cons, List.append_assoc, List.append_assoc, List.singleton_append, lines,
        lines_from_line [] part _ feedless, List.append_nil, drop_return_kept part.reverse (by rwa [List.head?_reverse]),
        List.reverse_reverse]
      exact congrArg _ later

theorem lines_joined (parts : List (List Char))
    (whole : ∀ part ∈ parts, '\n' ∉ part ∧ part.getLast? ≠ some '\r') :
    lines (parts.flatMap fun part => part ++ ['\n']) = parts := by
  have none : lines [] = [] := rfl
  have block := lines_block parts [] whole
  rwa [List.append_nil, none, List.append_nil] at block

end Text

namespace Layout

def isCode : List Char → Bool
  | [] => false
  | c :: rest => if Text.isBlank c then isCode rest else !(c = '/' && rest.head? = some '/')

def codeLines (text : List Char) : List (List Char) := (Text.lines text).filter isCode

theorem is_code_trim_end (line : List Char) : isCode (Text.trimEnd line) = isCode line := by
  induction line with
  | nil => rfl
  | cons c rest ih =>
      rw [Text.trim_end_cons]
      by_cases blank : Text.isBlank c = true
      · by_cases empty : Text.trimEnd rest = []
        · rw [if_pos ⟨empty, blank⟩, isCode, isCode, if_pos blank, ← ih, empty, isCode]
        · rw [if_neg fun both => empty both.1, isCode, isCode, if_pos blank, if_pos blank, ih]
      · have heads : (Text.trimEnd rest).head? = some '/' ↔ rest.head? = some '/' := by
          cases rest with
          | nil => rfl
          | cons d others =>
              rw [Text.trim_end_cons]
              split
              next both =>
                have different : d ≠ '/' := by
                  rintro rfl
                  exact absurd both.2 (by decide)
                simp [different]
              next => rfl
        rw [if_neg fun both => blank both.2, isCode, isCode, if_neg blank, if_neg blank, decide_eq_decide.mpr heads]

theorem collapse_code (lines : List (List Char)) : (collapse lines).filter isCode = lines.filter isCode := by
  fun_induction collapse lines with
  | case1 => rfl
  | case2 rest again ih => simp [ih, isCode]
  | case3 rest single ih => simp [ih, isCode]
  | case4 line rest nonempty ih => simp only [List.filter_cons, ih]

theorem drop_empty_code (lines : List (List Char)) :
    (lines.dropWhile List.isEmpty).filter isCode = lines.filter isCode := by
  induction lines with
  | nil => rfl
  | cons line rest ih =>
      cases line with
      | nil => simpa [isCode] using ih
      | cons c others => rfl

theorem drop_blank_end_code (lines : List (List Char)) : (dropBlankEnd lines).filter isCode = lines.filter isCode := by
  rw [dropBlankEnd, List.filter_reverse, drop_empty_code, List.filter_reverse, List.reverse_reverse]

theorem collapse_subset (lines : List (List Char)) : ∀ line ∈ collapse lines, line ∈ lines := by
  fun_induction collapse lines with
  | case1 => exact fun _ member => member
  | case2 rest again ih => exact fun line member => List.mem_cons_of_mem _ (ih line member)
  | case3 rest single ih =>
      exact fun line member => (List.mem_cons.mp member).elim (fun same => same ▸ List.mem_cons_self) fun later =>
        List.mem_cons_of_mem _ (ih line later)
  | case4 first rest nonempty ih =>
      exact fun line member => (List.mem_cons.mp member).elim (fun same => same ▸ List.mem_cons_self) fun later =>
        List.mem_cons_of_mem _ (ih line later)

theorem tidy_lines_trimmed (lines : List (List Char)) : ∀ line ∈ tidyLines lines, ∃ old ∈ lines, line = Text.trimEnd old := by
  intro line member
  have dropped := List.mem_reverse.mp ((List.dropWhile_sublist _).subset (List.mem_reverse.mp member))
  have trimmed := (List.dropWhile_sublist _).subset (collapse_subset _ line dropped)
  obtain ⟨old, listed, rfl⟩ := List.mem_map.mp trimmed
  exact ⟨old, listed, rfl⟩

theorem tidy_lines (text : List Char) : Text.lines (tidy text) = tidyLines (Text.lines text) := by
  refine Text.lines_joined _ fun line member => ?_
  obtain ⟨old, listed, rfl⟩ := tidy_lines_trimmed _ line member
  refine ⟨fun feed => Text.lines_feedless text old listed (Text.trim_end_subset old _ feed), fun last => ?_⟩
  exact absurd (Text.trim_end_last old '\r' last) (by decide)

theorem tidy_code_lines (text : List Char) : codeLines (tidy text) = (codeLines text).map Text.trimEnd := by
  have same : isCode ∘ Text.trimEnd = isCode := funext is_code_trim_end
  rw [codeLines, tidy_lines, tidyLines, drop_blank_end_code, collapse_code, drop_empty_code, List.filter_map, same, codeLines]

end Layout

end ApiBindings
