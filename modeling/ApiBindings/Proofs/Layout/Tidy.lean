import ApiBindings.Formatter
import ApiBindings.Proofs.Layout.Lines
import ApiBindings.Proofs.Layout.Steps
import Mathlib.Data.List.Chain
import Mathlib.Data.List.TakeWhile
set_option autoImplicit false

namespace ApiBindings

namespace Text

theorem trim_end_parts (line : List Char) : ∃ blanks, line = trimEnd line ++ blanks ∧ ∀ c ∈ blanks, isBlank c = true := by
  refine ⟨(line.reverse.takeWhile isBlank).reverse, ?_, fun c member => List.mem_takeWhile_imp (List.mem_reverse.mp member)⟩
  rw [trimEnd, ← List.reverse_append, List.takeWhile_append_dropWhile, List.reverse_reverse]

theorem trim_drop_return (line : List Char) : trimEnd (dropReturn line).reverse = trimEnd line.reverse := by
  unfold dropReturn
  split
  · rw [trimEnd, trimEnd, List.reverse_reverse, List.reverse_reverse]
    rfl
  · rfl

end Text

namespace Layout

def joined (lines : List (List Char)) : List Char := lines.flatMap fun line => line ++ ['\n']

structure TidyLines (lines : List (List Char)) : Prop where
  unbroken : ∀ line ∈ lines, '\n' ∉ line
  trimmed : ∀ line ∈ lines, ∀ c, line.getLast? = some c → Text.isBlank c = false
  apart : lines.IsChain fun line next => line = [] → next ≠ []
  begun : lines.head? ≠ some []
  ended : lines.getLast? ≠ some []

theorem collapse_head (lines : List (List Char)) : (collapse lines).head? = lines.head? := by
  fun_induction collapse lines with
  | case1 => rfl
  | case2 rest again ih => rw [ih, again, List.head?_cons]
  | case3 rest single ih => rfl
  | case4 line rest nonempty ih => rfl

theorem collapse_apart (lines : List (List Char)) : (collapse lines).IsChain fun line next => line = [] → next ≠ [] := by
  fun_induction collapse lines with
  | case1 => exact .nil
  | case2 rest again ih => exact ih
  | case3 rest single ih =>
      refine List.isChain_cons.mpr ⟨fun next first _ empty => ?_, ih⟩
      rw [collapse_head] at first
      exact single (by rw [first, empty])
  | case4 line rest nonempty ih => exact List.isChain_cons.mpr ⟨fun next _ empty => absurd empty nonempty, ih⟩

theorem collapse_kept (lines : List (List Char)) (apart : lines.IsChain fun line next => line = [] → next ≠ []) :
    collapse lines = lines := by
  fun_induction collapse lines with
  | case1 => rfl
  | case2 rest again ih => exact absurd rfl ((List.isChain_cons.mp apart).1 [] again rfl)
  | case3 rest single ih => rw [ih (List.isChain_cons.mp apart).2]
  | case4 line rest nonempty ih => rw [ih (List.isChain_cons.mp apart).2]

theorem drop_blank_end_prefix (lines : List (List Char)) : dropBlankEnd lines <+: lines := by
  have dropped := List.reverse_prefix.mpr (List.dropWhile_suffix (l := lines.reverse) List.isEmpty)
  rwa [List.reverse_reverse] at dropped

theorem dropped_head (lines : List (List Char)) : (lines.dropWhile List.isEmpty).head? ≠ some [] := by
  intro first
  have kept := List.head?_dropWhile_not List.isEmpty lines
  rw [first] at kept
  cases kept

theorem head_kept (lines : List (List Char)) (begun : lines.head? ≠ some []) : lines.dropWhile List.isEmpty = lines := by
  cases lines with
  | nil => rfl
  | cons line rest =>
      cases line with
      | nil => exact absurd rfl begun
      | cons c others => rfl

theorem tidy_lines_tidy (lines : List (List Char)) (unbroken : ∀ line ∈ lines, '\n' ∉ line) : TidyLines (tidyLines lines) := by
  obtain ⟨after, same⟩ := drop_blank_end_prefix (collapse ((lines.map Text.trimEnd).dropWhile List.isEmpty))
  refine ⟨fun line member => ?_, fun line member => ?_, ?_, ?_, ?_⟩
  · obtain ⟨old, listed, rfl⟩ := tidy_lines_trimmed lines line member
    exact fun feed => unbroken old listed (Text.trim_end_subset old _ feed)
  · obtain ⟨old, _, rfl⟩ := tidy_lines_trimmed lines line member
    exact Text.trim_end_last old
  · have apart := collapse_apart ((lines.map Text.trimEnd).dropWhile List.isEmpty)
    rw [← same] at apart
    exact apart.left_of_append
  · intro first
    have begun := dropped_head (lines.map Text.trimEnd)
    rw [← collapse_head, ← same, List.head?_append] at begun
    exact begun (by rw [show (dropBlankEnd _).head? = some [] from first]; rfl)
  · rw [tidyLines, dropBlankEnd, List.getLast?_reverse]
    exact dropped_head _

theorem tidy_lines_kept (lines : List (List Char)) (tidy : TidyLines lines) : tidyLines lines = lines := by
  have trimmed : lines.map Text.trimEnd = lines :=
    (List.map_congr_left fun line member => Text.trim_end_whole line (tidy.trimmed line member)).trans (List.map_id lines)
  have ended : lines.reverse.head? ≠ some [] := by
    rw [List.head?_reverse]
    exact tidy.ended
  rw [tidyLines, trimmed, head_kept lines tidy.begun, collapse_kept lines tidy.apart, dropBlankEnd, head_kept _ ended,
    List.reverse_reverse]

theorem tidy_joined (text : List Char) : ∃ lines, tidy text = joined lines ∧ TidyLines lines :=
  ⟨tidyLines (Text.lines text), rfl, tidy_lines_tidy _ (Text.lines_feedless text)⟩

theorem tidy_idempotent (text : List Char) : tidy (tidy text) = tidy text := by
  have kept := tidy_lines_kept _ (tidy_lines_tidy _ (Text.lines_feedless text))
  rw [tidy, tidy_lines, kept]
  rfl

namespace Progress

theorem blank_visible (c visible : Char) (blank : Text.isBlank c = true) (solid : Text.isBlank visible = false) :
    c ≠ visible := by
  rintro rfl
  exact Bool.noConfusion (solid.symm.trans blank)

theorem blank_quote (c : Char) (blank : Text.isBlank c = true) : ¬ isQuote c = true := by
  simp [isQuote, blank_visible c '"' blank (by decide), blank_visible c '\'' blank (by decide)]

theorem blank_code (stack : List Char) (c : Char) (blank : Text.isBlank c = true) : codeStep stack c = some ⟨stack, .code⟩ := by
  have opens : ¬ isOpening c = true := by
    simp [isOpening, blank_visible c '(' blank (by decide), blank_visible c '[' blank (by decide),
      blank_visible c '{' blank (by decide)]
  have closes : opening? c = none := by
    refine Option.eq_none_iff_forall_not_mem.mpr fun opening same => ?_
    rcases closing_kinds c opening same with ⟨rfl, _⟩ | ⟨rfl, _⟩ | ⟨rfl, _⟩ <;> cases blank
  rw [codeStep, dif_neg (blank_quote c blank), if_neg (blank_visible c '\x60' blank (by decide)),
    if_neg (blank_visible c '/' blank (by decide)), if_neg opens, closes]

-- Where a line feed follows a blank it could as well stand in its place.
theorem feed_for_blank (progress next after : Progress) (c : Char) (blank : Text.isBlank c = true) (other : c ≠ '\n')
    (first : progress.step c = some next) (second : next.step '\n' = some after) : progress.step '\n' = some after := by
  have slash := blank_visible c '/' blank (by decide)
  have star := blank_visible c '*' blank (by decide)
  obtain ⟨stack, mode⟩ := progress
  cases mode with
  | code =>
      obtain rfl := Option.some.inj ((blank_code stack c blank).symm.trans first)
      exact second
  | slash =>
      rw [step, if_neg slash, if_neg star, blank_code stack c blank] at first
      obtain rfl := Option.some.inj first
      exact second
  | lineComment =>
      obtain rfl := Option.some.inj first
      rwa [if_neg other] at second
  | blockComment =>
      obtain rfl := Option.some.inj first
      rwa [if_neg star] at second
  | star =>
      obtain rfl := Option.some.inj first
      rw [if_neg slash, if_neg star] at second
      exact second
  | raw =>
      obtain rfl := Option.some.inj first
      rwa [if_neg (blank_visible c '\x60' blank (by decide))] at second
  | literal quote =>
      have open' : c ≠ quote.val := fun same => blank_quote c blank (same ▸ quote.property)
      rw [step, if_neg (blank_visible c '\\' blank (by decide)), if_neg other, if_neg open'] at first
      obtain rfl := Option.some.inj first
      cases second
  | escape quote =>
      obtain rfl := Option.some.inj first
      cases second

theorem feed_again (progress next after : Progress) (first : progress.step '\n' = some next)
    (second : next.step '\n' = some after) : after = next := by
  obtain ⟨stack, mode⟩ := progress
  cases mode
  case literal => cases first
  all_goals obtain rfl := Option.some.inj first
  case escape => cases second
  all_goals exact (Option.some.inj second).symm

theorem feed_complete (progress next : Progress) (step : progress.step '\n' = some next) (complete : next.Complete) :
    progress.Complete := by
  obtain ⟨stack, mode⟩ := progress
  cases mode
  case literal => cases step
  all_goals obtain rfl := Option.some.inj step
  case code | slash | lineComment => exact ⟨complete.1, by simp⟩
  all_goals simp [Complete] at complete

theorem complete_feed (progress : Progress) (complete : progress.Complete) :
    ∃ next, progress.step '\n' = some next ∧ next.Complete := by
  obtain ⟨stack, mode⟩ := progress
  obtain ⟨closed, rfl | rfl | rfl⟩ := complete
  all_goals exact ⟨_, rfl, closed, Or.inl rfl⟩

theorem feed_for_blanks (progress after : Progress) (blanks : List Char)
    (blank : ∀ c ∈ blanks, Text.isBlank c = true ∧ c ≠ '\n')
    (ran : progress.run (blanks ++ ['\n']) = some after) : progress.run ['\n'] = some after := by
  induction blanks generalizing progress with
  | nil => exact ran
  | cons c rest ih =>
      obtain ⟨next, first, later⟩ := Option.bind_eq_some_iff.mp ran
      obtain ⟨isBlank, other⟩ := blank c List.mem_cons_self
      obtain ⟨last, second, same⟩ := Option.bind_eq_some_iff.mp (ih next (fun d member => blank d (List.mem_cons_of_mem _ member)) later)
      obtain rfl := Option.some.inj same
      rw [run, feed_for_blank progress next last c isBlank other first second]
      rfl

theorem trimmed_run (progress after : Progress) (line : List Char) (unbroken : '\n' ∉ line)
    (ran : progress.run (line ++ ['\n']) = some after) : progress.run (Text.trimEnd line ++ ['\n']) = some after := by
  obtain ⟨blanks, parts, blank⟩ := Text.trim_end_parts line
  rw [parts, List.append_assoc, run_append] at ran
  obtain ⟨middle, front, back⟩ := Option.bind_eq_some_iff.mp ran
  rw [run_append, front, Option.bind_some]
  refine feed_for_blanks middle after blanks (fun c member => ⟨blank c member, ?_⟩) back
  rintro rfl
  exact unbroken (parts ▸ List.mem_append_right _ member)

theorem lines_pass (progress : Progress) (line text : List Char) (unbroken : '\n' ∉ line)
    (passes : progress.Passes (line.reverse ++ text)) :
    progress.Passes (joined ((Text.linesFrom line text).map Text.trimEnd)) := by
  fun_induction Text.linesFrom line text generalizing progress with
  | case1 => exact passes
  | case2 line nonempty =>
      rw [List.append_nil] at passes
      obtain ⟨last, ran, complete⟩ := passes
      obtain ⟨next, fed, ended⟩ := complete_feed last complete
      have closed : progress.run (line.reverse ++ ['\n']) = some next := by
        rw [run_append, ran, Option.bind_some, run, fed]
        rfl
      refine ⟨next, ?_, ended⟩
      rw [joined, List.map_singleton, List.flatMap_singleton]
      exact trimmed_run progress next line.reverse (fun member => unbroken (List.mem_reverse.mp member)) closed
  | case3 line rest ih =>
      rw [List.append_cons, passes_append] at passes
      obtain ⟨middle, ran, later⟩ := passes
      rw [List.map_cons, joined, List.flatMap_cons, passes_append, Text.trim_drop_return]
      exact ⟨middle, trimmed_run progress middle line.reverse (fun member => unbroken (List.mem_reverse.mp member)) ran,
        ih middle List.not_mem_nil later⟩
  | case4 line c rest other ih =>
      refine ih progress (fun member => ?_) (by simpa using passes)
      exact (List.mem_cons.mp member).elim (fun same => other same.symm) unbroken

theorem begun_pass (lines : List (List Char)) (passes : Passes ⟨[], .code⟩ (joined lines)) :
    Passes ⟨[], .code⟩ (joined (lines.dropWhile List.isEmpty)) := by
  induction lines with
  | nil => exact passes
  | cons line rest ih =>
      cases line with
      | nil => exact ih ((passes_next _ _ _ _ rfl).mp passes)
      | cons c others => exact passes

theorem collapsed_pass (progress : Progress) (lines : List (List Char)) (passes : progress.Passes (joined lines)) :
    progress.Passes (joined (collapse lines)) := by
  fun_induction collapse lines generalizing progress with
  | case1 => exact passes
  | case2 rest again ih =>
      obtain ⟨others, rfl⟩ := List.head?_eq_some_iff.mp again
      obtain ⟨next, first, later⟩ := (passes_cons progress '\n' _).mp passes
      obtain ⟨last, second, behind⟩ := (passes_cons next '\n' _).mp later
      obtain rfl := feed_again progress next last first second
      exact ih progress ((passes_next progress last '\n' _ first).mpr behind)
  | case3 rest single ih =>
      obtain ⟨next, first, later⟩ := (passes_cons progress '\n' _).mp passes
      exact (passes_next progress next '\n' _ first).mpr (ih next later)
  | case4 line rest nonempty ih =>
      obtain ⟨middle, ran, later⟩ := (passes_append progress (line ++ ['\n']) _).mp passes
      exact (passes_append progress (line ++ ['\n']) _).mpr ⟨middle, ran, ih middle later⟩

theorem ended_pass (progress : Progress) (lines : List (List Char)) (passes : progress.Passes (joined lines)) :
    progress.Passes (joined (dropBlankEnd lines)) := by
  induction lines using List.reverseRecOn with
  | nil => exact passes
  | append_singleton front line ih =>
      cases line with
      | nil =>
          have dropped : dropBlankEnd (front ++ [[]]) = dropBlankEnd front := by simp [dropBlankEnd]
          rw [joined, List.flatMap_append, passes_append] at passes
          obtain ⟨middle, ran, last, fed, complete⟩ := passes
          obtain ⟨next, first, same⟩ := Option.bind_eq_some_iff.mp fed
          obtain rfl := Option.some.inj same
          rw [dropped]
          exact ih ⟨middle, ran, feed_complete middle next first complete⟩
      | cons c others =>
          have kept : dropBlankEnd (front ++ [c :: others]) = front ++ [c :: others] := by simp [dropBlankEnd]
          rwa [kept]

end Progress

theorem tidy_checks (text : List Char) (balanced : check text = .ok ()) : check (tidy text) = .ok () := by
  have passes : Progress.Passes ⟨[], .code⟩ text := (scan_passes [] .code 1 text).mp balanced
  have lined := Progress.lines_pass ⟨[], .code⟩ [] text List.not_mem_nil passes
  exact (scan_passes [] .code 1 _).mpr (Progress.ended_pass _ _ (Progress.collapsed_pass _ _ (Progress.begun_pass _ lined)))

theorem format_ok_iff (text formatted : List Char) :
    format text = .ok formatted ↔ check text = .ok () ∧ tidy text = formatted := by
  unfold format
  cases check text <;> simp

theorem tidy_ended (lines : List (List Char)) (tidy : TidyLines lines) :
    joined lines = [] ∨ ∃ front c, joined lines = front ++ [c, '\n'] ∧ c ≠ '\n' := by
  rcases List.eq_nil_or_concat lines with rfl | ⟨others, line, same⟩
  · exact Or.inl rfl
  · rw [List.concat_eq_append] at same
    subst same
    rcases List.eq_nil_or_concat line with rfl | ⟨front, c, rfl⟩
    · exact absurd List.getLast?_concat tidy.ended
    · have unbroken := tidy.unbroken _ (List.mem_append_right others List.mem_cons_self)
      refine Or.inr ⟨joined others ++ front, c, by simp [joined], ?_⟩
      rintro rfl
      exact unbroken (by simp)

end Layout

namespace Formatter

theorem builtin_format_iff (text formatted : String) :
    builtin.format text = .ok formatted ↔
      Layout.check text.toList = .ok () ∧ Layout.tidy text.toList = formatted.toList := by
  have layout := Layout.format_ok_iff text.toList formatted.toList
  rw [← layout, format]
  cases Layout.format text.toList with
  | ok laid => simp [String.ext_iff]
  | error fault => simp

theorem builtin_format_tidy (text formatted : String) (done : builtin.format text = .ok formatted) :
    builtin.format formatted = .ok formatted ∧
    ∃ lines, formatted.toList = Layout.joined lines ∧ Layout.TidyLines lines ∧
      (formatted = "" ∨ ∃ front c, formatted.toList = front ++ [c, '\n'] ∧ c ≠ '\n') := by
  obtain ⟨balanced, laid⟩ := (builtin_format_iff text formatted).mp done
  obtain ⟨lines, same, tidy⟩ := Layout.tidy_joined text.toList
  refine ⟨(builtin_format_iff formatted formatted).mpr ⟨?_, ?_⟩, lines, laid.symm.trans same, tidy, ?_⟩
  · rw [← laid]
    exact Layout.tidy_checks text.toList balanced
  · rw [← laid]
    exact Layout.tidy_idempotent text.toList
  · rcases Layout.tidy_ended lines tidy with empty | ended
    · exact Or.inl (String.toList_eq_nil_iff.mp (laid.symm.trans (same.trans empty)))
    · rw [← same, laid] at ended
      exact Or.inr ended

theorem unruly_text_format_tidy :
    builtin.format "\n\nvar s = \x60 a  \r\n\n\n b\x60 \t\nvar t = \"\\\n\" // \x7b \n\n \n" =
        .ok "var s = \x60 a\n\n b\x60\nvar t = \"\\\n\" // \x7b\n" ∧
      builtin.format "var s = \x60 a\n\n b\x60\nvar t = \"\\\n\" // \x7b\n" =
        .ok "var s = \x60 a\n\n b\x60\nvar t = \"\\\n\" // \x7b\n" := by
  have done : builtin.format "\n\nvar s = \x60 a  \r\n\n\n b\x60 \t\nvar t = \"\\\n\" // \x7b \n\n \n" =
      .ok "var s = \x60 a\n\n b\x60\nvar t = \"\\\n\" // \x7b\n" := by decide +kernel
  exact ⟨done, (builtin_format_tidy _ _ done).1⟩

end Formatter

end ApiBindings
