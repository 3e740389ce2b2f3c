import ApiBindings.Proofs.Layout.Pieces
set_option autoImplicit false

namespace ApiBindings.Layout

abbrev Quote := { c : Char // isQuote c = true }

inductive Mode where
  | code
  | slash
  | lineComment
  | blockComment
  | star
  | raw
  | literal (quote : Quote)
  | escape (quote : Quote)
deriving DecidableEq

structure Progress where
  stack : List Char
  mode : Mode
deriving DecidableEq

namespace Progress

def codeStep (stack : List Char) (c : Char) : Option Progress :=
  if quotes : isQuote c = true then some ⟨stack, .literal ⟨c, quotes⟩⟩
  else if c = '\x60' then some ⟨stack, .raw⟩
  else if c = '/' then some ⟨stack, .slash⟩
  else if isOpening c then some ⟨c :: stack, .code⟩
  else match opening? c with
    | none => some ⟨stack, .code⟩
    | some expected =>
      match stack with
      | [] => none
      | opening :: outer => if opening = expected then some ⟨outer, .code⟩ else none

def step (c : Char) : Progress → Option Progress
  | ⟨stack, .code⟩ => codeStep stack c
  | ⟨stack, .slash⟩ =>
    if c = '/' then some ⟨stack, .lineComment⟩ else if c = '*' then some ⟨stack, .blockComment⟩ else codeStep stack c
  | ⟨stack, .lineComment⟩ => some ⟨stack, if c = '\n' then .code else .lineComment⟩
  | ⟨stack, .blockComment⟩ => some ⟨stack, if c = '*' then .star else .blockComment⟩
  | ⟨stack, .star⟩ => some ⟨stack, if c = '/' then .code else if c = '*' then .star else .blockComment⟩
  | ⟨stack, .raw⟩ => some ⟨stack, if c = '\x60' then .code else .raw⟩
  | ⟨stack, .literal quote⟩ =>
    if c = '\\' then some ⟨stack, .escape quote⟩
    else if c = '\n' then none
    else some ⟨stack, if c = quote.val then .code else .literal quote⟩
  | ⟨stack, .escape quote⟩ => some ⟨stack, .literal quote⟩

def run (progress : Progress) : List Char → Option Progress
  | [] => some progress
  | c :: rest => (progress.step c).bind (run · rest)

def Complete (progress : Progress) : Prop :=
  progress.stack = [] ∧ (progress.mode = .code ∨ progress.mode = .slash ∨ progress.mode = .lineComment)

def Passes (progress : Progress) (text : List Char) : Prop := ∃ last, progress.run text = some last ∧ last.Complete

theorem run_append (progress : Progress) (first last : List Char) :
    progress.run (first ++ last) = (progress.run first).bind (·.run last) := by
  induction first generalizing progress with
  | nil => rfl
  | cons c rest ih =>
      rw [List.cons_append, run, run, Option.bind_assoc]
      exact congrArg _ (funext fun next => ih next)

theorem passes_nil (progress : Progress) : progress.Passes [] ↔ progress.Complete :=
  ⟨fun ⟨_, same, complete⟩ => Option.some.inj same ▸ complete, fun complete => ⟨progress, rfl, complete⟩⟩

theorem passes_append (progress : Progress) (first last : List Char) :
    progress.Passes (first ++ last) ↔ ∃ middle, progress.run first = some middle ∧ middle.Passes last := by
  unfold Passes
  rw [run_append]
  cases progress.run first with
  | none => simp
  | some middle => simp

theorem passes_cons (progress : Progress) (c : Char) (rest : List Char) :
    progress.Passes (c :: rest) ↔ ∃ next, progress.step c = some next ∧ next.Passes rest := by
  unfold Passes
  rw [run]
  cases progress.step c with
  | none => simp
  | some next => simp

theorem passes_next (progress next : Progress) (c : Char) (rest : List Char) (step : progress.step c = some next) :
    progress.Passes (c :: rest) ↔ next.Passes rest := by
  rw [passes_cons, step]
  simp

theorem passes_stuck (progress : Progress) (c : Char) (rest : List Char) (step : progress.step c = none) :
    ¬ progress.Passes (c :: rest) := by
  rw [passes_cons, step]
  simp

theorem slash_passes (stack rest : List Char) (code : rest.head? ≠ some '/' ∧ rest.head? ≠ some '*') :
    Passes ⟨stack, .slash⟩ rest ↔ Passes ⟨stack, .code⟩ rest := by
  cases rest with
  | nil => simp [passes_nil, Complete]
  | cons c others =>
      have plain : step c ⟨stack, .slash⟩ = step c ⟨stack, .code⟩ := by
        have line : c ≠ '/' := fun same => code.1 (congrArg some same)
        have block : c ≠ '*' := fun same => code.2 (congrArg some same)
        exact (if_neg line).trans (if_neg block)
      rw [passes_cons, passes_cons, plain]

theorem star_passes (stack rest : List Char) (unclosed : rest.head? ≠ some '/') :
    Passes ⟨stack, .star⟩ rest ↔ Passes ⟨stack, .blockComment⟩ rest := by
  cases rest with
  | nil => simp [passes_nil, Complete]
  | cons c others =>
      have slash : c ≠ '/' := fun same => unclosed (congrArg some same)
      have plain : step c ⟨stack, .star⟩ = step c ⟨stack, .blockComment⟩ := by simp [step, slash]
      rw [passes_cons, passes_cons, plain]

end Progress

def Region.mode : Region → Mode
  | .code => .code
  | .lineComment => .lineComment
  | .blockComment => .blockComment
  | .interpreted => .literal ⟨'"', rfl⟩
  | .raw => .raw
  | .rune => .literal ⟨'\'', rfl⟩

open Progress

theorem finish_passes (opened : Open) (region : Region) :
    finish opened region = .ok () ↔ Passes ⟨opened.map Prod.fst, region.mode⟩ [] := by
  rw [passes_nil]
  cases region <;> cases opened <;> simp [finish, Complete, Region.mode]

theorem code_step_char (opened : Open) (line : Nat) (c : Char) (slash : c ≠ '/') :
    codeStep (opened.map Prod.fst) c =
      match codeChar opened line c with
      | .ok (after, region) => some ⟨after.map Prod.fst, region.mode⟩
      | .error _ => none := by
  by_cases double : c = '"'
  · subst double
    rfl
  by_cases tick : c = '\x60'
  · subst tick
    rfl
  by_cases single : c = '\''
  · subst single
    rfl
  have quote : ¬ isQuote c = true := by simp [isQuote, double, single]
  rw [codeStep, codeChar, dif_neg quote, if_neg tick, if_neg slash, if_neg double, if_neg tick, if_neg single]
  by_cases opens : isOpening c = true
  · rw [if_pos opens, if_pos opens]
    rfl
  · rw [if_neg opens, if_neg opens]
    cases opening? c with
    | none => rfl
    | some expected =>
        cases opened with
        | nil => rfl
        | cons entry outer => by_cases same : entry.1 = expected <;> simp [same, Region.mode]

theorem code_char_passes (opened : Open) (line : Nat) (c : Char) (rest : List Char)
    (code : c = '/' → rest.head? ≠ some '/' ∧ rest.head? ≠ some '*') :
    match codeChar opened line c with
    | .ok (after, region) =>
      Passes ⟨opened.map Prod.fst, .code⟩ (c :: rest) ↔ Passes ⟨after.map Prod.fst, region.mode⟩ rest
    | .error _ => ¬ Passes ⟨opened.map Prod.fst, .code⟩ (c :: rest) := by
  by_cases slash : c = '/'
  · subst slash
    exact (passes_next _ _ _ _ rfl).trans (slash_passes _ rest (code rfl))
  · have stepped := code_step_char opened line c slash
    cases read : codeChar opened line c with
    | ok place =>
        rw [read] at stepped
        exact passes_next _ _ _ _ stepped
    | error fault =>
        rw [read] at stepped
        exact passes_stuck _ _ _ stepped

theorem literal_char_passes (stack rest : List Char) (quote : Quote) (c : Char) (unescaped : c ≠ '\\')
    (unbroken : c ≠ '\n') :
    Passes ⟨stack, .literal quote⟩ (c :: rest) ↔ Passes ⟨stack, if c = quote.val then .code else .literal quote⟩ rest :=
  passes_next _ _ _ _ ((if_neg unescaped).trans (if_neg unbroken))

theorem literal_feed_stuck (stack rest : List Char) (quote : Quote) : ¬ Passes ⟨stack, .literal quote⟩ ('\n' :: rest) :=
  passes_stuck _ _ _ rfl

theorem literal_escape_passes (stack rest : List Char) (quote : Quote) (c : Char) :
    Passes ⟨stack, .literal quote⟩ ('\\' :: c :: rest) ↔ Passes ⟨stack, .literal quote⟩ rest :=
  (passes_next _ _ _ _ rfl).trans (passes_next _ _ _ _ rfl)

theorem literal_backslash_stuck (stack : List Char) (quote : Quote) : ¬ Passes ⟨stack, .literal quote⟩ ['\\'] := by
  rw [passes_next _ _ _ _ rfl, passes_nil]
  simp [Complete]

theorem block_char_passes (stack rest : List Char) (c : Char) (unclosed : ¬ (c = '*' ∧ rest.head? = some '/')) :
    Passes ⟨stack, .blockComment⟩ (c :: rest) ↔ Passes ⟨stack, .blockComment⟩ rest := by
  rw [passes_next _ _ _ _ rfl]
  by_cases star : c = '*'
  · rw [if_pos star]
    exact star_passes stack rest fun slash => unclosed ⟨star, slash⟩
  · rw [if_neg star]

theorem refused_passes (fault : Imbalance) (progress : Progress) (text : List Char) (stuck : ¬ progress.Passes text) :
    (.error fault : Except Imbalance Unit) = .ok () ↔ progress.Passes text :=
  ⟨fun passed => (nomatch passed), fun passed => absurd passed stuck⟩

theorem scan_passes (opened : Open) (region : Region) (line : Nat) (text : List Char) :
    scan opened region line text = .ok () ↔ Passes ⟨opened.map Prod.fst, region.mode⟩ text := by
  fun_induction scan opened region line text with
  | case1 stack region => exact finish_passes stack region
  | case2 stack start c line d after comment ih =>
      obtain ⟨rfl, rfl⟩ := comment
      exact ih.trans ((passes_next _ _ _ _ rfl).trans (passes_next _ _ _ _ rfl)).symm
  | case3 stack start c line d after _ comment ih =>
      obtain ⟨rfl, rfl⟩ := comment
      exact ih.trans ((passes_next _ _ _ _ rfl).trans (passes_next _ _ _ _ rfl)).symm
  | case4 stack start c line d after lineless blockless fault read =>
      have stuck := code_char_passes stack line c (d :: after) fun slash =>
        ⟨fun same => lineless ⟨slash, Option.some.inj same⟩, fun same => blockless ⟨slash, Option.some.inj same⟩⟩
      rw [read] at stuck
      exact refused_passes _ _ _ stuck
  | case5 stack start c line d after lineless blockless opened region read ih =>
      have passes := code_char_passes stack line c (d :: after) fun slash =>
        ⟨fun same => lineless ⟨slash, Option.some.inj same⟩, fun same => blockless ⟨slash, Option.some.inj same⟩⟩
      rw [read] at passes
      exact ih.trans passes.symm
  | case6 stack start c line fault read =>
      have stuck := code_char_passes stack line c [] fun _ => by simp
      rw [read] at stuck
      exact refused_passes _ _ _ stuck
  | case7 stack start c line opened region read =>
      have passes := code_char_passes stack line c [] fun _ => by simp
      rw [read] at passes
      exact (finish_passes opened region).trans passes.symm
  | case8 stack start c line rest ih =>
      rw [ih, Region.mode, passes_next _ _ _ _ rfl]
      split <;> rfl
  | case9 stack start c line d after closing ih =>
      obtain ⟨rfl, rfl⟩ := closing
      exact ih.trans ((passes_next _ _ _ _ rfl).trans (passes_next _ _ _ _ rfl)).symm
  | case10 stack start c line d after unclosed ih =>
      exact ih.trans (block_char_passes _ (d :: after) c fun both => unclosed ⟨both.1, Option.some.inj both.2⟩).symm
  | case11 stack line c => exact (finish_passes stack .blockComment).trans (block_char_passes _ [] c (by simp)).symm
  | case12 stack start c line rest ih =>
      rw [ih, Region.mode, passes_next _ _ _ _ rfl]
      split <;> rfl
  | case13 stack line => exact refused_passes _ _ _ (literal_backslash_stuck _ ⟨'"', rfl⟩)
  | case14 stack start c after line ih => exact ih.trans (literal_escape_passes _ after ⟨'"', rfl⟩ c).symm
  | case15 stack start rest line _ => exact refused_passes _ _ _ (literal_feed_stuck _ rest ⟨'"', rfl⟩)
  | case16 stack start c line rest unescaped unbroken ih =>
      rw [ih, Region.mode, literal_char_passes _ rest ⟨'"', rfl⟩ c unescaped unbroken]
      split <;> rfl
  | case17 stack line => exact refused_passes _ _ _ (literal_backslash_stuck _ ⟨'\'', rfl⟩)
  | case18 stack start c after line ih => exact ih.trans (literal_escape_passes _ after ⟨'\'', rfl⟩ c).symm
  | case19 stack start rest line _ => exact refused_passes _ _ _ (literal_feed_stuck _ rest ⟨'\'', rfl⟩)
  | case20 stack start c line rest unescaped unbroken ih =>
      rw [ih, Region.mode, literal_char_passes _ rest ⟨'\'', rfl⟩ c unescaped unbroken]
      split <;> rfl

end ApiBindings.Layout
