import ApiBindings.Proofs.Layout.Reads
set_option autoImplicit false

namespace ApiBindings

namespace Layout

def outsideFrom (quote : Option Char) : List Char → List Char
  | [] => []
  | c :: rest =>
    match quote, rest with
    | none, rest => c :: outsideFrom (if c = '"' || c = '\x60' || c = '\'' then some c else none) rest
    | some quote, rest =>
      if c = quote then c :: outsideFrom none rest
      else if c = '\\' && quote ≠ '\x60' then
        match rest with
        | [] => []
        | _ :: after => outsideFrom (some quote) after
      else outsideFrom (some quote) rest

theorem outside_inside (quote c : Char) (rest : List Char) :
    outsideFrom (some quote) (c :: rest) =
      if c = quote then c :: outsideFrom none rest
      else if c = '\\' && quote ≠ '\x60' then
        match rest with
        | [] => []
        | _ :: after => outsideFrom (some quote) after
      else outsideFrom (some quote) rest := by
  rw [outsideFrom.eq_def]

def outsideLiterals (line : List Char) : List Char := outsideFrom none line

def isBlankLine (line : List Char) : Bool := line.all Text.isBlank

-- A part of a line and its code. Where the part is not blank, a line that it begins
-- is no comment.
structure Inline (part code : List Char) : Prop where
  feedless : '\n' ∉ part
  unbroken : ∀ c ∈ code, c ≠ '\n' ∧ c ≠ '\r'
  outside : ∀ rest, outsideFrom none (part ++ rest) = code ++ outsideFrom none rest
  blank : isBlankLine part = isBlankLine code
  begins : ∀ rest, isCode (part ++ rest) = (!isBlankLine part || isCode rest)

theorem inline_nil : Inline [] [] :=
  ⟨List.not_mem_nil, List.forall_mem_nil _, fun _ => rfl, rfl, fun _ => rfl⟩

theorem inline_append (a b code more : List Char) (first : Inline a code) (last : Inline b more) :
    Inline (a ++ b) (code ++ more) := by
  refine ⟨fun feed => (List.mem_append.mp feed).elim first.feedless last.feedless,
    fun c member => (List.mem_append.mp member).elim (first.unbroken c) (last.unbroken c), fun rest => ?_, ?_, fun rest => ?_⟩
  · rw [List.append_assoc, first.outside, last.outside, List.append_assoc]
  · rw [isBlankLine, isBlankLine, List.all_append, List.all_append]
    exact congrArg₂ _ first.blank last.blank
  · rw [List.append_assoc, first.begins, last.begins, isBlankLine, isBlankLine, isBlankLine, List.all_append, Bool.not_and,
      Bool.or_assoc]

theorem is_code_solid (c : Char) (rest : List Char) (solid : Text.isBlank c = false) (slash : c ≠ '/') :
    isCode (c :: rest) = true := by
  simp [isCode, solid, slash]

theorem inline_char (c : Char) (quote : (c = '"' || c = '\x60' || c = '\'') = false) (slash : c ≠ '/') (feed : c ≠ '\n')
    (ret : c ≠ '\r') : Inline [c] [c] := by
  refine ⟨fun member => feed (List.mem_singleton.mp member).symm, fun d member => ?_, fun rest => ?_, rfl, fun rest => ?_⟩
  · rw [List.mem_singleton.mp member]
    exact ⟨feed, ret⟩
  · simp [outsideFrom, quote]
  · cases solid : Text.isBlank c with
    | false => simp [isBlankLine, solid, is_code_solid c rest solid slash]
    | true => simp [isBlankLine, solid, isCode]

theorem inline_plain (c : Char) (plain : isPlain c = true) : Inline [c] [c] := by
  simp only [isPlain, Bool.not_eq_true', Bool.or_eq_false_iff, decide_eq_false_iff_not] at plain
  obtain ⟨⟨⟨⟨⟨⟨⟨feed, ret⟩, quote⟩, tick⟩, rune⟩, slash⟩, _⟩, _⟩ := plain
  exact inline_char c (by simp [quote, tick, rune]) slash feed ret

theorem inline_bracket (c : Char) (bracket : c ∈ ['(', '[', '{', ')', ']', '}']) : Inline [c] [c] := by
  have all : ∀ c ∈ ['(', '[', '{', ')', ']', '}'],
      (c = '"' || c = '\x60' || c = '\'') = false ∧ c ≠ '/' ∧ c ≠ '\n' ∧ c ≠ '\r' := by simp
  obtain ⟨quote, slash, feed, ret⟩ := all c bracket
  exact inline_char c quote slash feed ret

theorem inline_literal (quote : Char) (text : List Char) (quotes : quote = '"' ∨ quote = '\x60')
    (feedless : '\n' ∉ text)
    (outside : ∀ rest, outsideFrom (some quote) (text ++ quote :: rest) = quote :: outsideFrom none rest) :
    Inline (quote :: text ++ [quote]) [quote, quote] := by
  have solid : Text.isBlank quote = false ∧ quote ≠ '/' ∧ quote ≠ '\n' ∧ quote ≠ '\r' := by
    rcases quotes with rfl | rfl <;> decide
  refine ⟨fun feed => ?_, fun c member => ?_, fun rest => ?_, ?_, fun rest => ?_⟩
  · rcases List.mem_append.mp feed with front | back
    · rcases List.mem_cons.mp front with same | inside
      · exact solid.2.2.1 same.symm
      · exact feedless inside
    · exact solid.2.2.1 (List.mem_singleton.mp back).symm
  · obtain rfl : c = quote := by simpa using member
    exact solid.2.2
  · rw [List.cons_append, List.cons_append, List.append_assoc, List.singleton_append, outsideFrom,
      if_pos (by rcases quotes with rfl | rfl <;> rfl), outside]
    rfl
  · simp [isBlankLine, solid.1]
  · have bare : isBlankLine (quote :: text ++ [quote]) = false := by simp [isBlankLine, solid.1]
    rw [bare, List.cons_append, List.cons_append]
    exact is_code_solid quote _ solid.1 solid.2.1

theorem outside_plain (quote : Char) (text rest : List Char) (inside : ∀ c ∈ text, c ≠ quote ∧ (quote = '\x60' ∨ c ≠ '\\')) :
    outsideFrom (some quote) (text ++ rest) = outsideFrom (some quote) rest := by
  induction text with
  | nil => rfl
  | cons c others ih =>
      obtain ⟨closing, escape⟩ := inside c List.mem_cons_self
      have bare : (c = '\\' && quote ≠ '\x60') = false := by
        rcases escape with raw | other
        · simp [raw]
        · simp [other]
      rw [List.cons_append, outside_inside, if_neg closing, bare, if_neg Bool.false_ne_true]
      exact ih fun d member => inside d (List.mem_cons_of_mem _ member)

theorem outside_close (quote : Char) (rest : List Char) :
    outsideFrom (some quote) (quote :: rest) = quote :: outsideFrom none rest := by
  rw [outside_inside, if_pos rfl]

theorem inline_raw (text : List Char) (closed : ∀ c ∈ text, c ≠ '\x60' ∧ c ≠ '\n') :
    Inline ('\x60' :: text ++ ['\x60']) ['\x60', '\x60'] := by
  refine inline_literal '\x60' text (Or.inr rfl) (fun feed => (closed _ feed).2 rfl) fun rest => ?_
  rw [outside_plain '\x60' text _ fun c member => ⟨(closed c member).1, Or.inl rfl⟩, outside_close]

theorem outside_literal_char (c : Char) (rest : List Char) :
    outsideFrom (some '"') (Text.literalChar c ++ rest) = outsideFrom (some '"') rest := by
  obtain ⟨escape, plain, parts, escaped, inside⟩ := literal_char_parts c
  have unescaped := outside_plain '"' plain rest fun d member => ⟨(inside d member).2.1, Or.inr (inside d member).1⟩
  rw [parts, List.append_assoc]
  rcases escaped with rfl | ⟨d, _, rfl⟩
  · exact unescaped
  · exact unescaped

theorem literal_char_feedless (c : Char) : '\n' ∉ Text.literalChar c := by
  obtain ⟨escape, plain, parts, escaped, inside⟩ := literal_char_parts c
  rw [parts]
  intro feed
  rcases List.mem_append.mp feed with front | back
  · rcases escaped with rfl | ⟨d, other, rfl⟩
    · exact absurd front List.not_mem_nil
    · rcases List.mem_cons.mp front with slash | same
      · exact absurd slash (by decide)
      · exact other (List.mem_singleton.mp same).symm
  · exact (inside _ back).2.2 rfl

theorem inline_quoted (text : List Char) : Inline (Text.literal text) ['"', '"'] := by
  refine inline_literal '"' (text.flatMap Text.literalChar) (Or.inl rfl) (fun feed => ?_) fun rest => ?_
  · obtain ⟨c, _, member⟩ := List.mem_flatMap.mp feed
    exact literal_char_feedless c member
  · induction text with
    | nil => exact outside_close '"' rest
    | cons c others ih => rw [List.flatMap_cons, List.append_assoc, outside_literal_char, ih]

def Edge.Fits (line : List Char) : Edge → Prop
  | .start => line = []
  | .blank => True
  | .solid => ∃ c, line.getLast? = some c ∧ Text.isBlank c = false

theorem edge_of_fits (line : List Char) (c : Char) : (edgeOf c).Fits (line ++ [c]) := by
  unfold edgeOf
  split
  · trivial
  next solid => exact ⟨c, by simp, by simpa using solid⟩

theorem solid_fits (line part : List Char) (c : Char) (solid : Text.isBlank c = false) :
    Edge.solid.Fits (line ++ (part ++ [c])) := ⟨c, by simp, solid⟩

def Continues (line mask text code : List Char) (edge : Edge) : Prop :=
  ∃ whole wholeCode after afterCode, Inline after afterCode ∧ edge.Fits after ∧
    (∀ rest, Text.linesFrom line.reverse (text ++ rest) = whole ++ Text.linesFrom after.reverse rest) ∧
    (∀ rest, Text.linesFrom mask.reverse (code ++ rest) = wholeCode ++ Text.linesFrom afterCode.reverse rest) ∧
    (whole.filter isCode).map outsideLiterals = wholeCode.filter (!isBlankLine ·) ∧
    ∀ part ∈ whole, isCode part = true → Text.trimEnd part = part

theorem lines_from_inline (line part rest : List Char) (feedless : '\n' ∉ part) :
    Text.linesFrom line.reverse (part ++ rest) = Text.linesFrom (line ++ part).reverse rest := by
  rw [Text.lines_from_part line.reverse part rest feedless, List.reverse_append]

theorem continues_inline (line mask part code : List Char) (edge : Edge) (opened : Inline line mask)
    (inline : Inline part code) (fits : edge.Fits (line ++ part)) : Continues line mask part code edge := by
  refine ⟨[], [], line ++ part, mask ++ code, inline_append _ _ _ _ opened inline, fits, fun rest => ?_, fun rest => ?_, rfl,
    List.forall_mem_nil _⟩
  · exact lines_from_inline line part rest inline.feedless
  · exact lines_from_inline mask code rest fun feed => (inline.unbroken _ feed).1 rfl

theorem drop_return_solid (line : List Char) (c : Char) (last : line.getLast? = some c) (ret : c ≠ '\r') :
    (Text.dropReturn line.reverse).reverse = line := by
  rw [Text.drop_return_kept line.reverse, List.reverse_reverse]
  rw [List.head?_reverse, last]
  exact fun same => ret (Option.some.inj same)

theorem inline_whole (line mask : List Char) (inline : Inline line mask) :
    outsideLiterals line = mask ∧ isCode line = !isBlankLine line := by
  refine ⟨?_, ?_⟩
  · simpa [outsideLiterals, outsideFrom] using inline.outside []
  · simpa [isCode] using inline.begins []

theorem feed_rest (line rest : List Char) :
    Text.linesFrom line.reverse (['\n'] ++ rest) = (Text.dropReturn line.reverse).reverse :: Text.linesFrom [] rest := by
  rw [List.singleton_append, Text.linesFrom.eq_def]
  simp

theorem mask_unreturned (line mask : List Char) (inline : Inline line mask) :
    (Text.dropReturn mask.reverse).reverse = mask := by
  rw [Text.drop_return_kept mask.reverse, List.reverse_reverse]
  intro ret
  exact (inline.unbroken '\r' (List.mem_reverse.mp (List.mem_of_head? ret))).2 rfl

theorem continues_feed (line mask : List Char) (edge : Edge) (opened : Inline line mask) (fits : edge.Fits line)
    (solid : edge ≠ .blank) : Continues line mask ['\n'] ['\n'] .start := by
  obtain ⟨outside, code⟩ := inline_whole line mask opened
  have kept : (Text.dropReturn line.reverse).reverse = line ∧ (isCode line = true → Text.trimEnd line = line) := by
    cases edge with
    | blank => exact absurd rfl solid
    | start =>
        rw [show line = [] from fits]
        exact ⟨rfl, fun _ => rfl⟩
    | solid =>
        obtain ⟨c, last, solid⟩ := fits
        have whole : Text.trimEnd line = line :=
          Text.trim_end_whole line fun d same => Option.some.inj (last.symm.trans same) ▸ solid
        refine ⟨drop_return_solid line c last ?_, fun _ => whole⟩
        rintro rfl
        exact absurd solid (by decide)
  refine ⟨[line], [mask], [], [], inline_nil, rfl, fun rest => ?_, fun rest => ?_, ?_, fun part member => ?_⟩
  · rw [feed_rest, kept.1]
    rfl
  · rw [feed_rest, mask_unreturned line mask opened]
    rfl
  · rw [List.filter_singleton, List.filter_singleton, code, opened.blank]
    cases isBlankLine mask
    · exact congrArg (fun line => [line]) outside
    · rfl
  · rw [List.mem_singleton.mp member]
    exact kept.2

theorem comment_not_code (indent text : List Char) (tabs : ∀ c ∈ indent, c = '\t') :
    isCode (indent ++ '/' :: '/' :: text) = false := by
  induction indent with
  | nil => rfl
  | cons c others ih =>
      rw [tabs c List.mem_cons_self]
      exact ih fun d member => tabs d (List.mem_cons_of_mem _ member)

theorem comment_feedless (indent text : List Char) (tabs : ∀ c ∈ indent, c = '\t') (feedless : '\n' ∉ text) :
    '\n' ∉ indent ++ '/' :: '/' :: text := by
  intro feed
  rcases List.mem_append.mp feed with tab | inside
  · exact absurd (tabs _ tab) (by decide)
  · exact feedless (by simpa using inside)

theorem drop_return_code (line : List Char) : isCode (Text.dropReturn line.reverse).reverse = isCode line := by
  unfold Text.dropReturn
  split
  next front reversed =>
    have whole : line = front.reverse ++ ['\r'] := by
      rw [← List.reverse_reverse line, reversed, List.reverse_cons]
    have trimmed : Text.trimEnd line = Text.trimEnd front.reverse := by
      rw [whole, Text.trimEnd, Text.trimEnd, List.reverse_append]
      rfl
    rw [← is_code_trim_end, ← is_code_trim_end line, trimmed]
  next => rw [List.reverse_reverse]

theorem continues_comment (mask indent text : List Char) (opened : Inline [] mask) (tabs : ∀ c ∈ indent, c = '\t')
    (feedless : '\n' ∉ text) : Continues [] mask (indent ++ '/' :: '/' :: text ++ ['\n']) [] .start := by
  obtain rfl : mask = [] := (inline_whole [] mask opened).1.symm
  have uncoded := comment_not_code indent text tabs
  have unbroken := comment_feedless indent text tabs feedless
  generalize indent ++ '/' :: '/' :: text = line at uncoded unbroken
  refine ⟨[(Text.dropReturn line.reverse).reverse], [], [], [], inline_nil, rfl, fun rest => ?_, fun rest => rfl, ?_,
    fun part member code => ?_⟩
  · rw [List.append_assoc, lines_from_inline [] line _ unbroken, List.nil_append, feed_rest]
    rfl
  · rw [List.filter_singleton, drop_return_code, uncoded]
    rfl
  · rw [List.mem_singleton.mp member, drop_return_code, uncoded] at code
    exact absurd code Bool.false_ne_true

theorem continues_append (line mask first firstCode last lastCode : List Char) (middle final : Edge)
    (before : Continues line mask first firstCode middle)
    (after : ∀ line mask, Inline line mask → middle.Fits line → Continues line mask last lastCode final) :
    Continues line mask (first ++ last) (firstCode ++ lastCode) final := by
  obtain ⟨whole, wholeCode, open', openCode, inline, fits, lines, codes, same, trimmed⟩ := before
  obtain ⟨more, moreCode, end', endCode, ended, fitsEnd, others, otherCodes, sameLater, trimmedLater⟩ :=
    after open' openCode inline fits
  refine ⟨whole ++ more, wholeCode ++ moreCode, end', endCode, ended, fitsEnd, fun rest => ?_, fun rest => ?_, ?_,
    fun part member => (List.mem_append.mp member).elim (trimmed part) (trimmedLater part)⟩
  · rw [List.append_assoc, lines, others, List.append_assoc]
  · rw [List.append_assoc, codes, otherCodes, List.append_assoc]
  · rw [List.filter_append, List.map_append, same, sameLater, List.filter_append]

theorem reads_continues (p q : Place) (text code : List Char) (reads : Reads p text code q) (line mask : List Char)
    (opened : Inline line mask) (fits : p.edge.Fits line) : Continues line mask text code q.edge := by
  induction reads generalizing line mask with
  | none =>
      exact continues_inline line mask [] [] _ opened inline_nil (by rwa [List.append_nil])
  | plain plain => exact continues_inline line mask _ _ _ opened (inline_plain _ plain) (edge_of_fits line _)
  | feed solid => exact continues_feed line mask _ opened fits solid
  | @opening _ _ c opens =>
      have bracket := opening_kinds c opens
      have listed : c ∈ ['(', '[', '{', ')', ']', '}'] := by rcases bracket with rfl | rfl | rfl <;> decide
      refine continues_inline line mask _ _ _ opened (inline_bracket c listed) (solid_fits line [] c ?_)
      rcases bracket with rfl | rfl | rfl <;> decide
  | @closing _ _ c expected closes =>
      have bracket : c = ')' ∨ c = ']' ∨ c = '}' :=
        (closing_kinds c expected closes).imp And.left (Or.imp And.left And.left)
      have listed : c ∈ ['(', '[', '{', ')', ']', '}'] := by rcases bracket with rfl | rfl | rfl <;> decide
      refine continues_inline line mask _ _ _ opened (inline_bracket c listed) (solid_fits line [] c ?_)
      rcases bracket with rfl | rfl | rfl <;> decide
  | quoted text =>
      exact continues_inline line mask _ _ _ opened (inline_quoted text) (solid_fits line _ '"' (by decide))
  | raw closed =>
      exact continues_inline line mask _ _ _ opened (inline_raw _ closed) (solid_fits line _ '\x60' (by decide))
  | comment tabs feedless =>
      obtain rfl : line = [] := fits
      exact continues_comment mask _ _ opened tabs feedless
  | append _ _ first last => exact continues_append line mask _ _ _ _ _ _ (first line mask opened fits) last

theorem reads_lines (stack after text code : List Char) (reads : Reads ⟨stack, .start⟩ text code ⟨after, .start⟩) :
    (codeLines text).map outsideLiterals = (Text.lines code).filter (!isBlankLine ·) ∧
      ∀ line ∈ codeLines text, Text.trimEnd line = line := by
  obtain ⟨whole, wholeCode, open', openCode, inline, fits, lines, codes, same, trimmed⟩ :=
    reads_continues _ _ text code reads [] [] inline_nil rfl
  obtain rfl : open' = [] := fits
  obtain rfl : openCode = [] := (inline_whole [] openCode inline).1.symm
  have textLines := lines []
  have codeLines' := codes []
  rw [List.append_nil] at textLines codeLines'
  have ended : Text.lines text = whole := textLines.trans (List.append_nil _)
  have endedCode : Text.lines code = wholeCode := codeLines'.trans (List.append_nil _)
  refine ⟨by rw [codeLines, ended, endedCode, same], fun line member => ?_⟩
  rw [codeLines, ended] at member
  obtain ⟨listed, code⟩ := List.mem_filter.mp member
  exact trimmed line listed code

end Layout

end ApiBindings
