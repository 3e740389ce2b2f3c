import ApiBindings.Proofs.Layout.Code
import ApiBindings.Proofs.Naming.Exported
import ApiBindings.Proofs.Number.Numeral
import ApiBindings.Proofs.Unit.Spelled
import ApiBindings.Unit.Printer
set_option autoImplicit false

namespace ApiBindings

open Layout (Edge Place Reads)

def tagPart (tag : Option FieldTag) : String := tag.elim "" fun tag => " " ++ tag.render

def receiverPart (receiver : Option Variable) : String :=
  receiver.elim "" fun receiver => "(" ++ receiver.name ++ " " ++ receiver.type.render ++ ") "

def optionsPart (options : Option String) : String :=
  options.elim "" fun options =>
    "\tq := req.URL.Query()\n\tfor _, opt := range " ++ options ++
      " \x7b\n\t\topt(q)\n\t\x7d\n\treq.URL.RawQuery = q.Encode()\n"

theorem field_render (field : Field) :
    field.render =
      renderDoc "\t" field.doc ++ "\t" ++ field.name ++ " " ++ field.type.render ++ tagPart field.tag ++ "\n" := by
  unfold Field.render tagPart
  cases field.tag <;> rfl

theorem call_render (call : ClientCall) (value onError : String)
    (returned : (if call.response.byPointer then ("&out", "nil") else ("out", "out")) = (value, onError)) :
    call.render =
      "\tvar out " ++ call.response.type.render ++ "\n\tpath := " ++ ClientCall.renderPath call.path ++
        "\n\treq, err := c.newRequest(ctx, " ++ call.method.constant ++ ", path, " ++
        call.body.getD "nil" ++ ")\n\tif err != nil \x7b\n\t\treturn " ++ onError ++ ", err\n\t\x7d\n" ++
        optionsPart call.options ++ "\tif err := c.do(req, &out); err != nil \x7b\n\t\treturn " ++ onError ++
        ", err\n\t\x7d\n\treturn " ++ value ++ ", nil\n" := by
  unfold ClientCall.render optionsPart
  dsimp only
  rw [returned]
  cases call.options <;> rfl

theorem function_render (f : Function) :
    f.render =
      renderDoc "" f.doc ++ "func " ++ receiverPart f.receiver ++ f.name ++
        "(" ++ commaSeparated (f.parameters.map Variable.render) ++ ")" ++ renderResults f.results ++
        " \x7b\n" ++ f.body.render ++ "\x7d\n" := by
  unfold Function.render receiverPart
  cases f.receiver <;> rfl

def Prints (p : Place) (text bare : String) (q : Place) : Prop :=
  ∃ code, Reads p text.toList code q ∧ Reads p bare.toList code q

namespace Prints

variable {p q r : Place} {stack : List Char} {edge : Edge}

theorem append {first last bareFirst bareLast : String} (before : Prints p first bareFirst q)
    (after : Prints q last bareLast r) : Prints p (first ++ last) (bareFirst ++ bareLast) r := by
  obtain ⟨firstCode, readFirst, readBareFirst⟩ := before
  obtain ⟨lastCode, readLast, readBareLast⟩ := after
  refine ⟨firstCode ++ lastCode, ?_, ?_⟩
  · rw [String.toList_append]
    exact .append readFirst readLast
  · rw [String.toList_append]
    exact .append readBareFirst readBareLast

theorem same {text : String} {code : List Char} (reads : Reads p text.toList code q) : Prints p text text q :=
  ⟨code, reads, reads⟩

theorem empty : Prints p "" "" p := same .none

theorem fixed (opened : List Char) (edge : Edge) (text : String) (closed : List Char) (last : Edge)
    (walked : Layout.walk ⟨opened, edge⟩ text.toList = some ⟨closed, last⟩) (stack : List Char) :
    Prints ⟨opened ++ stack, edge⟩ text text ⟨closed ++ stack, last⟩ :=
  same (Layout.reads_framed _ _ _ _ stack (Layout.walk_reads _ _ _ walked))

theorem joined {α : Type} (f g : α → String) (items : List α) (each : ∀ item ∈ items, Prints p (f item) (g item) p) :
    Prints p (String.join (items.map f)) (String.join (items.map g)) p := by
  induction items with
  | nil => exact empty
  | cons item others ih =>
      rw [List.map_cons, List.map_cons, String.join_cons, String.join_cons]
      exact append (each item List.mem_cons_self) (ih fun other member => each other (List.mem_cons_of_mem _ member))

theorem dropped {α : Type} (f : α → String) (items : List α) (each : ∀ item ∈ items, Prints p (f item) "" p) :
    Prints p (String.join (items.map f)) "" p := by
  induction items with
  | nil => exact empty
  | cons item others ih =>
      rw [List.map_cons, String.join_cons]
      exact append (each item List.mem_cons_self) (ih fun other member => each other (List.mem_cons_of_mem _ member))

end Prints

theorem reads_solid (stack : List Char) (edge : Edge) (text : List Char) (nonempty : text ≠ [])
    (plain : ∀ c ∈ text, Layout.isPlain c = true ∧ Text.isBlank c = false) :
    Reads ⟨stack, edge⟩ text text ⟨stack, .solid⟩ := by
  induction text generalizing edge with
  | nil => exact absurd rfl nonempty
  | cons c others ih =>
      obtain ⟨own, solid⟩ := plain c List.mem_cons_self
      have first : Reads ⟨stack, edge⟩ [c] [c] ⟨stack, Layout.edgeOf c⟩ := .plain own
      rw [Layout.edgeOf, solid, if_neg Bool.false_ne_true] at first
      cases others with
      | nil => exact first
      | cons d rest =>
          exact .append first (ih .solid (List.cons_ne_nil _ _) fun e member => plain e (List.mem_cons_of_mem _ member))

theorem ascii_plain (c : Char) (kind : (Naming.isWordChar c || c = '.' || c = '-') = true) :
    Layout.isPlain c = true ∧ Text.isBlank c = false := by
  revert c
  refine Naming.ascii_checked (fun c kind => ?_) (by decide)
  rw [Naming.isWordChar] at kind
  simp only [Bool.or_eq_true, decide_eq_true_eq] at kind
  rcases kind with ((alphanumeric | rfl) | rfl) | rfl
  · exact Naming.alphanumeric_ascii c alphanumeric
  all_goals decide

def RawClosed (text : List Char) : Prop := ∀ c ∈ text, c ≠ '\x60' ∧ c ≠ '\n'

theorem raw_closed_append (first last : List Char) (before : RawClosed first) (after : RawClosed last) :
    RawClosed (first ++ last) :=
  fun c member => (List.mem_append.mp member).elim (before c) (after c)

theorem raw_closed_fixed (text : String) (checked : text.toList.all fun c => c ≠ '\x60' ∧ c ≠ '\n') :
    RawClosed text.toList := by simpa [RawClosed] using checked

theorem tag_safe_closed (text : String) (safe : TagSafe text) : RawClosed text.toList := by
  intro c member
  have kind := safe c member
  simp only [isTagSafe, Bool.not_eq_true', Bool.or_eq_false_iff, decide_eq_false_iff_not] at kind
  refine ⟨kind.1.1.1, fun feed => ?_⟩
  rw [feed] at kind
  exact absurd kind.2 (by decide)

theorem tag_raw (tag : FieldTag) (spelled : tag.Spelled) :
    ∃ text, tag.render.toList = '\x60' :: text ++ ['\x60'] ∧ RawClosed text := by
  obtain ⟨wire, omitEmpty, rules⟩ := tag
  have ending : RawClosed (if omitEmpty then ",omitempty" else "").toList := by
    split <;> exact raw_closed_fixed _ (by decide)
  have named : RawClosed ("json:\"".toList ++ wire.toList ++ (if omitEmpty then ",omitempty" else "").toList) :=
    raw_closed_append _ _
      (raw_closed_append _ _ (raw_closed_fixed _ (by decide)) (tag_safe_closed wire spelled.wire)) ending
  cases rules with
  | none =>
      exact ⟨_ ++ "\"".toList, by simp [FieldTag.render, String.toList_append],
        raw_closed_append _ _ named (raw_closed_fixed _ (by decide))⟩
  | some rules =>
      have validated : RawClosed ("\" validate:\"".toList ++ rules.toList ++ "\"".toList) :=
        raw_closed_append _ _
          (raw_closed_append _ _ (raw_closed_fixed _ (by decide)) (tag_safe_closed rules (spelled.rules rules rfl)))
          (raw_closed_fixed _ (by decide))
      exact ⟨_, by simp [FieldTag.render, String.toList_append], raw_closed_append _ _ named validated⟩

section

variable (stack : List Char) (edge : Edge)

theorem word_prints (name : String) (word : Naming.Word name) : Prints ⟨stack, edge⟩ name name ⟨stack, .solid⟩ := by
  refine .same (reads_solid stack edge _ (fun empty => word.nonempty (String.toList_eq_nil_iff.mp empty)) fun c member => ?_)
  exact ascii_plain c (by rw [word.chars c member]; rfl)

theorem type_name_prints (name : String) (named : TypeName name) :
    Prints ⟨stack, edge⟩ name name ⟨stack, .solid⟩ := by
  refine .same (reads_solid stack edge _ (fun empty => named.nonempty (String.toList_eq_nil_iff.mp empty)) fun c member => ?_)
  exact ascii_plain c (by rw [named.chars c member, Bool.true_or])

theorem numeral_prints (text : String) (numeral : Number.Numeral text) :
    Prints ⟨stack, edge⟩ text text ⟨stack, .solid⟩ := by
  have chars (c : Char) (kind : Number.isNumeralChar c = true) : Layout.isPlain c = true ∧ Text.isBlank c = false := by
    apply ascii_plain
    rcases Number.numeral_char_kind c kind with alphanumeric | rfl
    · simp [Naming.isWordChar, alphanumeric]
    · rfl
  obtain ⟨rest, unsigned, same | same⟩ := numeral
  · refine .same (same ▸ reads_solid stack edge rest unsigned.nonempty fun c member => ?_)
    exact chars c (unsigned.chars c member)
  · refine .same (same ▸ reads_solid stack edge ('-' :: rest) (List.cons_ne_nil _ _) fun c member => ?_)
    rcases List.mem_cons.mp member with rfl | inside
    · decide
    · exact chars c (unsigned.chars c inside)

theorem quoted_prints (text bare : String) : Prints ⟨stack, edge⟩ (quoted text) (quoted bare) ⟨stack, .solid⟩ := by
  refine ⟨['"', '"'], ?_, ?_⟩
  · rw [quoted, String.toList_ofList]
    exact .quoted text.toList
  · rw [quoted, String.toList_ofList]
    exact .quoted bare.toList

theorem literal_prints (literal : Literal) :
    Prints ⟨stack, edge⟩ literal.render literal.bare.render ⟨stack, .solid⟩ := by
  cases literal with
  | text s => exact quoted_prints stack edge s ""
  | integer n => exact numeral_prints stack edge _ (Number.int_numeral n)
  | double x => exact numeral_prints stack edge _ (Number.format_fraction_numeral x)
  | flag b => cases b <;> exact word_prints stack edge _ ⟨by decide, by decide⟩

theorem comment_prints (line : String) (indent text : List Char) (tabs : ∀ c ∈ indent, c = '\t')
    (feedless : '\n' ∉ text) (chars : line.toList = indent ++ '/' :: '/' :: text ++ ['\n']) :
    Prints ⟨stack, .start⟩ line "" ⟨stack, .start⟩ :=
  ⟨[], chars ▸ .comment tabs feedless, .none⟩

theorem doc_prints (indent : String) (tabs : Indent indent) (doc : Option String) :
    Prints ⟨stack, .start⟩ (renderDoc indent doc) "" ⟨stack, .start⟩ := by
  cases doc with
  | none => exact .empty
  | some text =>
      refine .dropped _ _ fun line member => ?_
      have feedless := Text.lines_feedless text.toList line member
      split
      · exact comment_prints stack _ indent.toList [] tabs List.not_mem_nil (by simp [String.toList_append])
      · refine comment_prints stack _ indent.toList (' ' :: line) tabs ?_ (by simp [String.toList_append])
        simpa using feedless

theorem type_prints (type : TypeExpr) (within : type.Within TypeName) :
    Prints ⟨stack, edge⟩ type.render type.render ⟨stack, .solid⟩ := by
  induction type generalizing edge with
  | named name => exact type_name_prints stack edge name (within name rfl)
  | pointer target ih =>
      exact (Prints.fixed [] edge "*" [] .solid (by cases edge <;> decide) stack).append (ih .solid within)
  | slice item ih =>
      exact (Prints.fixed [] edge "[]" [] .solid (by cases edge <;> decide) stack).append (ih .solid within)
  | map value ih =>
      exact (Prints.fixed [] edge "map[string]" [] .solid (by cases edge <;> decide) stack).append (ih .solid within)
  | any => exact word_prints stack edge "any" ⟨by decide, by decide⟩

theorem tag_prints (tag : FieldTag) (spelled : tag.Spelled) :
    Prints ⟨stack, edge⟩ tag.render ({ wire := "" } : FieldTag).render ⟨stack, .solid⟩ := by
  obtain ⟨text, chars, closed⟩ := tag_raw tag spelled
  obtain ⟨bare, bareChars, bareClosed⟩ := tag_raw { wire := "" } ⟨by decide, by simp⟩
  refine ⟨['\x60', '\x60'], ?_, ?_⟩
  · rw [chars]
    exact .raw closed
  · rw [bareChars]
    exact .raw bareClosed

end

end ApiBindings
