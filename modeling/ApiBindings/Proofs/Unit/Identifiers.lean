import ApiBindings.Proofs.Naming.Identifier
import ApiBindings.Proofs.Unit.Used
set_option autoImplicit false

namespace ApiBindings

open Scanner (Cursor Stop)

namespace Identifiers

-- Every word that is no selector. The one that a text ends in is added at its end.
def scanner : Scanner where
  pointed := Cursor.opened
  ended := Cursor.opened
  idle := Cursor.opened_between

def isIdentifier (word : String) : Bool := word ∉ Naming.keywords && !word.toList.head?.any Char.isDigit

def finish (cursor : Cursor) (words : List (List Char)) : List (List Char) := words ++ cursor.opened

def words (text : String) : List (List Char) :=
  match scanner.scan (.code .gap) text.toList with
  | (.code cursor, words) => finish cursor words
  | (_, words) => words

def ofText (text : String) : List String := ((words text).map String.ofList).filter isIdentifier

theorem identifier_read (name : String) (identifier : Naming.Alphabet.ascii.Identifier name) : isIdentifier name = true := by
  obtain ⟨⟨⟨c, rest, chars, letter⟩, _⟩, keyword⟩ := identifier
  have plain : c.isDigit = false := by
    rcases letter with alpha | rfl
    · exact Naming.alpha_not_digit c alpha
    · rfl
  simp [isIdentifier, keyword, chars, plain]

end Identifiers

-- Between the two stops a text of code has these words. A word that is open at a
-- stop belongs to what stands before the stop.
def Words (p : Stop) (text : String) (names : List String) (q : Stop) : Prop :=
  ∀ cursor, p.Fits cursor → ∃ next words, q.Fits next ∧
    Identifiers.scanner.scan (.code cursor) text.toList = (.code next, words) ∧
    words ++ next.opened = cursor.opened ++ names.map String.toList

namespace Words

open Identifiers

variable {p q r : Stop} {first last : String} {names more : List String}

theorem append (before : Words p first names q) (after : Words q last more r) : Words p (first ++ last) (names ++ more) r := by
  intro cursor fits
  obtain ⟨middle, words, stops, scanned, known⟩ := before cursor fits
  obtain ⟨next, others, ends, later, also⟩ := after middle stops
  refine ⟨next, words ++ others, ends, ?_, ?_⟩
  · rw [String.toList_append, Scanner.scan_append, scanned, later]
  · rw [List.append_assoc, also, ← List.append_assoc, known, List.append_assoc, List.map_append]

theorem empty : Words p "" [] p := fun cursor fits => ⟨cursor, [], fits, rfl, by simp⟩

theorem loosen (words : Words p first names q) : Words p first names .any := by
  intro cursor fits
  obtain ⟨next, others, _, scanned, known⟩ := words cursor fits
  exact ⟨next, others, Scanner.any_fits _, scanned, known⟩

theorem fixed (p : Stop) (text : String) (names : List String) (q : Stop)
    (checked : scanner.check finish p text.toList = some (q, names.map String.toList)) : Words p text names q := by
  intro cursor fits
  obtain ⟨next, words, stops, scanned, known⟩ := scanner.check_scanned finish p q text.toList _ checked cursor fits
  exact ⟨next, cursor.opened ++ words, stops, scanned, by rw [List.append_assoc, ← known, finish]⟩

theorem quoted (text : String) : Words p (quoted text) [] .gap := by
  intro cursor _
  refine ⟨.gap, cursor.opened, fun known member => Option.some.inj member, ?_, rfl⟩
  rw [ApiBindings.quoted, String.toList_ofList]
  exact scanner.scan_literal cursor text.toList

theorem word (name : String) (named : Naming.Word name) : Words .gap name [name] .any := by
  intro cursor fits
  obtain rfl := fits .gap rfl
  refine ⟨.word name.toList.reverse false, [], Scanner.any_fits _,
    scanner.scan_word .gap name named rfl, ?_⟩
  simp [Cursor.opened]

theorem separated (items : List String) (words : ∀ item ∈ items, Naming.Word item) :
    Words .gap (commaSeparated items) items .any := by
  induction items with
  | nil => exact empty.loosen
  | cons item others ih =>
      have first := word item (words item List.mem_cons_self)
      cases others with
      | nil => simpa [commaSeparated] using first
      | cons next rest =>
          have later := ih fun other member => words other (List.mem_cons_of_mem _ member)
          unfold commaSeparated at later ⊢
          rw [String.intercalate_cons_cons]
          exact (first.append (.fixed .any ", " [] .gap (by decide))).append later

theorem of_text (words : Words .gap first names q) : Identifiers.ofText first = names.filter isIdentifier := by
  obtain ⟨next, ended, _, scanned, known⟩ := words .gap fun _ member => Option.some.inj member
  have listed : Identifiers.words first = names.map String.toList := by
    rw [Identifiers.words, scanned]
    exact known
  rw [ofText, listed, List.map_map]
  simp [Function.comp_def]

end Words

def ClientCall.front (call : ClientCall) (type : String) : List String :=
  ["var", "out", type, "path"] ++ if call.path.arguments.isEmpty then [] else ["fmt"]

def ClientCall.back (call : ClientCall) : List String :=
  let onError := if call.response.byPointer then "nil" else "out"
  ["req", "err", "c", "ctx", "http", "path", call.body.getD "nil", "if", "err", "nil", "return", onError, "err"] ++
    call.options.elim [] (fun options => ["q", "req", "for", "_", "opt", "range", options, "opt", "q", "req", "q"]) ++
    ["if", "err", "c", "req", "out", "err", "nil", "return", onError, "err", "return", "out", "nil"]

theorem path_words (path : PathExpr) (spelled : ∀ argument ∈ path.arguments, Naming.Word argument) :
    Words .gap (ClientCall.renderPath path) ((if path.arguments.isEmpty then [] else ["fmt"]) ++ path.arguments) .any := by
  unfold ClientCall.renderPath
  by_cases none : path.arguments.isEmpty = true
  · rw [if_pos none, if_pos none, List.isEmpty_iff.mp none]
    exact (Words.quoted path.format).loosen
  · rw [if_neg none, if_neg none]
    have called := ((Words.fixed .gap "fmt.Sprintf(" ["fmt"] .gap (by decide)).append (.quoted path.format)).append
      (.fixed .gap ", " [] .gap (by decide))
    have filled := (called.append (.separated path.arguments spelled)).append (.fixed .any ")" [] .gap (by decide))
    simpa using filled.loosen

theorem call_words (call : ClientCall) (spelled : call.Spelled) (type : String) (named : Naming.Word type)
    (typed : call.response.type = .named type ∨ call.response.type = .slice (.named type)) :
    Words .gap call.render (call.front type ++ call.path.arguments ++ call.back) .gap := by
  have chosen (byPointer : Bool) : ∃ value onError,
      (if byPointer then ("&out", "nil") else ("out", "out")) = (value, onError) ∧
      Words .gap value ["out"] .any ∧ Words .gap onError [if byPointer then "nil" else "out"] .any := by
    cases byPointer with
    | true => exact ⟨_, _, rfl, .fixed .gap _ _ _ (by decide), .fixed .gap _ _ _ (by decide)⟩
    | false => exact ⟨_, _, rfl, .fixed .gap _ _ _ (by decide), .fixed .gap _ _ _ (by decide)⟩
  obtain ⟨value, onError, returned, valued, failed⟩ := chosen call.response.byPointer
  have result : Words .gap call.response.type.render [type] .any := by
    rcases typed with plain | list
    · rw [plain]
      exact .word type named
    · rw [list]
      exact (Words.fixed .gap "[]" [] .gap (by decide)).append (.word type named)
  have method : Words .gap call.method.constant ["http"] .any := by
    cases call.method <;> exact .fixed .gap _ _ _ (by decide)
  have body : Words .gap (call.body.getD "nil") [call.body.getD "nil"] .any := by
    cases given : call.body with
    | none => exact .fixed .gap _ _ _ (by decide)
    | some body => exact .word body (spelled.body body given)
  have options : Words .gap (optionsPart call.options) (call.options.elim [] fun options =>
      ["q", "req", "for", "_", "opt", "range", options, "opt", "q", "req", "q"]) .gap := by
    cases given : call.options with
    | none => exact .empty
    | some options =>
        exact ((Words.fixed .gap _ ["q", "req", "for", "_", "opt", "range"] .gap (by decide)).append
          (.word options (spelled.options options given))).append
          (.fixed .any _ ["opt", "q", "req", "q"] .gap (by decide))
  have request :=
    (((((((Words.fixed .gap "\tvar out " ["var", "out"] .gap (by decide)).append result).append
      (.fixed .any "\n\tpath := " ["path"] .gap (by decide))).append (path_words call.path spelled.arguments)).append
      (.fixed .any "\n\treq, err := c.newRequest(ctx, " ["req", "err", "c", "ctx"] .gap (by decide))).append method).append
      (.fixed .any ", path, " ["path"] .gap (by decide))).append body
  have requested := ((request.append
    (.fixed .any ")\n\tif err != nil \x7b\n\t\treturn " ["if", "err", "nil", "return"] .gap (by decide))).append
    failed).append (.fixed .any ", err\n\t\x7d\n" ["err"] .gap (by decide))
  have answered := (((requested.append options).append
    (.fixed .gap "\tif err := c.do(req, &out); err != nil \x7b\n\t\treturn "
      ["if", "err", "c", "req", "out", "err", "nil", "return"] .gap (by decide))).append
    failed).append (.fixed .any ", err\n\t\x7d\n\treturn " ["err", "return"] .gap (by decide))
  have printed := (answered.append valued).append (.fixed .any ", nil\n" ["nil"] .gap (by decide))
  rw [call_render call value onError returned]
  simpa [ClientCall.front, ClientCall.back] using printed

end ApiBindings
