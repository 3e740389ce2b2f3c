import ApiBindings.Proofs.Unit.Parts
import ApiBindings.Proofs.Unit.Qualifiers
set_option autoImplicit false

namespace ApiBindings

open Qualifiers (Named)
open Scanner (Cursor State Stop)

namespace TypeExpr

def packages (type : TypeExpr) : List Package := (type.qualifier?.bind Package.ofQualifier?).toList

end TypeExpr

namespace Qualifiers

theorem packages_of_single (name : String) : packagesOf [name.toList] = (Package.ofQualifier? name).toList := by
  have same : (fun package : Package => decide (package.qualifier.toList = name.toList)) =
      fun package => decide (package.qualifier = name) := funext fun package => by simp [String.toList_inj]
  have found : Package.all.find? (fun package => decide (package.qualifier.toList = name.toList)) =
      Package.ofQualifier? name := by
    rw [same, Package.ofQualifier?]
  rw [packagesOf, List.filterMap_cons, found]
  cases Package.ofQualifier? name with
  | none => rfl
  | some package => rfl

theorem word_pointless (name : String) (word : Naming.Word name) : '.' ∉ name.toList := by
  intro member
  exact absurd (word.chars '.' member) (by decide)

theorem plain_packages (name : String) (word : Naming.Word name) : (TypeExpr.named name).packages = [] := by
  have none : TypeExpr.qualifierOf name.toList = none := if_neg (word_pointless name word)
  simp [TypeExpr.packages, TypeExpr.qualifier?, none]

theorem qualified_packages (qualifier selector : String) (word : Naming.Word qualifier) :
    (TypeExpr.named (qualifier ++ "." ++ selector)).packages = (Package.ofQualifier? qualifier).toList := by
  have text : (qualifier ++ "." ++ selector).toList = qualifier.toList ++ '.' :: selector.toList := by
    rw [String.toList_append, String.toList_append, List.append_assoc]
    rfl
  have before : (qualifier.toList ++ '.' :: selector.toList).takeWhile (· ≠ '.') = qualifier.toList := by
    rw [List.takeWhile_append_of_pos]
    · simp
    · intro c member
      have other : c ≠ '.' := fun same => word_pointless qualifier word (same ▸ member)
      simpa using other
  have split : TypeExpr.qualifierOf (qualifier.toList ++ '.' :: selector.toList) = some qualifier.toList := by
    rw [TypeExpr.qualifierOf, if_pos (by simp), before]
  rw [TypeExpr.packages, TypeExpr.qualifier?, text, split, Option.map_some, String.ofList_toList, Option.bind_some]

def Numeral : Cursor → Prop
  | .word letters _ => ∀ c ∈ letters, Number.isNumeralChar c = true
  | _ => True

theorem cursor_step_numeral (cursor : Cursor) (c : Char) (own : Number.isNumeralChar c = true) (numeral : Numeral cursor) :
    Numeral (cursor.step c) ∧ ∀ word ∈ scanner.taken cursor c, ∀ d ∈ word, Number.isNumeralChar d = true := by
  by_cases inWord : Naming.isWordChar c = true
  · rw [Scanner.taken, if_pos inWord]
    refine ⟨?_, List.forall_mem_nil _⟩
    cases cursor with
    | gap | point =>
        simp only [Cursor.step, if_pos inWord]
        simpa [Numeral] using own
    | word letters selector =>
        simp only [Cursor.step, if_pos inWord]
        exact List.forall_mem_cons.mpr ⟨own, numeral⟩
  · have point : c = '.' := (Number.numeral_char_kind c own).resolve_left fun alphanumeric =>
      inWord (Naming.alphanumeric_word_char c alphanumeric)
    rw [Scanner.taken, if_neg inWord, if_pos point]
    cases cursor with
    | gap | point =>
        simp only [Cursor.step, if_neg inWord, if_pos point]
        exact ⟨trivial, List.forall_mem_nil _⟩
    | word letters selector =>
        simp only [Cursor.step, if_neg inWord, if_pos point]
        refine ⟨trivial, fun word member => ?_⟩
        cases selector with
        | true => exact absurd member List.not_mem_nil
        | false =>
            rw [List.mem_singleton.mp member]
            exact fun d listed => numeral d (List.mem_reverse.mp listed)

theorem scan_numeral (cursor : Cursor) (text : List Char) (chars : ∀ c ∈ text, Number.isNumeralChar c = true)
    (numeral : Numeral cursor) : ∃ next words, scanner.scan (.code cursor) text = (.code next, words) ∧
      ∀ word ∈ words, ∀ c ∈ word, Number.isNumeralChar c = true := by
  induction text generalizing cursor with
  | nil => exact ⟨cursor, [], rfl, List.forall_mem_nil _⟩
  | cons c rest ih =>
      have own := chars c List.mem_cons_self
      obtain ⟨kept, inside⟩ := cursor_step_numeral cursor c own numeral
      obtain ⟨next, words, scanned, later⟩ := ih (cursor.step c) (fun d member => chars d (List.mem_cons_of_mem _ member)) kept
      have kind : (Naming.isWordChar c || c = '.') = true := by
        rcases Number.numeral_char_kind c own with alphanumeric | point
        · rw [Naming.alphanumeric_word_char c alphanumeric, Bool.true_or]
        · rw [point]
          decide
      refine ⟨next, scanner.taken cursor c ++ words, ?_, fun word member => ?_⟩
      · rw [Scanner.scan, Scanner.code_char_step cursor c kind, scanned]
        rfl
      · exact (List.mem_append.mp member).elim (inside word) (later word)

theorem numeral_words_packages (words : List (List Char))
    (numeral : ∀ word ∈ words, ∀ c ∈ word, Number.isNumeralChar c = true) : packagesOf words = [] := by
  have other : ∀ package ∈ Package.all, package.qualifier.toList.all Number.isNumeralChar = false := by decide
  rw [packagesOf, List.filterMap_eq_nil_iff]
  intro word member
  rw [List.find?_eq_none]
  intro package listed same
  have chars := numeral word member
  rw [← of_decide_eq_true same, ← List.all_eq_true, other package listed] at chars
  exact Bool.noConfusion chars

end Qualifiers

namespace Uses

open Qualifiers

variable {p q : Stop}

theorem named (name : String) (spelled : Named name) (open' : p = .gap ∨ p = .ellipsis) :
    Uses p name (TypeExpr.named name).packages .any := by
  cases spelled with
  | plain word =>
      rw [plain_packages name word]
      refine Uses.word name word (Scanner.stop_between p ?_)
      rcases open' with rfl | rfl <;> decide
  | qualified qualifier selector first last whole =>
      subst whole
      intro cursor fits
      have between : cursor.isWord = false ∧ cursor.selects = false := by
        rcases open' with rfl | rfl
        · rw [fits _ rfl]
          exact ⟨rfl, rfl⟩
        · rw [fits _ rfl]
          exact ⟨rfl, rfl⟩
      refine ⟨_, _, Scanner.any_fits _,
        scan_qualified cursor qualifier selector first last between.1 between.2, ?_⟩
      rw [packages_of_single, qualified_packages qualifier selector first]

theorem type (type : TypeExpr) (spelled : type.Within Named) (open' : p = .gap ∨ p = .ellipsis) :
    Uses p type.render type.packages .any := by
  have start (text : String) (checked : scanner.check (fun _ words => packagesOf words) .gap text.toList = some (.gap, []))
      (ellipsis : scanner.check (fun _ words => packagesOf words) .ellipsis text.toList = some (.gap, [])) :
      Uses p text [] .gap := by
    rcases open' with rfl | rfl
    · exact .fixed _ text [] _ checked
    · exact .fixed _ text [] _ ellipsis
  induction type generalizing p with
  | named name => exact named name (spelled name rfl) open'
  | pointer target ih =>
      exact (start "*" (by decide) (by decide)).append
        (ih spelled (Or.inl rfl) fun text checked _ => .fixed _ text [] _ checked)
  | slice item ih =>
      exact (start "[]" (by decide) (by decide)).append
        (ih spelled (Or.inl rfl) fun text checked _ => .fixed _ text [] _ checked)
  | map value ih =>
      exact (start "map[string]" (by decide) (by decide)).append
        (ih spelled (Or.inl rfl) fun text checked _ => .fixed _ text [] _ checked)
  | any =>
      refine Uses.word "any" ⟨by decide, by decide⟩ (Scanner.stop_between p ?_)
      rcases open' with rfl | rfl <;> decide

theorem doc (indent : String) (tabs : Indent indent) (text : Option String) :
    Uses .gap (renderDoc indent text) [] .gap := by
  cases text with
  | none => exact empty
  | some text =>
      refine (joined _ (fun _ => []) (Text.lines text.toList) fun line member => ?_).same (by simp)
      have feedless := Text.lines_feedless text.toList line member
      have comment (shown : String) (content : List Char) (single : '\n' ∉ content)
          (chars : shown.toList = indent.toList ++ '/' :: '/' :: content ++ ['\n']) : Uses .gap shown [] .gap := by
        intro cursor fits
        rw [fits .gap rfl, chars, scanner.scan_comment indent.toList content tabs single]
        exact ⟨.gap, [], fun _ member => Option.some.inj member, rfl, rfl⟩
      split
      · exact comment _ [] List.not_mem_nil (by simp [String.toList_append])
      · exact comment _ (' ' :: line) (by simpa using feedless) (by simp [String.toList_append])

theorem tag (tag : FieldTag) (spelled : tag.Spelled) : Uses .gap tag.render [] .gap := by
  obtain ⟨text, chars, closed⟩ := tag_raw tag spelled
  intro cursor _
  rw [chars, scanner.scan_raw cursor text fun c member => (closed c member).1]
  exact ⟨.gap, [], fun _ member => Option.some.inj member, rfl, rfl⟩

theorem numeral (text : String) (numeral : Number.Numeral text) : Uses .gap text [] .any := by
  intro cursor fits
  obtain rfl := fits .gap rfl
  obtain ⟨rest, unsigned, same⟩ := numeral
  obtain ⟨next, words, scanned, inside⟩ := scan_numeral .gap rest unsigned.chars trivial
  refine ⟨next, words, Scanner.any_fits _, ?_, numeral_words_packages words inside⟩
  rcases same with same | same
  · rw [same, scanned]
  · have sign : State.step (.code .gap) '-' = .code .gap := by decide
    rw [same, Scanner.scan, sign, scanned]
    rfl

theorem literal (literal : Literal) : Uses .gap literal.render [] .any := by
  cases literal with
  | text s => exact (quoted s).loosen
  | integer n => exact numeral _ (Number.int_numeral n)
  | double x => exact numeral _ (Number.format_fraction_numeral x)
  | flag b =>
      cases b with
      | true => exact .fixed _ _ _ _ (by decide)
      | false => exact .fixed _ _ _ _ (by decide)

theorem separated {α : Type} (f : α → String) (packages : α → List Package) (items : List α)
    (each : ∀ item ∈ items, Uses .gap (f item) (packages item) .any) :
    Uses .gap (commaSeparated (items.map f)) (items.flatMap packages) .any := by
  induction items with
  | nil => exact empty.loosen
  | cons item others ih =>
      have first := each item List.mem_cons_self
      cases others with
      | nil => simpa [commaSeparated] using first
      | cons next rest =>
          have later := ih fun other member => each other (List.mem_cons_of_mem _ member)
          unfold commaSeparated at later ⊢
          rw [List.map_cons, List.map_cons, String.intercalate_cons_cons, List.flatMap_cons]
          exact ((first.append (.fixed .any ", " [] .gap (by decide))).append later).same (by simp)

end Uses

def Declaration.packages (d : Declaration) : List Package := d.shape.types.flatMap TypeExpr.packages

-- What the text of a body uses; the types that it mentions are given by others as
-- well.
def FunctionBody.used : FunctionBody → List Package
  | .call request =>
    request.response.type.packages ++ (if request.path.arguments.isEmpty then [] else [.fmt]) ++ [.http]
  | .queryOption .. => [.url, .fmt]
  | .finder search =>
    (if search.byName.isString then [] else [.fmt]) ++ (if search.byId.isString then [] else [.fmt])
  | .notFoundMessage => [.fmt]

def Function.packages (f : Function) : List Package :=
  f.receiver.toList.flatMap (·.type.packages) ++ f.parameters.flatMap (·.type.packages) ++
    f.results.flatMap TypeExpr.packages ++ f.body.used

def SourceUnit.packages (unit : SourceUnit) : List Package :=
  unit.declarations.flatMap Declaration.packages ++ unit.functions.flatMap Function.packages

end ApiBindings
