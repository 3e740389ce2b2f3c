import ApiBindings.Proofs.Text.Literal
import ApiBindings.Proofs.Unit.Parts
import Mathlib.Data.List.TakeWhile
set_option autoImplicit false

namespace ApiBindings

namespace StructTag

-- The text of a raw literal. Carriage returns are no part of it.
def rawText? : List Char → Option (List Char)
  | '\x60' :: rest =>
    if rest.dropWhile (· ≠ '\x60') = ['\x60'] then some ((rest.takeWhile (· ≠ '\x60')).filter (· ≠ '\r')) else none
  | _ => none

def isKeyChar (c : Char) : Bool := ' ' < c && c ≠ ':' && c ≠ '"' && c ≠ '\x7f'

mutual

-- The pairs of a tag up to the first fault. `key` and `value` hold what was read
-- of the open pair; a value is kept as it is quoted.
def pairsFrom (key : List Char) : List Char → List (List Char × List Char)
  | [] => []
  | c :: rest =>
    if isKeyChar c then pairsFrom (key ++ [c]) rest
    else if c = ' ' ∧ key = [] then pairsFrom key rest
    else if c = ':' ∧ key ≠ [] then
      match rest with
      | '"' :: quoted => valueFrom key [] quoted
      | _ => []
    else []

def valueFrom (key value : List Char) : List Char → List (List Char × List Char)
  | [] => []
  | c :: rest =>
    if c = '"' then (key, value) :: pairsFrom [] rest
    else if c = '\\' then
      match rest with
      | escaped :: after => valueFrom key (value ++ [c, escaped]) after
      | [] => []
    else valueFrom key (value ++ [c]) rest

end

def value? (key : String) (text : List Char) : Option String :=
  ((pairsFrom [] text).lookup key.toList).bind fun quoted =>
    match Text.unquote? (quoted ++ ['"']) with
    | some (value, []) => some (String.ofList value)
    | _ => none

inductive Encoding where
  | ignored
  | named (name : String) (omitEmpty : Bool)
deriving DecidableEq, Repr

namespace Encoding

def nameOf (value : List Char) : List Char := value.takeWhile (· ≠ ',')

def optionsOf (value : List Char) : List (List Char) := ((value.dropWhile (· ≠ ',')).drop 1).splitOn ','

def ofValue (field value : String) : Encoding :=
  if value = "-" then .ignored
  else
    let name := nameOf value.toList
    .named (if name = [] then field else String.ofList name) ((optionsOf value.toList).contains "omitempty".toList)

end Encoding

def read? (field : String) (literal : List Char) : Option (Encoding × Option String) :=
  (rawText? literal).map fun text => (Encoding.ofValue field ((value? "json" text).getD ""), value? "validate" text)

def Verbatim (text : List Char) : Prop := ∀ c ∈ text, c ≠ '"' ∧ c ≠ '\\' ∧ c ≠ '\n'

theorem no_pairs (key : List Char) : pairsFrom key [] = [] := by rw [pairsFrom.eq_def]

theorem value_read (key value text rest : List Char) (verbatim : Verbatim text) :
    valueFrom key value (text ++ '"' :: rest) = (key, value ++ text) :: pairsFrom [] rest := by
  induction text generalizing value with
  | nil =>
      rw [List.nil_append, List.append_nil, valueFrom.eq_def]
      rfl
  | cons c others ih =>
      obtain ⟨quote, backslash, _⟩ := verbatim c List.mem_cons_self
      have later : Verbatim others := fun other member => verbatim other (List.mem_cons_of_mem _ member)
      rw [List.cons_append, valueFrom.eq_def]
      dsimp only
      rw [if_neg quote, if_neg backslash, ih (value ++ [c]) later, List.append_assoc]
      rfl

theorem unquote_verbatim (text : List Char) (verbatim : Verbatim text) : Text.unquote? (text ++ ['"']) = some (text, []) := by
  induction text with
  | nil => rfl
  | cons c others ih =>
      obtain ⟨quote, backslash, feed⟩ := verbatim c List.mem_cons_self
      rw [List.cons_append, Text.unquote_plain c _ quote feed backslash,
        ih fun other member => verbatim other (List.mem_cons_of_mem _ member)]
      rfl

end StructTag

namespace FieldTag

def value (tag : FieldTag) : String := tag.wire ++ if tag.omitEmpty then ",omitempty" else ""

def rulesText (rules : Option String) : List Char :=
  rules.elim [] fun rules => " validate:\"".toList ++ (rules.toList ++ ['"'])

def text (tag : FieldTag) : List Char := "json:\"".toList ++ (tag.value.toList ++ '"' :: rulesText tag.rules)

theorem render_text (tag : FieldTag) : tag.render.toList = '\x60' :: (tag.text ++ ['\x60']) := by
  unfold render text value rulesText
  cases tag.rules <;> simp [String.toList_append]

end FieldTag

namespace StructTag

theorem json_read (rest : List Char) : pairsFrom [] ("json:\"".toList ++ rest) = valueFrom "json".toList [] rest := rfl

theorem validate_read (rest : List Char) :
    pairsFrom [] (" validate:\"".toList ++ rest) = valueFrom "validate".toList [] rest := rfl

theorem rules_pairs (rules : Option String) (verbatim : ∀ text ∈ rules, Verbatim text.toList) :
    pairsFrom [] (FieldTag.rulesText rules) = rules.toList.map fun text => ("validate".toList, text.toList) := by
  cases rules with
  | none => exact no_pairs []
  | some text =>
      rw [FieldTag.rulesText, Option.elim_some, validate_read, value_read _ _ _ _ (verbatim text rfl), no_pairs]
      rfl

theorem text_pairs (tag : FieldTag) (value : Verbatim tag.value.toList) (rules : ∀ text ∈ tag.rules, Verbatim text.toList) :
    pairsFrom [] tag.text = ("json".toList, tag.value.toList) ::
      tag.rules.toList.map fun text => ("validate".toList, text.toList) := by
  unfold FieldTag.text
  rw [json_read, value_read _ _ _ _ value, rules_pairs tag.rules rules, List.nil_append]

theorem quoted_value (key : String) (text value : List Char) (verbatim : Verbatim value)
    (found : (pairsFrom [] text).lookup key.toList = some value) : value? key text = some (String.ofList value) := by
  rw [value?, found, Option.bind_some, unquote_verbatim value verbatim]

theorem tag_values (tag : FieldTag) (value : Verbatim tag.value.toList) (rules : ∀ rules ∈ tag.rules, Verbatim rules.toList) :
    value? "json" tag.text = some tag.value ∧ value? "validate" tag.text = tag.rules := by
  have pairs := text_pairs tag value rules
  refine ⟨?_, ?_⟩
  · rw [quoted_value "json" tag.text tag.value.toList value (by rw [pairs, List.lookup_cons_self]), String.ofList_toList]
  · have other : ("validate".toList == "json".toList) = false := by decide
    have later : (pairsFrom [] tag.text).lookup "validate".toList = tag.rules.map String.toList := by
      rw [pairs, List.lookup_cons, other]
      cases tag.rules with
      | none => rfl
      | some text => exact List.lookup_cons_self
    cases given : tag.rules with
    | none => rw [value?, later, given, Option.map_none, Option.bind_none]
    | some text =>
        rw [given, Option.map_some] at later
        rw [quoted_value "validate" tag.text text.toList (rules text given) later, String.ofList_toList]

theorem tag_safe_verbatim (text : String) (safe : TagSafe text) : Verbatim text.toList := by
  intro c member
  have kind := safe c member
  simp only [isTagSafe, Bool.not_eq_true', Bool.or_eq_false_iff, decide_eq_false_iff_not] at kind
  refine ⟨kind.1.1.2, kind.1.2, fun feed => ?_⟩
  rw [feed] at kind
  exact absurd kind.2 (by decide)

theorem value_safe (tag : FieldTag) (spelled : tag.Spelled) : TagSafe tag.value := by
  have ending : TagSafe (if tag.omitEmpty then ",omitempty" else "") := by split <;> decide
  intro c member
  rw [FieldTag.value, String.toList_append] at member
  exact (List.mem_append.mp member).elim (spelled.wire c) (ending c)

theorem text_chars (tag : FieldTag) (spelled : tag.Spelled) : ∀ c ∈ tag.text, isTagSafe c = true ∨ c = '"' := by
  have fixed (text : String) (checked : text.toList.all (fun c => isTagSafe c || c = '"') = true) :
      ∀ c ∈ text.toList, isTagSafe c = true ∨ c = '"' := by simpa using checked
  have rules : ∀ c ∈ FieldTag.rulesText tag.rules, isTagSafe c = true ∨ c = '"' := by
    cases given : tag.rules with
    | none => exact List.forall_mem_nil _
    | some text =>
        intro c member
        rw [FieldTag.rulesText, Option.elim_some] at member
        rcases List.mem_append.mp member with key | member
        · exact fixed " validate:\"" (by decide) c key
        · rcases List.mem_append.mp member with inner | quote
          · exact Or.inl (spelled.rules text given c inner)
          · exact Or.inr (List.mem_singleton.mp quote)
  intro c member
  unfold FieldTag.text at member
  rcases List.mem_append.mp member with key | member
  · exact fixed "json:\"" (by decide) c key
  · rcases List.mem_append.mp member with inner | member
    · exact Or.inl (value_safe tag spelled c inner)
    · exact (List.mem_cons.mp member).elim Or.inr (rules c)

theorem raw_text (text : List Char) (closed : ∀ c ∈ text, c ≠ '\x60' ∧ c ≠ '\r') :
    rawText? ('\x60' :: (text ++ ['\x60'])) = some text := by
  have inside : ∀ c ∈ text, decide (c ≠ '\x60') = true := fun c member => decide_eq_true (closed c member).1
  rw [rawText?, List.dropWhile_append_of_pos inside, List.takeWhile_append_of_pos inside]
  simpa using fun c member => (closed c member).2

section

variable (wire : String) (omitEmpty : Bool)

theorem value_not_hyphen (differs : wire = "-" → omitEmpty = true) :
    wire ++ (if omitEmpty then ",omitempty" else "") ≠ "-" := by
  intro same
  cases omitEmpty with
  | false => exact absurd (differs (by simpa using same)) Bool.false_ne_true
  | true =>
      have length := congrArg String.length same
      have long : ",omitempty".length = 10 := by decide
      have short : "-".length = 1 := by decide
      rw [if_pos rfl, String.length_append] at length
      omega

theorem no_comma (plain : ',' ∉ wire.toList) : ∀ c ∈ wire.toList, decide (c ≠ ',') = true := fun _ member =>
  decide_eq_true fun comma => plain (comma ▸ member)

theorem name_read (plain : ',' ∉ wire.toList) :
    Encoding.nameOf (wire ++ if omitEmpty then ",omitempty" else "").toList = wire.toList := by
  rw [Encoding.nameOf, String.toList_append, List.takeWhile_append_of_pos (no_comma wire plain)]
  cases omitEmpty <;> simp

theorem options_read (plain : ',' ∉ wire.toList) :
    (Encoding.optionsOf (wire ++ if omitEmpty then ",omitempty" else "").toList).contains "omitempty".toList = omitEmpty := by
  rw [Encoding.optionsOf, String.toList_append, List.dropWhile_append_of_pos (no_comma wire plain)]
  cases omitEmpty <;> decide

end

-- The value says the name of the property unless a comma ends it early, nothing
-- is left of it, or it is taken for a hyphen.
theorem encoding_iff (field wire : String) (omitEmpty : Bool) (named : Naming.Word field) :
    Encoding.ofValue field (wire ++ if omitEmpty then ",omitempty" else "") = .named wire omitEmpty ↔
      ',' ∉ wire.toList ∧ wire ≠ "" ∧ (wire = "-" → omitEmpty = true) := by
  constructor
  · intro same
    have differs : wire = "-" → omitEmpty = true := by
      rintro rfl
      cases omitEmpty with
      | true => rfl
      | false => cases same
    rw [Encoding.ofValue, if_neg (value_not_hyphen wire omitEmpty differs)] at same
    have name := (Encoding.named.inj same).1
    by_cases comma : ',' ∈ wire.toList
    · exfalso
      generalize (wire ++ if omitEmpty then ",omitempty" else "").toList = value at name
      by_cases empty : Encoding.nameOf value = []
      · rw [if_pos empty] at name
        exact absurd (named.chars ',' (name ▸ comma)) (by decide)
      · rw [if_neg empty] at name
        rw [← name, String.toList_ofList, Encoding.nameOf] at comma
        have other := List.mem_takeWhile_imp comma
        exact absurd other (by decide)
    · refine ⟨comma, fun empty => ?_, differs⟩
      rw [name_read wire omitEmpty comma, if_pos (String.toList_eq_nil_iff.mpr empty)] at name
      exact named.nonempty (name.trans empty)
  · rintro ⟨plain, given, differs⟩
    have nonempty : wire.toList ≠ [] := fun empty => given (String.toList_eq_nil_iff.mp empty)
    rw [Encoding.ofValue, if_neg (value_not_hyphen wire omitEmpty differs)]
    dsimp only
    rw [name_read wire omitEmpty plain, options_read wire omitEmpty plain, if_neg nonempty, String.ofList_toList]

theorem tag_read (field : String) (tag : FieldTag) (named : Naming.Word field) (spelled : tag.Spelled) :
    ∃ encoding, read? field tag.render.toList = some (encoding, tag.rules) ∧
      (encoding = .named tag.wire tag.omitEmpty ↔
        ',' ∉ tag.wire.toList ∧ tag.wire ≠ "" ∧ (tag.wire = "-" → tag.omitEmpty = true)) := by
  have closed : ∀ c ∈ tag.text, c ≠ '\x60' ∧ c ≠ '\r' := by
    intro c member
    constructor <;> rintro rfl <;> exact absurd (text_chars tag spelled _ member) (by decide)
  obtain ⟨json, validate⟩ := tag_values tag (tag_safe_verbatim tag.value (value_safe tag spelled))
    fun rules given => tag_safe_verbatim rules (spelled.rules rules given)
  refine ⟨Encoding.ofValue field tag.value, ?_, encoding_iff field tag.wire tag.omitEmpty named⟩
  rw [read?, tag.render_text, raw_text tag.text closed, Option.map_some, json, validate, Option.getD_some]

end StructTag

end ApiBindings
