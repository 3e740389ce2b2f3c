import ApiBindings.Generation
import ApiBindings.Proofs.Naming.Identifier
import ApiBindings.Proofs.Operation.Spelled
import ApiBindings.Proofs.Text.Literal
import ApiBindings.Unit.Printer
set_option autoImplicit false

namespace ApiBindings

inductive PathReading where
  | literal (text : List Char)
  | formatted (format : List Char) (arguments : List String)
deriving DecidableEq, Repr

namespace PathReading

-- Reads the rest of an argument list up to the bracket that closes it; `word` holds
-- the letters of the open name, last letter first.
def argumentsFrom (word : List Char) : List Char → Option (List String)
  | [] => none
  | c :: rest =>
    if Naming.isWordChar c then argumentsFrom (c :: word) rest
    else if word = [] then none
    else match rest with
      | [] => if c = ')' then some [String.ofList word.reverse] else none
      | d :: others =>
        if c = ',' ∧ d = ' ' then (argumentsFrom [] others).map (String.ofList word.reverse :: ·) else none

def ofText (text : List Char) : Option PathReading :=
  match text.dropPrefix? ['"'] with
  | some inside =>
    match Text.unquote? inside with
    | some (content, []) => some (.literal content)
    | _ => none
  | none => do
    let inside ← text.dropPrefix? "fmt.Sprintf(\"".toList
    let (format, rest) ← Text.unquote? inside
    let listed ← rest.dropPrefix? ", ".toList
    let arguments ← argumentsFrom [] listed
    return .formatted format arguments

def verbsOf : List Char → Nat
  | [] => 0
  | '%' :: '%' :: rest => verbsOf rest
  | '%' :: 'v' :: rest => verbsOf rest + 1
  | _ :: rest => verbsOf rest

-- Fills the verbs in turn. Other verbs, and arguments that are missing or too
-- many, have no meaning here.
def sprintf : List Char → List (List Char) → Option (List Char)
  | [], [] => some []
  | [], _ :: _ => none
  | '%' :: '%' :: rest, arguments => (sprintf rest arguments).map ('%' :: ·)
  | '%' :: 'v' :: rest, argument :: others => (sprintf rest others).map (argument ++ ·)
  | '%' :: _, _ => none
  | c :: rest, arguments => (sprintf rest arguments).map (c :: ·)

def verbs : PathReading → Nat
  | .literal _ => 0
  | .formatted format _ => verbsOf format

def arguments : PathReading → List String
  | .literal _ => []
  | .formatted _ arguments => arguments

def denotes (value : String → List Char) : PathReading → Option (List Char)
  | .literal text => some text
  | .formatted format arguments => sprintf format (arguments.map value)

theorem sprintf_plain (c : Char) (rest : List Char) (arguments : List (List Char)) (plain : c ≠ '%') :
    sprintf (c :: rest) arguments = (sprintf rest arguments).map (c :: ·) := by
  rw [sprintf.eq_def]
  cases arguments <;> simp [plain]

theorem sprintf_escaped (text rest : List Char) (arguments : List (List Char)) :
    sprintf (escapePercent text ++ rest) arguments = (sprintf rest arguments).map (text ++ ·) := by
  induction text with
  | nil => simp [escapePercent]
  | cons c others ih =>
      have unfolded : escapePercent (c :: others) = (if c = '%' then ['%', '%'] else [c]) ++ escapePercent others := rfl
      rw [unfolded]
      by_cases percent : c = '%'
      · subst c
        simp [sprintf, ih, Function.comp_def]
      · rw [if_neg percent, List.append_assoc, List.singleton_append, sprintf_plain c _ _ percent, ih, Option.map_map]
        rfl

theorem verbs_plain (c : Char) (rest : List Char) (plain : c ≠ '%') : verbsOf (c :: rest) = verbsOf rest := by
  rw [verbsOf.eq_def]
  simp [plain]

theorem sprintf_verbs (format : List Char) (arguments : List (List Char)) (text : List Char)
    (filled : sprintf format arguments = some text) : verbsOf format = arguments.length := by
  fun_induction sprintf format arguments generalizing text with
  | case1 => rfl
  | case2 | case5 => cases filled
  | case3 rest arguments ih =>
      obtain ⟨later, ran, _⟩ := Option.map_eq_some_iff.mp filled
      simpa [verbsOf] using ih later ran
  | case4 rest argument others ih =>
      obtain ⟨later, ran, _⟩ := Option.map_eq_some_iff.mp filled
      simpa [verbsOf] using ih later ran
  | case6 c rest arguments _ _ plain ih =>
      obtain ⟨later, ran, _⟩ := Option.map_eq_some_iff.mp filled
      rw [verbs_plain c rest plain]
      exact ih later ran

theorem arguments_word (word letters : List Char) (c : Char) (rest : List Char)
    (inWord : ∀ d ∈ letters, Naming.isWordChar d = true) :
    argumentsFrom word (letters ++ c :: rest) = argumentsFrom (letters.reverse ++ word) (c :: rest) := by
  induction letters generalizing word with
  | nil => rfl
  | cons d others ih =>
      have own := inWord d List.mem_cons_self
      have first : argumentsFrom word (d :: (others ++ c :: rest)) = argumentsFrom (d :: word) (others ++ c :: rest) := by
        rw [argumentsFrom.eq_def]
        simp only [own, if_true]
      rw [List.cons_append, first, ih _ fun e member => inWord e (List.mem_cons_of_mem _ member)]
      simp

theorem arguments_read (arguments : List String) (present : arguments ≠ [])
    (words : ∀ argument ∈ arguments, Naming.Word argument) :
    argumentsFrom [] ((commaSeparated arguments).toList ++ [')']) = some arguments := by
  induction arguments with
  | nil => exact absurd rfl present
  | cons argument others ih =>
      obtain ⟨nonempty, chars⟩ := words argument List.mem_cons_self
      cases others with
      | nil =>
          have single : (commaSeparated [argument]).toList = argument.toList := by simp [commaSeparated]
          rw [single, arguments_word [] _ _ _ chars, argumentsFrom.eq_def]
          simp [nonempty, (by decide : Naming.isWordChar ')' = false)]
      | cons next rest =>
          have later := ih (List.cons_ne_nil _ _) fun other member => words other (List.mem_cons_of_mem _ member)
          have joined : (commaSeparated (argument :: next :: rest)).toList =
              argument.toList ++ ',' :: ' ' :: (commaSeparated (next :: rest)).toList := by
            rw [commaSeparated, commaSeparated, String.intercalate_cons_cons]
            simp
          rw [joined, List.append_assoc, List.cons_append, List.cons_append, arguments_word [] _ _ _ chars,
            argumentsFrom.eq_def]
          simp [nonempty, (by decide : Naming.isWordChar ',' = false), later]

theorem rendered_read (path : PathExpr) (words : ∀ argument ∈ path.arguments, Naming.Word argument) :
    ofText (ClientCall.renderPath path).toList =
      some (if path.arguments = [] then .literal path.format.toList else .formatted path.format.toList path.arguments) := by
  have quote : (quoted path.format).toList = '"' :: (path.format.toList.flatMap Text.literalChar ++ ['"']) := by
    simp [quoted, Text.literal]
  unfold ClientCall.renderPath
  by_cases absent : path.arguments = []
  · have opened : ('"' :: (path.format.toList.flatMap Text.literalChar ++ ['"'])).dropPrefix? ['"'] =
        some (path.format.toList.flatMap Text.literalChar ++ ['"']) := by simp [List.dropPrefix?]
    rw [if_pos (by simp [absent]), if_pos absent, quote, ofText]
    simp only [opened, Text.unquote_literal]
  · have text : ("fmt.Sprintf(" ++ quoted path.format ++ ", " ++ commaSeparated path.arguments ++ ")").toList =
        "fmt.Sprintf(\"".toList ++ (path.format.toList.flatMap Text.literalChar ++
          '"' :: (", ".toList ++ ((commaSeparated path.arguments).toList ++ [')']))) := by
      simp [quote]
    have noQuote : (("fmt.Sprintf(\"".toList ++ (path.format.toList.flatMap Text.literalChar ++
          '"' :: (", ".toList ++ ((commaSeparated path.arguments).toList ++ [')'])))).dropPrefix? ['"']) = none := by
      simp [List.dropPrefix?]
    rw [if_neg (by simpa using absent), if_neg absent, text, ofText, noQuote]
    simp only [List.dropPrefix?_append_of_beq _ (beq_self_eq_true _), Text.unquote_literal,
      arguments_read path.arguments absent words, Option.bind_eq_bind, Option.bind_some, pure]

end PathReading

def FirstWith {α : Type} (holds : α → Prop) (items : List α) (item : α) : Prop :=
  ∃ before after, items = before ++ item :: after ∧ holds item ∧ ∀ other ∈ before, ¬ holds other

theorem first_with_iff {α : Type} (holds : α → Prop) [DecidablePred holds] (items : List α) (item : α) :
    FirstWith holds items item ↔ items.find? (holds ·) = some item := by
  rw [List.find?_eq_some_iff_append]
  constructor
  · rintro ⟨before, after, split, own, unmet⟩
    exact ⟨by simpa using own, before, after, split, fun other member => by simpa using unmet other member⟩
  · rintro ⟨own, before, after, split, unmet⟩
    exact ⟨before, after, split, by simpa using own, fun other member => by simpa using unmet other member⟩

-- The parameter that a placeholder stands for: the one of its name, else the first
-- one whose name has the same words.
def StandsFor (bound : List BoundParameter) (placeholder : String) (b : BoundParameter) : Prop :=
  FirstWith (·.wire = placeholder) bound b ∨
    (∀ other ∈ bound, other.wire ≠ placeholder) ∧
      FirstWith (fun other => Naming.snake other.wire = Naming.snake placeholder) bound b

theorem stands_iff (bound : List BoundParameter) (placeholder : String) (b : BoundParameter) :
    StandsFor bound placeholder b ↔ findBound bound placeholder = some b := by
  unfold StandsFor findBound
  rw [first_with_iff, first_with_iff, Option.or_eq_some_iff, List.find?_eq_none]
  simp

inductive Filled (bound : List BoundParameter) (value : String → List Char) : List Char → List Char → Prop where
  | none : Filled bound value [] []
  | kept {c : Char} {rest text : List Char} (plain : c ≠ '{') (later : Filled bound value rest text) :
      Filled bound value (c :: rest) (c :: text)
  | placed {name rest text : List Char} {b : BoundParameter} (closed : '}' ∉ name)
      (stands : StandsFor bound (String.ofList (withoutStars name)) b) (later : Filled bound value rest text) :
      Filled bound value ('{' :: (name ++ '}' :: rest)) (value b.ident ++ text)

theorem filled_plain (bound : List BoundParameter) (value : String → List Char) (template : List Char)
    (plain : '{' ∉ template) : Filled bound value template template := by
  induction template with
  | nil => exact .none
  | cons c rest ih =>
      rw [List.mem_cons, not_or] at plain
      exact .kept (Ne.symm plain.1) (ih plain.2)

theorem ends_at_bracket (name other rest last : List Char) (first : '}' ∉ name) (second : '}' ∉ other)
    (same : name ++ '}' :: rest = other ++ '}' :: last) : name = other ∧ rest = last := by
  induction name generalizing other with
  | nil =>
      cases other with
      | nil => exact ⟨rfl, (List.cons.inj same).2⟩
      | cons d others =>
          obtain ⟨rfl, _⟩ := List.cons.inj same
          exact absurd List.mem_cons_self second
  | cons c letters ih =>
      cases other with
      | nil =>
          obtain ⟨rfl, _⟩ := List.cons.inj same
          exact absurd List.mem_cons_self first
      | cons d others =>
          obtain ⟨rfl, further⟩ := List.cons.inj same
          obtain ⟨rfl, tails⟩ := ih others (fun member => first (List.mem_cons_of_mem _ member))
            (fun member => second (List.mem_cons_of_mem _ member)) further
          exact ⟨rfl, tails⟩

theorem filled_once (bound : List BoundParameter) (value : String → List Char) (template text other : List Char)
    (first : Filled bound value template text) (second : Filled bound value template other) : other = text := by
  induction first generalizing other with
  | none =>
      cases second with
      | none => rfl
  | kept plain _ ih =>
      cases second with
      | kept _ later => rw [ih _ later]
      | placed => exact absurd rfl plain
  | @placed name rest text b closed stands _ ih =>
      generalize split : '{' :: (name ++ '}' :: rest) = template at second
      cases second with
      | none => cases split
      | kept plain =>
          obtain ⟨rfl, _⟩ := List.cons.inj split
          exact absurd rfl plain
      | @placed again last _ c others also later =>
          obtain ⟨rfl, rfl⟩ := ends_at_bracket _ _ _ _ closed others (List.cons.inj split).2
          obtain rfl := Option.some.inj (((stands_iff _ _ _).mp stands).symm.trans ((stands_iff _ _ _).mp also))
          rw [ih _ later]

section

variable (whole : String) (bound : List BoundParameter)

theorem text_parts (chars : List Char) (rest : List PathPart) (format : List Char) (arguments : List String)
    (made : PathExpr.ofParts whole bound (.text chars :: rest) = .ok (format, arguments)) :
    ∃ later, PathExpr.ofParts whole bound rest = .ok (later, arguments) ∧ format = escapePercent chars ++ later := by
  rw [PathExpr.ofParts] at made
  cases others : PathExpr.ofParts whole bound rest with
  | error cause => simp [others, Except.map] at made
  | ok result =>
      rw [others] at made
      obtain ⟨rfl, rfl⟩ := Prod.mk.inj (Except.ok.inj made)
      exact ⟨result.1, rfl, rfl⟩

theorem placeholder_parts (chars : List Char) (rest : List PathPart) (format : List Char) (arguments : List String)
    (made : PathExpr.ofParts whole bound (.placeholder chars :: rest) = .ok (format, arguments)) :
    ∃ b later others, findBound bound (String.ofList (withoutStars chars)) = some b ∧
      PathExpr.ofParts whole bound rest = .ok (later, others) ∧ format = '%' :: 'v' :: later ∧
      arguments = b.ident :: others := by
  simp only [PathExpr.ofParts] at made
  split at made
  next => cases made
  next b found =>
    cases others : PathExpr.ofParts whole bound rest with
    | error cause => simp [others, Except.map] at made
    | ok result =>
        rw [others] at made
        obtain ⟨rfl, rfl⟩ := Prod.mk.inj (Except.ok.inj made)
        exact ⟨b, result.1, result.2, found, rfl, rfl, rfl⟩

-- By induction on what is left of the template. `chars` is the open part, which
-- stands in front of it.
theorem parts_filled (value : String → List Char) (template : List Char) (inside : Bool) (chars format : List Char)
    (arguments : List String) (closed : inside = true → '}' ∉ chars)
    (made : PathExpr.ofParts whole bound (PathPart.partsFrom inside chars template) = .ok (format, arguments)) :
    ∃ text, if inside then
        PathReading.sprintf format (arguments.map value) = some text ∧
          Filled bound value ('{' :: (chars.reverse ++ template)) text
      else PathReading.sprintf format (arguments.map value) = some (chars.reverse ++ text) ∧
          Filled bound value template text := by
  induction template generalizing inside chars format arguments with
  | nil =>
      cases inside with
      | true => cases made
      | false =>
          obtain ⟨later, none, rfl⟩ := text_parts whole bound _ _ _ _ made
          obtain ⟨rfl, rfl⟩ := Prod.mk.inj (Except.ok.inj none)
          refine ⟨[], ?_, .none⟩
          rw [PathReading.sprintf_escaped]
          rfl
  | cons c rest ih =>
      cases inside with
      | true =>
          by_cases ends : c = '}'
          · subst c
            simp only [PathPart.partsFrom, if_true] at made
            obtain ⟨b, later, others, found, ran, rfl, rfl⟩ := placeholder_parts whole bound _ _ _ _ made
            obtain ⟨text, filled, rests⟩ := ih false [] later others (fun impossible => by cases impossible) ran
            refine ⟨value b.ident ++ text, ?_, ?_⟩
            · simpa [PathReading.sprintf] using filled
            · exact .placed (by simpa using closed rfl) ((stands_iff bound _ b).mpr found) rests
          · simp only [PathPart.partsFrom, if_true, if_neg ends] at made
            have open' : '}' ∉ c :: chars := by simpa [Ne.symm ends] using closed rfl
            simpa using ih true (c :: chars) format arguments (fun _ => open') made
      | false =>
          by_cases starts : c = '{'
          · subst c
            simp only [PathPart.partsFrom, Bool.false_eq_true, if_false, if_true] at made
            obtain ⟨later, ran, rfl⟩ := text_parts whole bound _ _ _ _ made
            obtain ⟨text, filled, rests⟩ := ih true [] later arguments (fun _ => List.not_mem_nil) ran
            refine ⟨text, ?_, by simpa using rests⟩
            rw [PathReading.sprintf_escaped, filled]
            rfl
          · simp only [PathPart.partsFrom, Bool.false_eq_true, if_false, if_neg starts] at made
            obtain ⟨text, filled, rests⟩ :=
              ih false (c :: chars) format arguments (fun impossible => by cases impossible) made
            refine ⟨c :: text, ?_, .kept starts rests⟩
            simpa using filled

theorem parts_bound (template : List Char) (inside : Bool) (chars format : List Char) (arguments : List String)
    (placed : inside = true ∨ '{' ∈ template)
    (made : PathExpr.ofParts whole bound (PathPart.partsFrom inside chars template) = .ok (format, arguments)) :
    arguments ≠ [] := by
  induction template generalizing inside chars format arguments with
  | nil =>
      rcases placed with rfl | never
      · cases made
      · exact absurd never List.not_mem_nil
  | cons c rest ih =>
      cases inside with
      | true =>
          by_cases ends : c = '}'
          · simp only [PathPart.partsFrom, if_true, if_pos ends] at made
            obtain ⟨b, later, others, _, _, _, rfl⟩ := placeholder_parts whole bound _ _ _ _ made
            exact List.cons_ne_nil _ _
          · simp only [PathPart.partsFrom, if_true, if_neg ends] at made
            exact ih true (c :: chars) format arguments (Or.inl rfl) made
      | false =>
          by_cases starts : c = '{'
          · simp only [PathPart.partsFrom, Bool.false_eq_true, if_false, if_pos starts] at made
            obtain ⟨later, ran, _⟩ := text_parts whole bound _ _ _ _ made
            exact ih true [] later arguments (Or.inl rfl) ran
          · simp only [PathPart.partsFrom, Bool.false_eq_true, if_false, if_neg starts] at made
            have later : '{' ∈ rest := by simpa [Ne.symm starts] using placed
            exact ih false (c :: chars) format arguments (Or.inr later) made

end

theorem template_read (template : String) (bound : List BoundParameter) (path : PathExpr)
    (words : ∀ b ∈ bound, Naming.Word b.ident) (made : PathExpr.ofTemplate template bound = .ok path) :
    ∃ reading, PathReading.ofText (ClientCall.renderPath path).toList = some reading ∧
      reading.verbs = reading.arguments.length ∧
      ∀ value, ∃ text, reading.denotes value = some text ∧ Filled bound value template.toList text := by
  have listed := template_arguments template bound path made
  have read := PathReading.rendered_read path fun argument member => by
    obtain ⟨b, own, rfl⟩ := listed argument member
    exact words b own
  unfold PathExpr.ofTemplate at made
  by_cases placed : '{' ∈ template.toList
  · rw [if_pos (by simpa using placed)] at made
    cases parts : PathExpr.ofParts template bound (PathPart.ofTemplate template.toList) with
    | error cause => simp [parts, Except.map] at made
    | ok result =>
        rw [parts] at made
        obtain rfl := Except.ok.inj made
        have present := parts_bound template bound template.toList false [] result.1 result.2 (Or.inr placed) parts
        have filled (value : String → List Char) :=
          parts_filled template bound value template.toList false [] result.1 result.2
            (fun impossible => by cases impossible) parts
        rw [if_neg present, String.toList_ofList] at read
        refine ⟨_, read, ?_, fun value => ?_⟩
        · obtain ⟨text, printed, _⟩ := filled String.toList
          have counted := PathReading.sprintf_verbs _ _ _ printed
          rwa [List.length_map] at counted
        · obtain ⟨text, printed, rests⟩ := filled value
          exact ⟨text, printed, rests⟩
  · rw [if_neg (by simpa using placed)] at made
    obtain rfl := Except.ok.inj made
    rw [if_pos rfl] at read
    exact ⟨_, read, rfl, fun value => ⟨template.toList, rfl, filled_plain bound value _ placed⟩⟩

theorem bound_parameters (names : Names) (parameters : List Parameter) :
    (bindPathParameters names parameters).map BoundParameter.parameter = parameters.filter (·.location = "path") ∧
      ∀ b ∈ bindPathParameters names parameters, b.wire = String.ofList (withoutStars b.parameter.name.toList) := by
  induction parameters generalizing names with
  | nil => exact ⟨rfl, List.forall_mem_nil _⟩
  | cons parameter rest ih =>
      rw [bindPathParameters]
      by_cases inPath : parameter.location = "path"
      · rw [if_pos inPath, List.filter_cons_of_pos (by simpa using inPath)]
        obtain ⟨same, wires⟩ := ih (names.claim (Naming.localName (String.ofList (withoutStars parameter.name.toList)))).2
        refine ⟨congrArg (parameter :: ·) same, fun b member => ?_⟩
        rcases List.mem_cons.mp member with rfl | later
        · rfl
        · exact wires b later
      · rw [if_neg inPath, List.filter_cons_of_neg (by simpa using inPath)]
        exact ih names

theorem bound_idents_free (names : Names) (parameters : List Parameter) :
    (∀ b ∈ bindPathParameters names parameters, ¬ Naming.Reserved b.ident ∧ b.ident ∉ names.taken) ∧
      ((bindPathParameters names parameters).map BoundParameter.ident).Nodup := by
  induction parameters generalizing names with
  | nil => exact ⟨List.forall_mem_nil _, List.nodup_nil⟩
  | cons parameter rest ih =>
      rw [bindPathParameters]
      split
      next =>
        dsimp only
        generalize base : Naming.localName (String.ofList (withoutStars parameter.name.toList)) = stem
        obtain ⟨free, distinct⟩ := ih (names.claim stem).2
        refine ⟨fun b member => ?_, ?_⟩
        · rcases List.mem_cons.mp member with rfl | later
          · exact ⟨base ▸ Naming.local_claim_free names _, Names.claim_absent names stem⟩
          · obtain ⟨unreserved, untaken⟩ := free b later
            exact ⟨unreserved, fun taken => untaken ((Names.claim_mem names stem b.ident).mpr (Or.inr taken))⟩
        · refine List.nodup_cons.mpr ⟨fun again => ?_, distinct⟩
          obtain ⟨b, later, same⟩ := List.mem_map.mp again
          exact (free b later).2 ((Names.claim_mem names stem b.ident).mpr (Or.inl same))
      next => exact ih names

theorem path_variables_free (components : Components) (operation : String) (parameters : List Parameter)
    (inPath : List Variable) (before after : SourceUnit)
    (typed : PathTyped components operation (bindPathParameters {} parameters) before inPath after) :
    ∀ slot ∈ inPath, ¬ Naming.Reserved slot.name := by
  intro slot member
  obtain ⟨b, bound, ident⟩ := path_typed_bound components _ _ _ _ _ typed slot member
  exact ident ▸ ((bound_idents_free {} parameters).1 b bound).1

theorem method_names (components : Components) (entry : Document.Entry) (bound : List BoundParameter)
    (path : PathExpr) (inPath : List Variable) (body : Option Payload) (option : Option String) (response : Payload)
    (before after : SourceUnit) (typed : PathTyped components entry.name bound before inPath after) :
    ∃ others, others.Sublist ["body", "opts"] ∧
      (clientMethod entry path inPath body option response).parameters.map Variable.name =
        "ctx" :: (bound.map BoundParameter.ident ++ others) := by
  have named := path_typed_names components _ _ _ _ _ typed
  cases body with
  | none =>
      cases option with
      | none => exact ⟨[], by decide, by simp [clientMethod, named]⟩
      | some option => exact ⟨["opts"], by decide, by simp [clientMethod, named]⟩
  | some body =>
      cases option with
      | none => exact ⟨["body"], by decide, by simp [clientMethod, named]⟩
      | some option => exact ⟨["body", "opts"], by decide, by simp [clientMethod, named]⟩

theorem method_names_distinct (idents others : List String) (free : ∀ ident ∈ idents, ¬ Naming.Reserved ident)
    (distinct : idents.Nodup) (known : others.Sublist ["body", "opts"]) : ("ctx" :: (idents ++ others)).Nodup := by
  have reserved : ∀ name ∈ "ctx" :: others, Naming.Reserved name := by
    intro name member
    have fixed : ∀ name ∈ ["ctx", "body", "opts"], Naming.Reserved name := by decide
    exact fixed name ((known.cons_cons "ctx").subset member)
  have single : ("ctx" :: others).Nodup := (by decide : ["ctx", "body", "opts"].Nodup).sublist (known.cons_cons "ctx")
  obtain ⟨first, rest⟩ := List.nodup_cons.mp single
  refine List.nodup_cons.mpr ⟨fun member => ?_, List.nodup_append.mpr ⟨distinct, rest, ?_⟩⟩
  · rcases List.mem_append.mp member with bound | other
    · exact free "ctx" bound (reserved "ctx" List.mem_cons_self)
    · exact first other
  · rintro ident bound name other rfl
    exact free ident bound (reserved ident (List.mem_cons_of_mem _ other))

theorem method_path_denotes_template (components : Components) (earlier : List String) (entry : Document.Entry)
    (before after : SourceUnit) (operation : CompiledOperation)
    (done : (compileOperation components earlier entry).result before = (.ok (.emitted operation), after)) :
    ∃ parameters bound others call reading,
      mergedParameters components entry.item entry.operation = .ok parameters ∧
      bound.map BoundParameter.parameter = parameters.filter (·.location = "path") ∧
      (∀ b ∈ bound, b.wire = String.ofList (withoutStars b.parameter.name.toList) ∧ ¬ Naming.Reserved b.ident) ∧
      operation.signature.parameters.map Variable.name = "ctx" :: (bound.map BoundParameter.ident ++ others) ∧
      (operation.signature.parameters.map Variable.name).Nodup ∧
      operation.signature ∈ after.functions ∧ operation.signature.body = .call call ∧
      PathReading.ofText (ClientCall.renderPath call.path).toList = some reading ∧
      reading.verbs = reading.arguments.length ∧
      ∀ value, ∃ text, reading.denotes value = some text ∧ Filled bound value entry.path.toList text ∧
        ∀ other, Filled bound value entry.path.toList other → other = text := by
  cases compile_operation_compiled components earlier entry before after _ done with
  | @emitted _ parameters inPath body option response path _ first second third fourth fifth _ _ _ merged pathTyped
      bodyTyped optionClaimed responseTyped template optionsDeclared searched =>
      obtain ⟨same, wires⟩ := bound_parameters {} parameters
      obtain ⟨free, distinct⟩ := bound_idents_free {} parameters
      obtain ⟨others, known, named⟩ :=
        method_names components entry _ path inPath body option response before first pathTyped
      obtain ⟨reading, read, counted, denoted⟩ := template_read _ _ path (bound_idents_words {} parameters) template
      have unreserved : ∀ ident ∈ (bindPathParameters {} parameters).map BoundParameter.ident, ¬ Naming.Reserved ident := by
        intro ident member
        obtain ⟨b, listed, rfl⟩ := List.mem_map.mp member
        exact (free b listed).1
      have grows := (options_declared_grows components _ _ _ _ _ optionsDeclared).functions.trans
        (response_searched_grows components _ _ _ _ _ searched).functions
      refine ⟨parameters, _, others, _, reading, merged, same, fun b member => ⟨wires b member, (free b member).1⟩, named,
        ?_, grows.subset (List.mem_append_right _ List.mem_cons_self), rfl, read, counted, fun value => ?_⟩
      · rw [named]
        exact method_names_distinct _ others unreserved distinct known
      · obtain ⟨text, printed, filled⟩ := denoted value
        exact ⟨text, printed, filled, fun other again => filled_once _ value _ text other filled again⟩

def rated : Document.Entry :=
  let inPath (name : String) : ParameterEntry := .inline { name, location := "path" }
  { path := "/rates/100%/\x7bitem_id\x7d\x7bkind*\x7d%v/\x7bctx\x7d\x7d"
    item := { parameters := [inPath "ctx"] }
    method := .get
    operation := {
      parameters := [inPath "itemId", inPath "kind", inPath "Item-ID*"]
      responses := [("200", { content := [("application/json", some { type := some (.single "string") })] })] } }

theorem rated_path_denotes_template :
    ∃ operation after,
      (compileOperation {} [] rated).result { package := "models" } = (.ok (.emitted operation), after) ∧
      ∃ parameters bound others call reading,
        mergedParameters {} rated.item rated.operation = .ok parameters ∧
        bound.map BoundParameter.parameter = parameters.filter (·.location = "path") ∧
        (∀ b ∈ bound, b.wire = String.ofList (withoutStars b.parameter.name.toList) ∧ ¬ Naming.Reserved b.ident) ∧
        operation.signature.parameters.map Variable.name = "ctx" :: (bound.map BoundParameter.ident ++ others) ∧
        (operation.signature.parameters.map Variable.name).Nodup ∧
        operation.signature ∈ after.functions ∧ operation.signature.body = .call call ∧
        PathReading.ofText (ClientCall.renderPath call.path).toList = some reading ∧
        reading.verbs = reading.arguments.length ∧
        ∀ value, ∃ text, reading.denotes value = some text ∧ Filled bound value rated.path.toList text ∧
          ∀ other, Filled bound value rated.path.toList other → other = text := by
  have emits : ((compileOperation {} [] rated).result { package := "models" }).1.toOption.any
      (·.emitted?.isSome) = true := by decide +kernel
  cases outcome : (compileOperation {} [] rated).result { package := "models" } with
  | mk result after =>
      rw [outcome] at emits
      obtain ⟨made, rfl, present⟩ := ok_holds result _ emits
      cases made with
      | skipped => cases present
      | emitted operation =>
          exact ⟨operation, after, rfl, method_path_denotes_template {} [] rated _ after operation outcome⟩

end ApiBindings
