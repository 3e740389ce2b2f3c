import ApiBindings.Proofs.Layout.Reads
import ApiBindings.Proofs.Naming.Word
set_option autoImplicit false

namespace ApiBindings

namespace Scanner

-- What stands before the next character of code: nothing that matters to it, a
-- point, or a word with its last letter first. Behind the points of an ellipsis a
-- word is no selector.
inductive Cursor where
  | gap
  | point (ellipsis : Bool)
  | word (letters : List Char) (selector : Bool)
deriving DecidableEq, Repr

namespace Cursor

def step (cursor : Cursor) (c : Char) : Cursor :=
  if Naming.isWordChar c then
    match cursor with
    | .gap => .word [c] false
    | .point ellipsis => .word [c] !ellipsis
    | .word letters selector => .word (c :: letters) selector
  else if c = '.' then
    match cursor with
    | .point _ => .point true
    | .gap | .word .. => .point false
  else .gap

def isWord : Cursor → Bool
  | .word .. => true
  | _ => false

def selects : Cursor → Bool
  | .point ellipsis => !ellipsis
  | _ => false

def opened : Cursor → List (List Char)
  | .word letters false => [letters.reverse]
  | _ => []

theorem opened_between (cursor : Cursor) (between : cursor.isWord = false) : cursor.opened = [] := by
  cases cursor with
  | gap | point => rfl
  | word => cases between

end Cursor

inductive State where
  | code (cursor : Cursor)
  | slash
  | lineComment
  | blockComment (star : Bool)
  | literal (quote : Char) (escaped : Bool)
deriving DecidableEq, Repr

def isQuote (c : Char) : Bool := c = '"' || c = '\x60' || c = '\''

def codeStep (cursor : Cursor) (c : Char) : State :=
  if c = '/' then .slash else if isQuote c then .literal c false else .code (cursor.step c)

def State.step : State → Char → State
  | .code cursor, c => codeStep cursor c
  | .slash, c => if c = '/' then .lineComment else if c = '*' then .blockComment false else codeStep .gap c
  | .lineComment, c => if c = '\n' then .code .gap else .lineComment
  | .blockComment star, c => if star && c = '/' then .code .gap else .blockComment (c = '*')
  | .literal quote escaped, c =>
    if escaped then .literal quote false
    else if c = quote then .code .gap
    else .literal quote (c = '\\' && quote ≠ '\x60')

end Scanner

structure Scanner where
  pointed : Scanner.Cursor → List (List Char)
  ended : Scanner.Cursor → List (List Char)
  idle : ∀ cursor : Scanner.Cursor, cursor.isWord = false → ended cursor = []

namespace Scanner

variable (scanner : Scanner)

def taken (cursor : Cursor) (c : Char) : List (List Char) :=
  if Naming.isWordChar c then [] else if c = '.' then scanner.pointed cursor else scanner.ended cursor

def takenIn (state : State) (c : Char) : List (List Char) :=
  match state with
  | .code cursor => scanner.taken cursor c
  | _ => []

def scan (state : State) : List Char → State × List (List Char)
  | [] => (state, [])
  | c :: rest => ((scan (state.step c) rest).1, scanner.takenIn state c ++ (scan (state.step c) rest).2)

theorem scan_append (state : State) (first last : List Char) :
    scanner.scan state (first ++ last) =
      ((scanner.scan (scanner.scan state first).1 last).1,
        (scanner.scan state first).2 ++ (scanner.scan (scanner.scan state first).1 last).2) := by
  induction first generalizing state with
  | nil => rfl
  | cons c rest ih => simp only [List.cons_append, scan, ih, List.append_assoc]

theorem taken_apart (cursor : Cursor) (c : Char) (apart : (Naming.isWordChar c || c = '.') = false) :
    scanner.taken cursor c = scanner.ended cursor := by
  rw [Bool.or_eq_false_iff, decide_eq_false_iff_not] at apart
  rw [taken, apart.1, if_neg Bool.false_ne_true, if_neg apart.2]

theorem scan_literal_part (quote : Char) (text : List Char)
    (inside : ∀ c ∈ text, c ≠ quote ∧ (quote = '\x60' ∨ c ≠ '\\')) :
    scanner.scan (.literal quote false) text = (.literal quote false, []) := by
  induction text with
  | nil => rfl
  | cons c rest ih =>
      obtain ⟨other, plain⟩ := inside c List.mem_cons_self
      have stays : State.step (.literal quote false) c = .literal quote false := by
        rcases plain with rfl | backslash
        · simp [State.step, other]
        · simp [State.step, other, backslash]
      rw [scan, stays, ih fun d member => inside d (List.mem_cons_of_mem _ member)]
      rfl

theorem scan_literal_char (c : Char) :
    scanner.scan (.literal '"' false) (Text.literalChar c) = (.literal '"' false, []) := by
  obtain ⟨escape, plain, parts, escaped, inside⟩ := Layout.literal_char_parts c
  have rest := scanner.scan_literal_part '"' plain fun d member => ⟨(inside d member).2.1, Or.inr (inside d member).1⟩
  rw [parts, scan_append]
  rcases escaped with rfl | ⟨d, _, rfl⟩
  · simp [scan, rest]
  · simp [scan, State.step, takenIn, rest]

theorem scan_quote (cursor : Cursor) (quote : Char) (rest : List Char) (opens : isQuote quote = true) :
    scanner.scan (.code cursor) (quote :: rest) =
      ((scanner.scan (.literal quote false) rest).1,
        scanner.ended cursor ++ (scanner.scan (.literal quote false) rest).2) := by
  have apart : quote ≠ '/' ∧ (Naming.isWordChar quote || quote = '.') = false := by
    simp only [isQuote, Bool.or_eq_true, decide_eq_true_eq] at opens
    rcases opens with (rfl | rfl) | rfl <;> decide
  have step : State.step (.code cursor) quote = .literal quote false := by simp [State.step, codeStep, apart.1, opens]
  rw [scan, step, takenIn, scanner.taken_apart cursor quote apart.2]

theorem scan_literal (cursor : Cursor) (text : List Char) :
    scanner.scan (.code cursor) (Text.literal text) = (.code .gap, scanner.ended cursor) := by
  have inside : scanner.scan (.literal '"' false) (text.flatMap Text.literalChar) = (.literal '"' false, []) := by
    induction text with
    | nil => rfl
    | cons c others ih =>
        rw [List.flatMap_cons, scan_append, scan_literal_char, ih]
        rfl
  rw [Text.literal, List.cons_append, scan_quote scanner cursor '"' _ rfl, scan_append, inside]
  simp [scan, State.step, takenIn]

theorem scan_raw (cursor : Cursor) (text : List Char) (closed : ∀ c ∈ text, c ≠ '\x60') :
    scanner.scan (.code cursor) ('\x60' :: text ++ ['\x60']) = (.code .gap, scanner.ended cursor) := by
  have inside := scanner.scan_literal_part '\x60' text fun c member => ⟨closed c member, Or.inl rfl⟩
  rw [List.cons_append, scan_quote scanner cursor '\x60' _ rfl, scan_append, inside]
  simp [scan, State.step, takenIn]

theorem taken_gap (c : Char) (apart : (Naming.isWordChar c || c = '.') = false) : scanner.taken .gap c = [] := by
  rw [scanner.taken_apart .gap c apart, scanner.idle .gap rfl]

theorem scan_comment (indent text : List Char) (tabs : ∀ c ∈ indent, c = '\t') (feedless : '\n' ∉ text) :
    scanner.scan (.code .gap) (indent ++ '/' :: '/' :: text ++ ['\n']) = (.code .gap, []) := by
  have inside : scanner.scan .lineComment text = (.lineComment, []) := by
    induction text with
    | nil => rfl
    | cons c rest ih =>
        rw [List.mem_cons, not_or] at feedless
        simp [scan, State.step, takenIn, Ne.symm feedless.1, ih feedless.2]
  have indented : scanner.scan (.code .gap) indent = (.code .gap, []) := by
    induction indent with
    | nil => rfl
    | cons c rest ih =>
        obtain rfl := tabs c List.mem_cons_self
        have stays : State.step (.code .gap) '\t' = .code .gap := by decide
        rw [scan, stays, ih fun d member => tabs d (List.mem_cons_of_mem _ member), takenIn,
          scanner.taken_gap '\t' (by decide)]
        rfl
  have slash : State.step (.code .gap) '/' = .slash := rfl
  have commented : State.step .slash '/' = .lineComment := rfl
  rw [List.append_assoc, scan_append, indented, List.cons_append, List.cons_append, scan, scan, slash, commented, scan_append,
    inside, takenIn, scanner.taken_gap '/' (by decide)]
  rfl

theorem code_char_step (cursor : Cursor) (c : Char) (kind : (Naming.isWordChar c || c = '.') = true) :
    State.step (.code cursor) c = .code (cursor.step c) := by
  have others : ∀ other ∈ ['/', '"', '\x60', '\''], c ≠ other := by
    rintro other member rfl
    have none : ['/', '"', '\x60', '\''].all (fun d => !(Naming.isWordChar d || d = '.')) = true := by decide
    have free := List.all_eq_true.mp none c member
    rw [kind] at free
    exact Bool.noConfusion free
  have quote : isQuote c = false := by
    simpa [isQuote, and_assoc] using fun d member => others d (List.mem_cons_of_mem _ member)
  simp [State.step, codeStep, others '/' List.mem_cons_self, quote]

theorem scan_word_char (cursor : Cursor) (c : Char) (rest : List Char) (inWord : Naming.isWordChar c = true) :
    scanner.scan (.code cursor) (c :: rest) = scanner.scan (.code (cursor.step c)) rest := by
  rw [scan, code_char_step cursor c (by rw [inWord, Bool.true_or]), takenIn, taken, if_pos inWord]
  rfl

theorem scan_letters (open' letters : List Char) (selector : Bool) (inWord : ∀ c ∈ letters, Naming.isWordChar c = true) :
    scanner.scan (.code (.word open' selector)) letters = (.code (.word (letters.reverse ++ open') selector), []) := by
  induction letters generalizing open' with
  | nil => rfl
  | cons c rest ih =>
      have own := inWord c List.mem_cons_self
      have later := ih (c :: open') fun d member => inWord d (List.mem_cons_of_mem _ member)
      have more : Cursor.step (.word open' selector) c = .word (c :: open') selector := if_pos own
      rw [scan_word_char scanner _ c rest own, more, later, List.reverse_cons, List.append_assoc]
      rfl

theorem scan_word (cursor : Cursor) (name : String) (word : Naming.Word name) (between : cursor.isWord = false) :
    scanner.scan (.code cursor) name.toList = (.code (.word name.toList.reverse cursor.selects), []) := by
  have nonempty : name.toList ≠ [] := fun empty => word.nonempty (String.toList_eq_nil_iff.mp empty)
  have chars : ∀ c ∈ name.toList, Naming.isWordChar c = true := word.chars
  cases spelled : name.toList with
  | nil => exact absurd spelled nonempty
  | cons c rest =>
      rw [spelled] at chars
      have own := chars c List.mem_cons_self
      have first : cursor.step c = .word [c] cursor.selects := by
        cases cursor with
        | gap | point => exact if_pos own
        | word => cases between
      rw [scan_word_char scanner cursor c rest own, first, scanner.scan_letters [c] rest _ fun d member =>
        chars d (List.mem_cons_of_mem _ member), List.reverse_cons]

theorem scan_apart (cursor : Cursor) (c : Char) (rest : List Char) (apart : (Naming.isWordChar c || c = '.') = false) :
    scanner.scan (.code cursor) (c :: rest) =
      ((scanner.scan (.code .gap) (c :: rest)).1,
        scanner.ended cursor ++ (scanner.scan (.code .gap) (c :: rest)).2) := by
  have step : State.step (.code cursor) c = State.step (.code .gap) c := by
    rw [Bool.or_eq_false_iff, decide_eq_false_iff_not] at apart
    simp [State.step, codeStep, Cursor.step, apart]
  rw [scan, scan, step, takenIn, takenIn, scanner.taken_apart cursor c apart, scanner.taken_gap c apart, List.nil_append]

-- Where a piece of code ends: at a known cursor, or anywhere, so that what follows
-- has to set itself apart.
inductive Stop where
  | gap
  | ellipsis
  | point
  | any
deriving DecidableEq, Repr

namespace Stop

def cursor? : Stop → Option Cursor
  | .gap => some .gap
  | .ellipsis => some (.point true)
  | .point => some (.point false)
  | .any => none

def Fits (stop : Stop) (cursor : Cursor) : Prop := ∀ known ∈ stop.cursor?, cursor = known

def of : Cursor → Stop
  | .gap => .gap
  | .point true => .ellipsis
  | .point false => .point
  | .word .. => .any

end Stop

theorem stop_of_fits (cursor : Cursor) : (Stop.of cursor).Fits cursor := by
  intro known member
  cases cursor with
  | gap => exact Option.some.inj member
  | point ellipsis => cases ellipsis <;> exact Option.some.inj member
  | word => cases member

theorem any_fits (cursor : Cursor) : Stop.any.Fits cursor := fun _ member => (Option.not_mem_none _ member).elim

theorem stop_between (p : Stop) (known : p ≠ .any) (cursor : Cursor) (fits : p.Fits cursor) : cursor.isWord = false := by
  cases p with
  | gap | ellipsis | point => rw [fits _ rfl]; rfl
  | any => exact absurd rfl known

section

variable {α : Type} (finish : Cursor → List (List Char) → α)

def settled : State × List (List Char) → Option (Stop × α)
  | (.code cursor, words) => some (.of cursor, finish cursor words)
  | _ => none

def check (p : Stop) (text : List Char) : Option (Stop × α) :=
  match p.cursor? with
  | some cursor => settled finish (scanner.scan (.code cursor) text)
  | none =>
    match text with
    | c :: rest =>
      if Naming.isWordChar c || c = '.' then none else settled finish (scanner.scan (.code .gap) (c :: rest))
    | [] => none

theorem settled_code (scanned : State × List (List Char)) (q : Stop) (found : α)
    (ended : settled finish scanned = some (q, found)) :
    ∃ next words, q.Fits next ∧ scanned = (.code next, words) ∧ finish next words = found := by
  obtain ⟨state, words⟩ := scanned
  cases state with
  | code cursor =>
      obtain ⟨rfl, rfl⟩ := Prod.mk.inj (Option.some.inj ended)
      exact ⟨cursor, words, stop_of_fits cursor, rfl, rfl⟩
  | slash | lineComment | blockComment | literal => cases ended

theorem check_scanned (p q : Stop) (text : List Char) (found : α) (checked : scanner.check finish p text = some (q, found))
    (cursor : Cursor) (fits : p.Fits cursor) :
    ∃ next words, q.Fits next ∧ scanner.scan (.code cursor) text = (.code next, scanner.ended cursor ++ words) ∧
      finish next words = found := by
  unfold check at checked
  cases start : p.cursor? with
  | some known =>
      have between : cursor.isWord = false := stop_between p (by rintro rfl; cases start) cursor fits
      obtain rfl := fits known start
      rw [start] at checked
      rw [scanner.idle cursor between]
      exact settled_code finish _ q found checked
  | none =>
      rw [start] at checked
      cases text with
      | nil => cases checked
      | cons c rest =>
          dsimp only at checked
          split at checked
          next => cases checked
          next joins =>
            obtain ⟨next, words, stops, scanned, same⟩ := settled_code finish _ q found checked
            rw [scanner.scan_apart cursor c rest (Bool.not_eq_true _ ▸ joins), scanned]
            exact ⟨next, words, stops, rfl, same⟩

end

end Scanner

end ApiBindings
