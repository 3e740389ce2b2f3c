import ApiBindings.Proofs.Number.Numeral
import ApiBindings.Proofs.Unit.Scanner
import ApiBindings.Unit.Printer
set_option autoImplicit false

namespace ApiBindings

open Scanner (Cursor State Stop)

namespace Qualifiers

-- The words before a point that are no selectors themselves.
def scanner : Scanner where
  pointed := Cursor.opened
  ended _ := []
  idle _ _ := rfl

def ofText (text : List Char) : List (List Char) := (scanner.scan (.code .gap) text).2

inductive Named (name : String) : Prop where
  | plain (word : Naming.Word name)
  | qualified (qualifier selector : String) (first : Naming.Word qualifier) (last : Naming.Word selector)
      (whole : name = qualifier ++ "." ++ selector)

theorem scan_qualified (cursor : Cursor) (qualifier selector : String) (first : Naming.Word qualifier)
    (last : Naming.Word selector) (between : cursor.isWord = false) (free : cursor.selects = false) :
    scanner.scan (.code cursor) (qualifier ++ "." ++ selector).toList =
      (.code (.word selector.toList.reverse true), [qualifier.toList]) := by
  have front := scanner.scan_word cursor qualifier first between
  have back := scanner.scan_word (.point false) selector last rfl
  have point : State.step (.code (.word qualifier.toList.reverse false)) '.' = .code (.point false) :=
    Scanner.code_char_step _ '.' (by decide)
  have taken : scanner.takenIn (.code (.word qualifier.toList.reverse false)) '.' = [qualifier.toList] := by
    change [qualifier.toList.reverse.reverse] = [qualifier.toList]
    rw [List.reverse_reverse]
  have split : ".".toList ++ selector.toList = '.' :: selector.toList := rfl
  rw [String.toList_append, String.toList_append, List.append_assoc, Scanner.scan_append, front, free, split, Scanner.scan,
    point, taken, back]
  rfl

def packagesOf (words : List (List Char)) : List Package :=
  words.filterMap fun word => Package.all.find? (·.qualifier.toList = word)

theorem packages_of_append (a b : List (List Char)) : packagesOf (a ++ b) = packagesOf a ++ packagesOf b :=
  List.filterMap_append

end Qualifiers

def Uses (p : Stop) (text : String) (packages : List Package) (q : Stop) : Prop :=
  ∀ cursor, p.Fits cursor → ∃ next words, q.Fits next ∧
    Qualifiers.scanner.scan (.code cursor) text.toList = (.code next, words) ∧ Qualifiers.packagesOf words = packages

namespace Uses

open Qualifiers

variable {p q r : Stop} {first last : String} {used more : List Package}

theorem append (before : Uses p first used q) (after : Uses q last more r) : Uses p (first ++ last) (used ++ more) r := by
  intro cursor fits
  obtain ⟨middle, words, stops, scanned, known⟩ := before cursor fits
  obtain ⟨next, others, ends, later, also⟩ := after middle stops
  refine ⟨next, words ++ others, ends, ?_, ?_⟩
  · rw [String.toList_append, Scanner.scan_append, scanned, later]
  · rw [packages_of_append, known, also]

theorem empty : Uses p "" [] p := fun cursor fits => ⟨cursor, [], fits, rfl, rfl⟩

theorem same (uses : Uses p first used q) (equal : used = more) : Uses p first more q := equal ▸ uses

theorem joined {α : Type} (f : α → String) (packages : α → List Package) (items : List α)
    (each : ∀ item ∈ items, Uses p (f item) (packages item) p) :
    Uses p (String.join (items.map f)) (items.flatMap packages) p := by
  induction items with
  | nil => exact empty
  | cons item others ih =>
      rw [List.map_cons, String.join_cons, List.flatMap_cons]
      exact append (each item List.mem_cons_self) (ih fun other member => each other (List.mem_cons_of_mem _ member))

theorem loosen (uses : Uses p first used q) : Uses p first used .any := by
  intro cursor fits
  obtain ⟨next, words, _, ran, known⟩ := uses cursor fits
  refine ⟨next, words, ?_, ran, known⟩
  intro known member
  cases member

theorem fixed (p : Stop) (text : String) (packages : List Package) (q : Stop)
    (checked : scanner.check (fun _ words => packagesOf words) p text.toList = some (q, packages)) :
    Uses p text packages q := by
  intro cursor fits
  obtain ⟨next, words, stops, scanned, known⟩ := scanner.check_scanned _ p q text.toList packages checked cursor fits
  exact ⟨next, words, stops, scanned, known⟩

theorem quoted (text : String) : Uses p (quoted text) [] .gap := by
  intro cursor _
  refine ⟨.gap, [], fun known member => Option.some.inj member, ?_, rfl⟩
  rw [ApiBindings.quoted, String.toList_ofList]
  exact scanner.scan_literal cursor text.toList

theorem word (name : String) (named : Naming.Word name) (start : ∀ cursor, p.Fits cursor → cursor.isWord = false) :
    Uses p name [] .any := by
  intro cursor fits
  exact ⟨_, [], Scanner.any_fits _,
    scanner.scan_word cursor name named (start cursor fits), rfl⟩

end Uses

end ApiBindings
