import ApiBindings.Proofs.Documentation.Entry
import ApiBindings.Proofs.Documentation.Finder
import ApiBindings.Proofs.Shape.Classify
import ApiBindings.Proofs.Documentation.Rendering
import ApiBindings.Proofs.Operation.Growth
set_option autoImplicit false

namespace ApiBindings

section

variable {loose : Prop} {first second : Components} {roots others : List Schema}
  (paired : Paired loose first second roots others)
include paired

theorem payload_lockstep (operation role : String) (s t : Schema) (partners : Partners roots others s t) :
    Build.Lockstep loose [] Eq (payload first operation role s) (payload second operation role t) := by
  unfold payload
  rw [s.agrees_bare_reference t partners.agree, s.agrees_array_of_reference t partners.agree]
  split
  next path _ =>
    rw [first.agrees_type_name second paired.agree path, first.agrees_is_object_ref second paired.agree s t partners.agree]
    refine Build.lockstep_bind _ _ _ _ (Build.lockstep_check _ _ _ (results_same _)) fun name _ same => ?_
    refine Build.lockstep_bind _ _ _ _ (Build.lockstep_check _ _ _ (results_same _)) fun isObject _ kind => ?_
    exact Build.lockstep_pure _ _ (by rw [same, kind])
  next =>
    split
    next path _ =>
      rw [first.agrees_type_name second paired.agree path]
      refine Build.lockstep_bind _ _ _ _ (Build.lockstep_check _ _ _ (results_same _)) fun name _ same => ?_
      exact Build.lockstep_pure _ _ (by rw [same])
    next =>
      refine Build.lockstep_claim _ _ _ fun name => ?_
      refine Build.lockstep_then _ _ _ _ (render_lockstep paired name s t partners) fun _ _ _ => ?_
      refine fun a b => Build.lockstep_get _ _ a b fun agree => ?_
      exact Build.lockstep_pure _ _ (by rw [SourceUnit.agrees_record a b agree name]) a b

theorem body_payload_lockstep (operation : String) (x y : Option Schema) (partners : Option.Rel (Partners roots others) x y) :
    Build.Lockstep loose [] Eq (bodyPayload first operation x) (bodyPayload second operation y) := by
  cases partners with
  | none => exact Build.lockstep_pure _ _ rfl
  | some both =>
      exact Build.lockstep_map _ _ _ _ (payload_lockstep paired operation "Request" _ _ both) fun _ _ => congrArg some

theorem path_variables_lockstep (operation : String) (bound held : List BoundParameter)
    (partners : List.Forall₂ (BoundPartners roots others) bound held) :
    Build.Lockstep loose [] Eq (pathVariables first operation bound) (pathVariables second operation held) := by
  induction partners with
  | nil => exact Build.lockstep_pure _ _ rfl
  | @cons b c _ _ head _ ih =>
      unfold pathVariables
      have later (type : TypeExpr) := Build.lockstep_map ({ name := b.ident, type } :: ·) ({ name := b.ident, type } :: ·)
        _ _ ih fun _ _ same => congrArg (List.cons { name := b.ident, type : Variable }) same
      rw [← head.wire, ← head.ident]
      rcases option_cases _ _ head.parameter.schema with ⟨none, other⟩ | ⟨s, t, given, kept, both⟩
      · rw [none, other]
        exact Build.lockstep_bind _ _ _ _ (Build.lockstep_pure _ _ rfl) fun type _ same => same ▸ later type
      · rw [given, kept]
        exact Build.lockstep_bind _ _ _ _ (value_type_lockstep paired _ s t both) fun type _ same => same ▸ later type

theorem push_constructors_lockstep (operation option : String) (names : Names) (query asked : List Parameter)
    (partners : List.Forall₂ (ParameterPartners roots others) query asked) :
    Build.Lockstep loose [] (fun _ _ => True) (pushConstructors first operation option names query)
      (pushConstructors second operation option names asked) := by
  induction partners generalizing names with
  | nil => exact Build.lockstep_pure _ _ trivial
  | @cons p q _ _ head _ ih =>
      unfold pushConstructors
      dsimp only
      rw [← head.name]
      have pushed (type : TypeExpr) : Build.Lockstep loose [] (fun _ _ => True)
          (Build.push (optionConstructor operation option (names.claim (Naming.exported p.name)).1 p type))
          (Build.push (optionConstructor operation option (names.claim (Naming.exported p.name)).1 q type)) :=
        Build.lockstep_push _ _ (by simp only [optionConstructor, Function.undocumented, head.name])
      have later (type : TypeExpr) := Build.lockstep_bind _ _ _ _ (pushed type)
        fun _ _ _ => ih (names.claim (Naming.exported p.name)).2
      rcases option_cases _ _ head.schema with ⟨none, other⟩ | ⟨s, t, given, kept, both⟩
      · rw [none, other]
        exact Build.lockstep_bind _ _ _ _ (Build.lockstep_pure _ _ rfl) fun type _ same => same ▸ later type
      · rw [given, kept]
        exact Build.lockstep_bind _ _ _ _ (value_type_lockstep paired _ s t both) fun type _ same => same ▸ later type

theorem declare_options_lockstep (operation : String) (query asked : List Parameter) (option : Option String)
    (partners : List.Forall₂ (ParameterPartners roots others) query asked) :
    Build.Lockstep loose option.toList (fun _ _ => True) (declareOptionsOf first operation query option)
      (declareOptionsOf second operation asked option) := by
  cases option with
  | none => exact Build.lockstep_pure _ _ trivial
  | some option =>
      have declared : Build.Lockstep loose [option] (fun _ _ => True)
          (Build.declare (optionDeclaration operation option)) (Build.declare (optionDeclaration operation option)) :=
        Build.lockstep_declare (optionDeclaration operation option) (optionDeclaration operation option) ⟨rfl, .same _⟩
          fun _ record => by cases record
      exact Build.lockstep_then _ _ _ _ declared fun _ _ _ =>
        push_constructors_lockstep paired operation option {} _ _ partners

end

theorem not_found_untagged : ¬ notFoundDeclaration.shape.Tagged := fun tagged =>
  Bool.false_ne_true (tagged _ rfl _ List.mem_cons_self)

theorem not_found_lockstep (loose : Prop) : Build.Lockstep loose [] (fun _ _ => True) declareNotFound declareNotFound := by
  refine fun a b => Build.lockstep_get _ _ a b fun agree => ?_
  rcases SourceUnit.agrees_find a b agree notFoundName with ⟨none, other⟩ | ⟨d, e, found, other, _⟩
  · rw [none, other]
    exact Build.lockstep_bind_from _ _ _ _ a b (Build.lockstep_append notFoundDeclaration not_found_untagged a b none)
      fun _ _ c d _ _ _ => Build.lockstep_push _ _ rfl c d
  · rw [found, other]
    exact Build.lockstep_pure _ _ trivial a b

theorem client_method_same (e f : Document.Entry) (path : PathExpr) (inPath : List Variable) (body : Option Payload)
    (option : Option String) (response : Payload) (name : e.name = f.name) (method : e.method = f.method) :
    (clientMethod e path inPath body option response).undocumented =
      (clientMethod f path inPath body option response).undocumented := by
  simp only [clientMethod, Function.undocumented, name, method]

theorem finder_lockstep (loose : Prop) (first second : Components) (operation responseName : String) (s t : Schema)
    (a b : SourceUnit)
    (planned : ∀ d e fields others, a.find? responseName = some d → b.find? responseName = some e → d.Agrees loose e →
      d.shape = .record fields → e.shape = .record others →
      planFinder first fields responseName s = planFinder second others responseName t) :
    Build.LockstepFrom loose [] (fun _ _ => True) (declareFinder first operation responseName s)
      (declareFinder second operation responseName t) a b := by
  unfold declareFinder
  split
  · exact Build.lockstep_pure _ _ trivial a b
  refine Build.lockstep_get _ _ a b fun agree => ?_
  rcases SourceUnit.agrees_find a b agree responseName with ⟨none, other⟩ | ⟨d, e, found, other, own⟩
  · rw [none, other]
    exact Build.lockstep_pure _ _ trivial a b
  obtain ⟨name, doc, shape⟩ := d
  obtain ⟨known, text, kind⟩ := e
  have plan (fields others : List Field) := planned _ _ fields others found other own
  have shapes : shape.Agrees loose kind := own.shape
  rw [found, other]
  have records : (∃ fields others, shape = .record fields ∧ kind = .record others) ∨
      shape = kind ∧ shape.isRecord = false := by
    cases shapes with
    | record => exact Or.inl ⟨_, _, rfl, rfl⟩
    | same =>
        cases shape with
        | record fields => exact Or.inl ⟨fields, fields, rfl, rfl⟩
        | _ => exact Or.inr ⟨rfl, rfl⟩
  rcases records with ⟨fields, others, rfl, rfl⟩ | ⟨rfl, plain⟩
  · dsimp only
    rw [plan fields others rfl rfl]
    split
    · exact Build.lockstep_throw _ a b
    · exact Build.lockstep_pure _ _ trivial a b
    · exact Build.lockstep_bind _ _ _ _ (not_found_lockstep loose) (fun _ _ _ => Build.lockstep_push _ _ rfl) a b
  · cases shape with
    | record => cases plain
    | _ => exact Build.lockstep_pure _ _ trivial a b

def CompiledOperation.undocumented (operation : CompiledOperation) : CompiledOperation :=
  { operation with signature := operation.signature.undocumented }

def Outcome.undocumented : Outcome → Outcome
  | .emitted operation => .emitted operation.undocumented
  | .skipped operation => .skipped operation

theorem response_lists_plain (components : Components) (operation name : String) (s : Schema) (response : Payload)
    (before middle after : SourceUnit) (d : Declaration) (fields : List Field)
    (typed : PayloadTyped components operation "Response" s before response middle)
    (declared : response.declared = some name) (grows : middle.declarations <+: after.declarations)
    (found : after.find? name = some d) (record : d.shape = .record fields) (target : Schema)
    (properties : List (String × Schema)) (wire : String) (items : Schema) (stripped : s.effective = .ok target)
    (held : target.properties = some properties) (keyed : (properties.map Prod.fst).Nodup)
    (single : listProperties components properties = .ok [(wire, items)]) (field : Field) (member : field ∈ fields)
    (tagged : field.tag.map (·.wire) = some wire) (pointed : TypeExpr) : field.type ≠ .pointer pointed := by
  cases typed with
  | component | list => cases declared
  | declared _ _ _ rendered =>
      obtain rfl := Option.some.inj declared
      cases rendered with
      | @declaration _ _ _ _ shape _ _ _ bare shaped stored =>
          obtain rfl := Except.ok.inj (stripped.symm.trans bare)
          obtain ⟨e, present, alike⟩ := SourceUnit.declare_find _ _ _ stored
          obtain rfl := Option.some.inj (found.symm.trans (grows.find?_eq_some present))
          obtain rfl : shape = .record fields := (DeclarationShape.alike_iff _ _ _ alike (by simp)).mp record
          obtain ⟨_, own, classified, compiled⟩ := record_object components _ _ target fields _ _ shaped
          obtain rfl := Schema.object_properties target own properties classified held
          obtain ⟨property, listed, array⟩ := list_property components properties _ wire items single List.mem_cons_self
          exact list_field_plain components _ _ target properties fields _ _ compiled keyed wire property items listed
            array field member tagged pointed

theorem claim_option_lockstep {γ δ : Type} {W : γ → δ → Prop} (loose : Prop) (operation : String)
    (query asked : List Parameter) (same : query.isEmpty = asked.isEmpty) (f : Option String → Build γ)
    (g : Option String → Build δ) (next : ∀ option, Build.Lockstep loose option.toList W (f option) (g option)) :
    Build.Lockstep loose [] W (claimOption operation query >>= f) (claimOption operation asked >>= g) := by
  unfold claimOption
  rw [same]
  split
  · rw [pure_bind, pure_bind]
    exact next none
  · rw [bind_map_left, bind_map_left]
    exact Build.lockstep_claim _ _ _ fun name => next (some name)

section

variable {loose : Prop} {first second : Components} {roots others : List Schema}
  (paired : Paired loose first second roots others)
include paired

-- The property names of the response are distinct, so a tag leads to the field of its property.
theorem response_plans_same (operation name : String) (s t : Schema) (partners : Partners roots others s t)
    (response : Payload) (before start middle next after last : SourceUnit)
    (typed : PayloadTyped first operation "Response" s before response middle)
    (other : PayloadTyped second operation "Response" t start response next) (declared : response.declared = some name)
    (grows : middle.declarations <+: after.declarations) (widens : next.declarations <+: last.declarations)
    (keyed : ∀ target properties, s.effective = .ok target → target.properties = some properties →
      (properties.map Prod.fst).Nodup)
    (d e : Declaration) (fields kept : List Field) (found : after.find? name = some d) (stored : last.find? name = some e)
    (own : d.Agrees loose e) (record : d.shape = .record fields) (again : e.shape = .record kept) :
    planFinder first fields name s = planFinder second kept name t := by
  refine plan_finder_same paired.agree s t partners.agree name fields kept ?_
  intro target properties wire items stripped held single
  have shapes := own.shape
  rw [record, again] at shapes
  have search := find_related (fun field => field.tag.map (·.wire) == some wire)
    (fun field => field.tag.map (·.wire) == some wire) (fun a b same => by rw [same.tag]) _ _
    (record_fields_agree fields kept shapes)
  rcases option_cases _ _ search with ⟨none, absent⟩ | ⟨a, b, left, right, same⟩
  · rw [none, absent]
    exact .none
  rw [left, right]
  have distinct := keyed target properties stripped held
  refine .some ⟨same.name, plain_types_same loose a b same ?_ ?_⟩
  · exact response_lists_plain first operation name s response before middle after d fields typed declared grows found
      record target properties wire items stripped held distinct single a (List.mem_of_find?_eq_some left)
      (by simpa using List.find?_some left)
  rcases results_cases _ _ (s.agrees_effective t partners.agree) with ⟨_, failed, _⟩ | ⟨_, v, bare, plain, inner⟩
  · rw [stripped] at failed
    cases failed
  obtain rfl := Except.ok.inj (stripped.symm.trans bare)
  rcases target.agrees_named v inner with ⟨none, _⟩ | ⟨_, beside, both, holds, entries⟩
  · rw [held] at none
    cases none
  obtain rfl := Option.some.inj (held.symm.trans both)
  have lists := list_properties_agree paired.agree properties beside entries
  rw [single] at lists
  rcases results_cases _ _ lists with ⟨_, failed, _⟩ | ⟨_, listed, same, alone, lists⟩
  · cases failed
  obtain rfl := Except.ok.inj same
  obtain ⟨_, _, head, tail, rfl⟩ := List.forall₂_cons_left_iff.mp lists
  obtain rfl := List.forall₂_nil_left_iff.mp tail
  obtain ⟨_, _, parts, same, rfl, _⟩ := entry_cases _ _ _ head
  obtain ⟨rfl, rfl⟩ := Prod.mk.inj same
  exact response_lists_plain second operation name t response start next last e kept other declared widens stored again v
    beside wire parts plain holds (entries_names _ _ _ entries ▸ distinct) alone b (List.mem_of_find?_eq_some right)
    (by simpa using List.find?_some right)

theorem response_finder_lockstep (operation : String) (s t : Schema) (partners : Partners roots others s t)
    (response : Payload) (before start middle next after last : SourceUnit)
    (answered : (payload first operation "Response" s).result before = (.ok response, middle))
    (replied : (payload second operation "Response" t).result start = (.ok response, next))
    (grows : middle.declarations <+: after.declarations) (widens : next.declarations <+: last.declarations)
    (keyed : ∀ target properties, s.effective = .ok target → target.properties = some properties →
      (properties.map Prod.fst).Nodup) :
    Build.LockstepFrom loose [] (fun _ _ => True) (declareFinderOf first operation response s)
      (declareFinderOf second operation response t) after last := by
  unfold declareFinderOf
  split
  next declared known =>
    split
    next =>
      have typed := payload_typed first operation "Response" s before middle response answered
      have other := payload_typed second operation "Response" t start next response replied
      exact finder_lockstep loose first second operation declared s t after last
        (response_plans_same paired operation declared s t partners response before start middle next after last typed other
          known grows widens keyed)
    next => exact Build.lockstep_pure _ _ trivial after last
  next => exact Build.lockstep_pure _ _ trivial after last

theorem compile_operation_lockstep (earlier : List String) (e f : Document.Entry)
    (partners : EntryPartners first second roots others e f)
    (keyed : ∀ s target properties, e.operation.responseSchema = some s → s.effective = .ok target →
      target.properties = some properties → (properties.map Prod.fst).Nodup) :
    Build.Lockstep loose [] (fun o p => o.undocumented = p.undocumented) (compileOperation first earlier e)
      (compileOperation second earlier f) := by
  have name := partners.name
  have path := partners.path
  have method := partners.method
  unfold compileOperation
  dsimp only
  rw [← name, ← path, ← method]
  split
  · exact Build.lockstep_throw _
  rcases option_cases _ _ partners.response with ⟨none, missing⟩ | ⟨s, t, given, kept, both⟩
  · rw [none, missing]
    exact Build.lockstep_pure _ _ rfl
  rw [given, kept]
  refine Build.lockstep_bind _ _ _ _ (Build.lockstep_check _ _ _ partners.merged) fun parameters asked related => ?_
  have bound := bound_partners {} parameters asked related
  refine Build.lockstep_bind _ _ _ _ (path_variables_lockstep paired _ _ _ bound) fun inPath _ same => ?_
  subst same
  refine Build.lockstep_bind _ _ _ _ (body_payload_lockstep paired _ _ _ partners.body) fun body _ same => ?_
  subst same
  have located (p q : Parameter) (one : ParameterPartners roots others p q) :
      decide (p.location = "query") ↔ decide (q.location = "query") := by rw [one.location]
  have query := List.rel_filter located related
  have empty : (parameters.filter (·.location = "query")).isEmpty = (asked.filter (·.location = "query")).isEmpty := by
    rw [Bool.eq_iff_iff, List.isEmpty_iff_length_eq_zero, List.isEmpty_iff_length_eq_zero, query.length_eq]
  refine claim_option_lockstep loose _ _ _ empty _ _ fun option a b => ?_
  refine Build.lockstep_bind_from _ _ _ _ a b (payload_lockstep paired _ "Response" s t both a b)
    fun response _ c d answered replied same => ?_
  subst same
  rw [path_bound_alike _ _ _ bound]
  cases PathExpr.ofTemplate e.path (bindPathParameters {} asked) with
  | error cause => exact Build.lockstep_throw _ c d
  | ok template =>
      have signature := client_method_same e f template inPath body option response name method
      refine Build.lockstep_bind_from _ _ _ _ c d (Build.lockstep_push _ _ signature c d) fun _ _ _ _ pushed sent _ => ?_
      obtain rfl := Build.push_ok _ _ _ pushed
      obtain rfl := Build.push_ok _ _ _ sent
      refine Build.lockstep_then_from _ _ _ _ _ _ (declare_options_lockstep paired _ _ _ option query _ _)
        fun _ _ after last options choices _ => ?_
      have grows := options_declared_grows first _ _ _ _ _ (declare_options_declared _ _ _ _ _ _ options)
      have widens := options_declared_grows second _ _ _ _ _ (declare_options_declared _ _ _ _ _ _ choices)
      have finder := response_finder_lockstep paired e.name s t both response a b c d after last answered replied
        grows.declarations widens.declarations fun target properties => keyed s target properties given
      refine Build.lockstep_bind_from _ _ _ _ after last finder fun _ _ x y _ _ _ => Build.lockstep_pure _ _ ?_ x y
      exact congrArg (fun signature => Outcome.emitted ⟨e.method, e.path, signature⟩) signature

end

end ApiBindings
