import ApiBindings.Document.Decoding
import ApiBindings.Proofs.Data.Decoder
import ApiBindings.Proofs.Data.Json
import ApiBindings.Proofs.Data.Yaml
import ApiBindings.Shape.Basic
set_option autoImplicit false

namespace ApiBindings

open Data (Node Decoder Ordered lookup_mem)
open Data.Decoder (Gives gives_pure gives_failure gives_bind gives_next gives_map gives_either)
open Number (Double of_ratio_valid)

-- Integers have 64 bits, with a sign in an enumeration and without one as a length.
def EnumValue.Machine : EnumValue → Prop
  | .integer n => Data.fitsSigned n = true
  | .double x => x.Valid
  | _ => True

def ExclusiveBound.Machine : ExclusiveBound → Prop
  | .value x => x.Valid
  | .flag _ => True

structure Limits.Machine (limits : Limits) : Prop where
  minimum : ∀ x ∈ limits.minimum, x.Valid
  maximum : ∀ x ∈ limits.maximum, x.Valid
  exclusiveMinimum : ∀ bound ∈ limits.exclusiveMinimum, bound.Machine
  exclusiveMaximum : ∀ bound ∈ limits.exclusiveMaximum, bound.Machine
  minLength : ∀ n ∈ limits.minLength, n < Data.naturalLimit
  maxLength : ∀ n ∈ limits.maxLength, n < Data.naturalLimit
  minItems : ∀ n ∈ limits.minItems, n < Data.naturalLimit
  maxItems : ∀ n ∈ limits.maxItems, n < Data.naturalLimit

structure Schema.Sound (s : Schema) : Prop where
  properties : ∀ own ∈ s.properties, Ordered own
  values : ∀ own ∈ s.enumValues, ∀ value ∈ own, value.Machine
  limits : s.limits.Machine

inductive Schema.Encloses (s : Schema) : Schema → Prop where
  | property {own : List (String × Schema)} {entry : String × Schema} (held : s.properties = some own)
      (member : entry ∈ own) : s.Encloses entry.2
  | items {t : Schema} (held : s.items = some t) : s.Encloses t
  | additional {t : Schema} (held : s.additional = some (.schema t)) : s.Encloses t
  | anyOf {t : Schema} {members : List Schema} (held : s.anyOf = some members) (member : t ∈ members) : s.Encloses t
  | oneOf {t : Schema} {members : List Schema} (held : s.oneOf = some members) (member : t ∈ members) : s.Encloses t
  | allOf {t : Schema} {members : List Schema} (held : s.allOf = some members) (member : t ∈ members) : s.Encloses t

inductive Schema.WellFormed : Schema → Prop where
  | schema {s : Schema} (own : s.Sound) (inner : ∀ t, s.Encloses t → t.WellFormed) : s.WellFormed

inductive Document.Encloses (doc : Document) : Schema → Prop where
  | component {entry : String × Schema} (listed : entry ∈ doc.schemas) : doc.Encloses entry.2
  | shared {components : Components} {entry : String × Parameter} {s : Schema} (given : doc.components = some components)
      (listed : entry ∈ components.parameters) (held : entry.2.schema = some s) : doc.Encloses s
  | common {entry : String × PathItem} {parameter : Parameter} {s : Schema} (listed : entry ∈ doc.paths)
      (own : .inline parameter ∈ entry.2.parameters) (held : parameter.schema = some s) : doc.Encloses s
  | parameter {entry : Document.Entry} {parameter : Parameter} {s : Schema} (listed : entry ∈ doc.entries)
      (own : .inline parameter ∈ entry.operation.parameters) (held : parameter.schema = some s) : doc.Encloses s
  | body {entry : Document.Entry} {body : RequestBody} {content : String × Option Schema} {s : Schema}
      (listed : entry ∈ doc.entries) (given : entry.operation.requestBody = some body) (own : content ∈ body.content)
      (held : content.2 = some s) : doc.Encloses s
  | response {entry : Document.Entry} {response : String × Response} {content : String × Option Schema} {s : Schema}
      (listed : entry ∈ doc.entries) (given : response ∈ entry.operation.responses) (own : content ∈ response.2.content)
      (held : content.2 = some s) : doc.Encloses s
  | inner {s t : Schema} (outer : doc.Encloses s) (inside : s.Encloses t) : doc.Encloses t

structure Document.WellFormed (doc : Document) : Prop where
  paths : Ordered doc.paths
  schemas : Ordered doc.schemas
  sound : ∀ s, doc.Encloses s → s.Sound

theorem nullable_partner_enclosed (s inner : Schema) (wrapped : s.nullablePartner = some inner) : s.Encloses inner := by
  have member (members : List Schema) (union : s.union = some members) (t : Schema) (listed : t ∈ members) :
      s.Encloses t := by
    rcases Option.or_eq_some_iff.mp union with any | ⟨_, one⟩
    · exact .anyOf any listed
    · exact .oneOf one listed
  unfold Schema.nullablePartner at wrapped
  split at wrapped
  next a b union =>
    split at wrapped
    · exact Option.some.inj wrapped ▸ member [a, b] union a List.mem_cons_self
    · split at wrapped
      · exact Option.some.inj wrapped ▸ member [a, b] union b (List.mem_cons_of_mem _ List.mem_cons_self)
      · cases wrapped
  next => cases wrapped

theorem effective_enclosed (doc : Document) (s target : Schema) (held : doc.Encloses s)
    (stripped : s.effective = .ok target) : doc.Encloses target := by
  fun_induction Schema.effective s with
  | case1 s inner wrapped ih => exact ih (.inner held (nullable_partner_enclosed s inner wrapped)) stripped
  | case2 s unwrapped only composed bare ih => exact ih (.inner held (.allOf composed List.mem_cons_self)) stripped
  | case3 | case4 | case5 => cases stripped
  | case6 => exact Except.ok.inj stripped ▸ held

inductive Schema.Mentions (s : Schema) (x : Double) : Prop where
  | minimum (bound : s.limits.minimum = some x)
  | maximum (bound : s.limits.maximum = some x)
  | exclusiveMinimum (bound : s.limits.exclusiveMinimum = some (.value x))
  | exclusiveMaximum (bound : s.limits.exclusiveMaximum = some (.value x))
  | value {own : List EnumValue} (held : s.enumValues = some own) (member : .double x ∈ own)

theorem sound_double_valid (s : Schema) (sound : s.Sound) (x : Double) (mentioned : s.Mentions x) : x.Valid := by
  obtain ⟨_, values, limits⟩ := sound
  cases mentioned with
  | minimum bound => exact limits.minimum x bound
  | maximum bound => exact limits.maximum x bound
  | exclusiveMinimum bound => exact limits.exclusiveMinimum _ bound
  | exclusiveMaximum bound => exact limits.exclusiveMaximum _ bound
  | value held member => exact values _ held _ member

theorem of_atom_machine (atom : Data.Atom) (machine : atom.Machine) : (EnumValue.ofAtom atom).Machine := by
  cases atom with
  | integer n =>
      change (if Data.fitsSigned n then EnumValue.integer n else .double (.ofInt n)).Machine
      split
      next fits => exact fits
      next => exact of_ratio_valid _ _ _
  | double x => exact machine
  | null | flag | text => trivial

theorem enum_value_gives (node : Node) (machine : node.Machine) : Gives EnumValue.Machine (EnumValue.decode node) :=
  gives_map _ _ _ _ (Data.Decoder.atom_gives node machine) of_atom_machine

theorem exclusive_bound_gives (node : Node) (machine : node.Machine) :
    Gives ExclusiveBound.Machine (ExclusiveBound.decode node) := by
  refine gives_bind _ _ _ _ (Data.Decoder.atom_gives node machine) fun atom own => ?_
  cases atom with
  | flag b => exact gives_pure _ _ trivial
  | integer n => exact gives_pure _ _ (of_ratio_valid _ _ _)
  | double x => exact gives_pure _ _ own
  | null | text => exact gives_failure _

theorem limits_gives (f : Decoder.Fields) (machine : f.Machine) : Gives Limits.Machine (Schema.decodeLimits f) := by
  have double (key : String) := f.optional_gives Double.Valid machine _ Data.Decoder.double_gives key
  have bound (key : String) := f.optional_gives ExclusiveBound.Machine machine _ exclusive_bound_gives key
  have natural (key : String) := f.optional_gives (· < Data.naturalLimit) machine _ Data.Decoder.natural_gives key
  unfold Schema.decodeLimits
  refine gives_bind _ _ _ _ (double "minimum") fun _ minimum => ?_
  refine gives_bind _ _ _ _ (double "maximum") fun _ maximum => ?_
  refine gives_bind _ _ _ _ (bound "exclusiveMinimum") fun _ exclusiveMinimum => ?_
  refine gives_bind _ _ _ _ (bound "exclusiveMaximum") fun _ exclusiveMaximum => ?_
  refine gives_bind _ _ _ _ (natural "minLength") fun _ minLength => ?_
  refine gives_bind _ _ _ _ (natural "maxLength") fun _ maxLength => ?_
  refine gives_bind _ _ _ _ (natural "minItems") fun _ minItems => ?_
  refine gives_bind _ _ _ _ (natural "maxItems") fun _ maxItems => ?_
  exact gives_pure _ _ ⟨minimum, maximum, exclusiveMinimum, exclusiveMaximum, minLength, maxLength, minItems, maxItems⟩

theorem other_properties_gives (depth : Nat) (nested : Node → Decoder Schema)
    (each : ∀ node, node.Machine → Gives Schema.WellFormed (nested node)) (node : Node) (machine : node.Machine) :
    Gives (fun other => ∀ t, other = .schema t → t.WellFormed) (Schema.decodeOther depth nested node) := by
  refine gives_bind _ _ _ _ (Data.Decoder.settle_gives depth node machine) fun node own => ?_
  split
  · exact gives_pure _ _ fun t same => by cases same
  · exact gives_map _ _ _ _ (each _ own) fun s held t same => OtherProperties.schema.inj same ▸ held

theorem decode_with_gives (depth : Nat) (member nested : Node → Decoder Schema) (node : Node) (machine : node.Machine)
    (each : ∀ node, node.Machine → Gives Schema.WellFormed (member node))
    (inside : ∀ node, node.Machine → Gives Schema.WellFormed (nested node)) :
    Gives Schema.WellFormed (Schema.decodeWith depth member nested node) := by
  unfold Schema.decodeWith
  refine gives_bind _ _ _ _ (Data.Decoder.fields_gives depth _ node machine) fun f known => ?_
  have members (key : String) := f.optional_gives _ known _ (Data.Decoder.list_gives _ member each (depth - 1)) key
  have enumValues := f.optional_gives _ known _ (Data.Decoder.list_gives _ _ enum_value_gives (depth - 1)) "enum"
  have properties := f.optional_gives _ known _ (Data.Decoder.dictionary_gives _ member each (depth - 1)) "properties"
  have items := f.optional_gives _ known _ inside "items"
  have others := f.optional_gives _ known _ (other_properties_gives (depth - 1) nested inside) "additionalProperties"
  iterate 5 refine gives_next _ _ _ fun _ => ?_
  refine gives_bind _ _ _ _ enumValues fun _ values => gives_bind _ _ _ _ properties fun _ entries => ?_
  refine gives_next _ _ _ fun _ => gives_bind _ _ _ _ items fun _ item => gives_bind _ _ _ _ others fun _ additional => ?_
  refine gives_next _ _ _ fun _ => gives_bind _ _ _ _ (members "anyOf") fun _ any => ?_
  refine gives_bind _ _ _ _ (members "oneOf") fun _ one => gives_bind _ _ _ _ (members "allOf") fun _ all => ?_
  refine gives_bind _ _ _ _ (limits_gives f known) fun _ limits => gives_pure _ _ (.schema ?_ fun t encloses => ?_)
  · exact ⟨fun own held => (entries own held).1, values, limits⟩
  · cases encloses with
    | property held listed => exact (entries _ held).2 _ listed
    | items held => exact item t held
    | additional held => exact additional _ held t rfl
    | anyOf held listed => exact any _ held t listed
    | oneOf held listed => exact one _ held t listed
    | allOf held listed => exact all _ held t listed

theorem schema_gives (depth : Nat) (node : Node) (machine : node.Machine) :
    Gives Schema.WellFormed (Schema.decode depth node) := by
  have refused (node : Node) (_ : node.Machine) : Gives Schema.WellFormed (failure : Decoder Schema) := gives_failure _
  induction depth using Schema.decode.induct generalizing node with
  | case1 => exact decode_with_gives 0 _ _ node machine refused refused
  | case2 ih => exact decode_with_gives 1 _ _ node machine refused ih
  | case3 depth ih later => exact decode_with_gives (depth + 2) _ _ node machine ih later

def Content.WellFormed (content : Content) : Prop := ∀ entry ∈ content, ∀ s ∈ entry.2, s.WellFormed

def Parameter.WellFormed (parameter : Parameter) : Prop := ∀ s ∈ parameter.schema, s.WellFormed

def ParameterEntry.WellFormed (entry : ParameterEntry) : Prop := ∀ parameter, entry = .inline parameter → parameter.WellFormed

structure Operation.WellFormed (operation : Operation) : Prop where
  parameters : ∀ entry ∈ operation.parameters, entry.WellFormed
  body : ∀ body ∈ operation.requestBody, body.content.WellFormed
  responses : ∀ entry ∈ operation.responses, entry.2.content.WellFormed

structure PathItem.WellFormed (item : PathItem) : Prop where
  operations : ∀ entry ∈ item.operations, entry.2.WellFormed
  parameters : ∀ entry ∈ item.parameters, entry.WellFormed

structure Components.WellFormed (components : Components) : Prop where
  ordered : Ordered components.schemas
  schemas : ∀ entry ∈ components.schemas, entry.2.WellFormed
  parameters : ∀ entry ∈ components.parameters, entry.2.WellFormed

theorem content_gives (depth : Nat) (node : Node) (machine : node.Machine) :
    Gives Content.WellFormed (decodeContent depth node) := by
  refine Data.Decoder.gives_weaker _ _ _ (Data.Decoder.dictionary_gives (fun s : Option Schema => ∀ t ∈ s, t.WellFormed) _
    (fun node own => ?_) depth node machine) fun _ held => held.2
  refine gives_bind _ _ _ _ (Data.Decoder.fields_gives (depth - 1) _ node own) fun f known => ?_
  exact f.optional_gives _ known _ (schema_gives _) "schema"

theorem parameter_gives (depth : Nat) (node : Node) (machine : node.Machine) :
    Gives Parameter.WellFormed (Parameter.decode depth node) := by
  unfold Parameter.decode
  refine gives_bind _ _ _ _ (Data.Decoder.fields_gives depth _ node machine) fun f known => ?_
  iterate 4 refine gives_next _ _ _ fun _ => ?_
  refine gives_bind _ _ _ _ (f.optional_gives _ known _ (schema_gives _) "schema") fun _ held => ?_
  exact gives_pure _ _ held

theorem parameter_entry_gives (depth : Nat) (node : Node) (machine : node.Machine) :
    Gives ParameterEntry.WellFormed (ParameterEntry.decode depth node) := by
  refine gives_bind _ _ _ _ (Data.Decoder.settle_gives depth node machine) fun node own => ?_
  refine gives_either _ _ _ ?_ ?_
  · exact gives_map (fun _ => True) _ _ _ (fun _ _ _ _ _ _ => trivial) fun path _ parameter same => by cases same
  · exact gives_map _ _ _ _ (parameter_gives depth node own) fun s held parameter same =>
      ParameterEntry.inline.inj same ▸ held

theorem parameters_gives (depth : Nat) (node : Node) (machine : node.Machine) :
    Gives (fun entries => ∀ entry ∈ entries, entry.WellFormed) (decodeParameters depth node) :=
  Data.Decoder.list_gives _ _ (parameter_entry_gives (depth - 1)) depth node machine

theorem request_body_gives (depth : Nat) (node : Node) (machine : node.Machine) :
    Gives (fun body => body.content.WellFormed) (RequestBody.decode depth node) := by
  unfold RequestBody.decode
  refine gives_bind _ _ _ _ (Data.Decoder.fields_gives depth _ node machine) fun f known => ?_
  refine gives_next _ _ _ fun _ => gives_bind _ _ _ _ (f.defaulted_gives _ known _ (content_gives _) "content" [] ?_)
    fun _ held => gives_pure _ _ held
  exact List.forall_mem_nil _

theorem response_gives (depth : Nat) (node : Node) (machine : node.Machine) :
    Gives (fun response => response.content.WellFormed) (Response.decode depth node) := by
  unfold Response.decode
  refine gives_bind _ _ _ _ (Data.Decoder.fields_gives depth _ node machine) fun f known => ?_
  refine gives_next _ _ _ fun _ => gives_bind _ _ _ _ (f.defaulted_gives _ known _ (content_gives _) "content" [] ?_)
    fun _ held => gives_pure _ _ held
  exact List.forall_mem_nil _

theorem operation_gives (depth : Nat) (node : Node) (machine : node.Machine) :
    Gives Operation.WellFormed (Operation.decode depth node) := by
  unfold Operation.decode
  refine gives_bind _ _ _ _ (Data.Decoder.fields_gives depth _ node machine) fun f known => ?_
  iterate 3 refine gives_next _ _ _ fun _ => ?_
  refine gives_bind _ _ _ _ (f.defaulted_gives _ known _ (parameters_gives _) "parameters" [] ?_) fun _ parameters => ?_
  · exact List.forall_mem_nil _
  refine gives_bind _ _ _ _ (f.optional_gives _ known _ (request_body_gives _) "requestBody") fun _ body => ?_
  refine gives_bind _ _ _ _ (f.defaulted_gives _ known _
    (Data.Decoder.dictionary_gives _ _ (response_gives _) _) "responses" [] ?_) fun _ responses => ?_
  · exact ⟨List.Pairwise.nil, List.forall_mem_nil _⟩
  · exact gives_pure _ _ ⟨parameters, body, responses.2⟩

theorem path_item_gives (depth : Nat) (node : Node) (machine : node.Machine) :
    Gives PathItem.WellFormed (PathItem.decode depth node) := by
  unfold PathItem.decode
  refine gives_bind _ _ _ _ (Data.Decoder.fields_gives depth _ node machine) fun f known => ?_
  have operation (key : String) := f.optional_gives _ known _ (operation_gives (depth - 1)) key
  refine gives_bind _ _ _ _ (operation "get") fun get first => gives_bind _ _ _ _ (operation "put") fun put second => ?_
  refine gives_bind _ _ _ _ (operation "post") fun post third => ?_
  refine gives_bind _ _ _ _ (operation "patch") fun patch fourth => ?_
  refine gives_bind _ _ _ _ (operation "delete") fun delete fifth => ?_
  refine gives_bind _ _ _ _ (f.defaulted_gives _ known _ (parameters_gives _) "parameters" [] ?_) fun _ parameters =>
    gives_pure _ _ ⟨fun entry member => ?_, parameters⟩
  · exact List.forall_mem_nil _
  obtain ⟨⟨method, operation⟩, listed, given⟩ := List.mem_filterMap.mp member
  obtain ⟨own, rfl, rfl⟩ := Option.map_eq_some_iff.mp given
  simp only [List.mem_cons, Prod.mk.injEq, List.not_mem_nil, or_false] at listed
  rcases listed with ⟨_, same⟩ | ⟨_, same⟩ | ⟨_, same⟩ | ⟨_, same⟩ | ⟨_, same⟩
  · exact first own same.symm
  · exact second own same.symm
  · exact third own same.symm
  · exact fourth own same.symm
  · exact fifth own same.symm

theorem components_gives (depth : Nat) (node : Node) (machine : node.Machine) :
    Gives Components.WellFormed (Components.decode depth node) := by
  unfold Components.decode
  refine gives_bind _ _ _ _ (Data.Decoder.fields_gives depth _ node machine) fun f known => ?_
  refine gives_bind _ _ _ _ (f.defaulted_gives _ known _
    (Data.Decoder.dictionary_gives _ _ (schema_gives _) _) "schemas" [] ?_) fun _ schemas => ?_
  · exact ⟨List.Pairwise.nil, List.forall_mem_nil _⟩
  refine gives_bind _ _ _ _ (f.defaulted_gives _ known _
    (Data.Decoder.dictionary_gives _ _ (parameter_gives _) _) "parameters" [] ?_) fun _ parameters => ?_
  · exact ⟨List.Pairwise.nil, List.forall_mem_nil _⟩
  · exact gives_pure _ _ ⟨schemas.1, schemas.2, parameters.2⟩

theorem encloses_formed (doc : Document) (paths : ∀ entry ∈ doc.paths, entry.2.WellFormed)
    (components : ∀ own ∈ doc.components, own.WellFormed) (s : Schema) (held : doc.Encloses s) : s.WellFormed := by
  have operation (entry : Document.Entry) (listed : entry ∈ doc.entries) : entry.operation.WellFormed := by
    obtain ⟨⟨path, item⟩, inPaths, ofItem⟩ := List.mem_flatMap.mp listed
    obtain ⟨⟨method, operation⟩, inItem, rfl⟩ := List.mem_map.mp ofItem
    exact (paths (path, item) inPaths).operations (method, operation) inItem
  induction held with
  | @component entry listed =>
      unfold Document.schemas at listed
      cases given : doc.components with
      | none => rw [given] at listed; cases listed
      | some own => rw [given] at listed; exact (components own given).schemas entry listed
  | shared given listed held => exact (components _ given).parameters _ listed _ held
  | common listed own held => exact (paths _ listed).parameters _ own _ rfl _ held
  | parameter listed own held => exact (operation _ listed).parameters _ own _ rfl _ held
  | body listed given own held => exact (operation _ listed).body _ given _ own _ held
  | response listed given own held => exact (operation _ listed).responses _ given _ own _ held
  | inner _ inside ih =>
      obtain ⟨_, inner⟩ := ih
      exact inner _ inside

theorem document_gives (depth : Nat) (node : Node) (machine : node.Machine) :
    Gives Document.WellFormed (Document.decode depth node) := by
  unfold Document.decode
  refine gives_bind _ _ _ _ (Data.Decoder.fields_gives depth _ node machine) fun f known => ?_
  refine gives_bind _ _ _ _ (f.defaulted_gives _ known _
    (Data.Decoder.dictionary_gives _ _ (path_item_gives _) _) "paths" [] ?_) fun paths items => ?_
  · exact ⟨List.Pairwise.nil, List.forall_mem_nil _⟩
  refine gives_bind _ _ _ _ (f.optional_gives _ known _ (components_gives _) "components") fun components own => ?_
  refine gives_pure _ _ ⟨items.1, ?_, fun s held => ?_⟩
  · unfold Document.schemas
    cases components with
    | none => exact List.Pairwise.nil
    | some components => exact (own components rfl).ordered
  · obtain ⟨sound, _⟩ := encloses_formed _ items.2 own s held
    exact sound

theorem source_machine (format : DataFormat) (text : String) (source : Data.Source)
    (read : format.source? text = some source) : source.Machine := by
  cases format with
  | json =>
      obtain ⟨root, given, rfl⟩ := Option.map_eq_some_iff.mp read
      exact ⟨Data.Json.read_machine text root given, List.forall_mem_nil _⟩
  | yaml => exact Data.Yaml.read_machine text source read

theorem read_well_formed (format : DataFormat) (text : String) (doc : Document)
    (done : Document.read format text = .ok doc) : doc.WellFormed := by
  unfold Document.read at done
  split at done
  next found decoded =>
    obtain rfl := Except.ok.inj done
    obtain ⟨source, read, ran⟩ := Option.bind_eq_some_iff.mp decoded
    obtain ⟨⟨_, left⟩, given, rfl⟩ := Option.map_eq_some_iff.mp ran
    obtain ⟨root, anchors⟩ := source_machine format text source read
    exact document_gives source.nesting source.root root source.anchors anchors source.jumps _ left given
  next => cases done

end ApiBindings
