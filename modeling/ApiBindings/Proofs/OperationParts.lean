import ApiBindings.Proofs.ReferenceClosure
import Mathlib.Data.List.Forall2
import Mathlib.Data.List.Nodup

/-!
What a resolved operation is made of: its parameters, body and response with references substituted,
and the inputs of its envelope, each made from one source. Later statements about operations go by
`resolveOperation_parts`.
-/
namespace ApiBindings.Model
open Contract (Components PathItem RefOr Parameter RequestBody Response SchemaNode Method
  PathTemplate)
open Resolving

theorem require_yields_iff {α : Type} {e : ResolveError} {o : Option α} {a : α}
    {ws : List Warning} : (require e o).Yields a ws ↔ o = some a ∧ ws = [] := by
  cases o with
  | none => simp [require, not_fail_yields]
  | some b => simp [require, pure_yields_iff]

/-- The definition taken at a place: an inline one, or the entry of the section that has the
reference's last token for its name. -/
def Takes {α : Type} (sectionText : String) (entries : List (String × α)) : RefOr α → α → Prop
  | .inline value, taken => value = taken
  | .ref p, taken => p.isIn sectionText = true ∧ entries.lookup p.name = some taken

theorem Takes.unique {α : Type} {sectionText : String} {entries : List (String × α)} :
    Relator.RightUnique (Takes sectionText entries) := by
  intro place taken taken' h h'
  cases place with
  | inline value => exact Eq.trans (Eq.symm h) h'
  | ref p => exact Option.some.inj (h.2.symm.trans h'.2)

theorem lookup_yields_iff {α : Type} {sectionText : String} {entries : List (String × α)}
    {missing : String → ResolveError} {place : RefOr α} {taken : α} {ws : List Warning} :
    (lookup sectionText entries missing place).Yields taken ws ↔
      Takes sectionText entries place taken ∧ ws = [] := by
  cases place with
  | inline value => exact pure_yields_iff
  | ref p =>
    by_cases hp : p.isIn sectionText = true
    · simp [lookup, Takes, hp, require_yields_iff]
    · simp [lookup, Takes, hp, not_fail_yields]

theorem each_lookup_yields_iff {α : Type} {sectionText : String} {entries : List (String × α)}
    {missing : String → ResolveError} {places : List (RefOr α)} {taken : List α}
    {ws : List Warning} :
    (each (lookup sectionText entries missing) places).Yields taken ws ↔
      List.Forall₂ (Takes sectionText entries) places taken ∧ ws = [] := by
  rw [each_yields_iff]
  constructor
  · rintro ⟨results, hall, rfl, rfl⟩
    rw [List.forall₂_map_right_iff, List.flatMap_eq_nil_iff]
    refine ⟨hall.imp fun _ _ h => (lookup_yields_iff.mp h).1, fun r hr => ?_⟩
    obtain ⟨place, -, hy⟩ := exists_left_of_forall₂ hall hr
    exact (lookup_yields_iff.mp hy).2
  · rintro ⟨hall, rfl⟩
    refine ⟨taken.map fun value => (value, []), ?_, by simp [Function.comp_def], by simp⟩
    rw [List.forall₂_map_right_iff]
    exact hall.imp fun _ _ h => lookup_yields_iff.mpr ⟨h, rfl⟩

theorem addInput_yields_iff {id name : String} {inputs result : List (String × Property)}
    {property : Property} {ws : List Warning} :
    (addInput id inputs name property).Yields result ws ↔
      name ∉ inputs.map Prod.fst ∧ result = inputs ++ [(name, property)] ∧ ws = [] := by
  have hkeys : (inputs.lookup name).isSome = true ↔ name ∈ inputs.map Prod.fst := by
    simp only [List.lookup_isSome_iff, beq_iff_eq, List.mem_map, eq_comm (a := name)]
  unfold addInput
  by_cases h : name ∈ inputs.map Prod.fst
  · rw [if_pos (hkeys.mpr h)]
    exact ⟨fun hy => absurd hy not_fail_yields, fun hy => absurd h hy.1⟩
  · rw [if_neg (mt hkeys.mp h), pure_yields_iff]
    simp only [h, not_false_eq_true, true_and, eq_comm]

/-- What an input of an operation is made from. -/
structure InputSource where
  key : String
  typeName : String
  schema : Option SchemaNode
  required : Bool
  description : Option String
  default : Option Json

namespace InputSource

def ofParameter (p : Parameter) (required : Bool) : InputSource :=
  { key := p.name, typeName := Text.pascalCase p.name, schema := p.schema, required
    description := p.description, default := p.schema.bind defaultOf }

/-- Headers and cookies are no inputs. -/
def ofParameter? (p : Parameter) : Option InputSource := (inputRequired? p).map (ofParameter p)

def ofBody (body : RequestBody) : InputSource :=
  { key := bodyProperty, typeName := "Body", schema := jsonSchema? body.content
    required := body.required, description := body.description, default := none }

def all (parameters : List Parameter) (body : Option RequestBody) : List InputSource :=
  parameters.filterMap ofParameter? ++ body.toList.map ofBody

/-- The source makes the input. -/
def Makes (limit : Nat) (source : InputSource) (input : String × Property) : Prop :=
  ∃ node shape ws, source.schema = some node ∧
    (resolveSchema source.typeName node limit).Yields shape ws ∧
    input = (source.key, Property.of shape source.required source.description source.default)

variable {limit : Nat}

theorem Makes.key {source : InputSource} {input : String × Property}
    (h : source.Makes limit input) : input.1 = source.key := by
  obtain ⟨_, _, _, -, -, rfl⟩ := h
  rfl

theorem keys_of_makes {sources : List InputSource} {inputs : List (String × Property)}
    (h : List.Forall₂ (Makes limit) sources inputs) :
    inputs.map Prod.fst = sources.map InputSource.key := by
  induction h with
  | nil => rfl
  | cons hm _ ih => rw [List.map_cons, List.map_cons, hm.key, ih]

end InputSource

theorem nodup_keys_concat {inputs : List (String × Property)} {name : String} (property : Property)
    (hn : (inputs.map Prod.fst).Nodup) (h : name ∉ inputs.map Prod.fst) :
    ((inputs ++ [(name, property)]).map Prod.fst).Nodup := by
  rw [List.map_append, List.map_singleton, ← List.concat_eq_append]
  exact hn.concat h

/-- Parameters add the inputs that they are sources of, in order, under new names. -/
theorem parameterInputs_makes {limit : Nat} {id request : String} {parameters : List Parameter}
    {inputs result : List (String × Property)} {ws : List Warning}
    (h : (parameterInputs limit id request parameters inputs).Yields result ws)
    (hn : (inputs.map Prod.fst).Nodup) :
    (result.map Prod.fst).Nodup ∧ ∃ added, result = inputs ++ added ∧
      List.Forall₂ (InputSource.Makes limit) (parameters.filterMap InputSource.ofParameter?)
        added := by
  induction parameters generalizing inputs ws with
  | nil =>
    obtain ⟨rfl, -⟩ := pure_yields_iff.mp h
    exact ⟨hn, [], (List.append_nil _).symm, .nil⟩
  | cons p rest ih =>
    rw [parameterInputs] at h
    cases hr : inputRequired? p with
    | none =>
      have hsource : InputSource.ofParameter? p = none := by
        rw [InputSource.ofParameter?, hr, Option.map_none]
      rw [hr] at h
      rw [List.filterMap_cons_none hsource]
      exact ih h hn
    | some required =>
      have hsource : InputSource.ofParameter? p = some (.ofParameter p required) := by
        rw [InputSource.ofParameter?, hr, Option.map_some]
      rw [hr] at h
      obtain ⟨node, _, _, hnode, h, -⟩ := bind_yields_iff.mp h
      obtain ⟨shape, _, _, hshape, h, -⟩ := bind_yields_iff.mp h
      obtain ⟨_, _, _, hadd, h, -⟩ := bind_yields_iff.mp h
      obtain ⟨hnode, -⟩ := require_yields_iff.mp hnode
      obtain ⟨hnew, rfl, -⟩ := addInput_yields_iff.mp hadd
      obtain ⟨hkeys, added, rfl, hall⟩ := ih h (nodup_keys_concat _ hn hnew)
      refine ⟨hkeys, _ :: added, List.append_assoc .., ?_⟩
      have hdefault : defaultOf node = (InputSource.ofParameter p required).default := by
        rw [InputSource.ofParameter, hnode, Option.bind_some]
      rw [List.filterMap_cons_some hsource, hdefault]
      exact .cons ⟨node, shape, _, hnode, hshape, rfl⟩ hall

theorem bodyInput_makes {components : Components} {limit : Nat} {id : String}
    {place : RefOr RequestBody} {inputs result : List (String × Property)} {ws : List Warning}
    (h : (bodyInput components limit id place inputs).Yields result ws)
    (hn : (inputs.map Prod.fst).Nodup) :
    (result.map Prod.fst).Nodup ∧ ∃ body input,
      Takes requestBodiesSection components.requestBodies place body ∧
      result = inputs ++ [input] ∧ (InputSource.ofBody body).Makes limit input := by
  obtain ⟨body, _, _, hbody, h, -⟩ := bind_yields_iff.mp h
  obtain ⟨node, _, _, hnode, h, -⟩ := bind_yields_iff.mp h
  obtain ⟨shape, _, _, hshape, h, -⟩ := bind_yields_iff.mp h
  obtain ⟨hnode, -⟩ := require_yields_iff.mp hnode
  obtain ⟨hnew, rfl, -⟩ := addInput_yields_iff.mp h
  refine ⟨nodup_keys_concat _ hn hnew, body, _, (lookup_yields_iff.mp hbody).1, rfl, ?_⟩
  exact ⟨node, shape, _, hnode, hshape, rfl⟩

/-- The first response with a conventional code. -/
def chosenResponse? (method : Method) (responses : List (String × RefOr Response)) :
    Option (String × RefOr Response) :=
  (conventionalStatuses? method).bind fun codes => responses.find? fun r => codes.contains r.1

/-- What an operation answers with: nothing, or the JSON content of the chosen response. -/
inductive Answers (components : Components) (limit : Nat) (id : String) (method : Method)
    (responses : List (String × RefOr Response)) : Option Shape → Prop
  | nothing {place : RefOr Response} (hc : chosenResponse? method responses = some ("204", place)) :
      Answers components limit id method responses none
  | content {code : String} {place : RefOr Response} {response : Response} {node : SchemaNode}
      {shape : Shape} {ws : List Warning}
      (hc : chosenResponse? method responses = some (code, place)) (hcode : code ≠ "204")
      (ht : Takes responsesSection components.responses place response)
      (hn : jsonSchema? response.content = some node)
      (hs : (resolveSchema (Text.pascalCase (id ++ "_response")) node limit).Yields shape ws) :
      Answers components limit id method responses (some shape)

/-- A response that is chosen and has content is taken, and its JSON content is the answer. -/
theorem Answers.exists_content {components : Components} {limit : Nat} {id : String}
    {method : Method} {responses : List (String × RefOr Response)} {answer : Option Shape}
    (h : Answers components limit id method responses answer) {code : String}
    {place : RefOr Response} (hc : chosenResponse? method responses = some (code, place))
    (hcode : code ≠ "204") :
    ∃ response node shape ws, Takes responsesSection components.responses place response ∧
      jsonSchema? response.content = some node ∧
      (resolveSchema (Text.pascalCase (id ++ "_response")) node limit).Yields shape ws ∧
      answer = some shape := by
  cases h with
  | nothing hc' =>
    cases hc.symm.trans hc'
    exact absurd rfl hcode
  | content hc' _ ht hn hs =>
    cases hc.symm.trans hc'
    exact ⟨_, _, _, _, ht, hn, hs, rfl⟩

theorem resolveResponse_answers {components : Components} {limit : Nat} {id : String}
    {method : Method} {responses : List (String × RefOr Response)} {response : Option Shape}
    {ws : List Warning}
    (h : (resolveResponse components limit id method responses).Yields response ws) :
    Answers components limit id method responses response := by
  obtain ⟨codes, _, _, hcodes, h, -⟩ := bind_yields_iff.mp h
  obtain ⟨⟨code, place⟩, _, _, hplace, h, -⟩ := bind_yields_iff.mp h
  obtain ⟨hcodes, -⟩ := require_yields_iff.mp hcodes
  obtain ⟨hplace, -⟩ := require_yields_iff.mp hplace
  have hchosen : chosenResponse? method responses = some (code, place) := by
    rw [chosenResponse?, hcodes, Option.bind_some, hplace]
  dsimp only at h
  by_cases hcode : code = "204"
  · rw [if_pos hcode] at h
    obtain ⟨rfl, -⟩ := pure_yields_iff.mp h
    rw [hcode] at hchosen
    exact .nothing hchosen
  · rw [if_neg hcode] at h
    obtain ⟨taken, _, _, htaken, h, -⟩ := bind_yields_iff.mp h
    obtain ⟨node, _, _, hnode, h, -⟩ := bind_yields_iff.mp h
    obtain ⟨shape, _, _, hshape, h, -⟩ := bind_yields_iff.mp h
    obtain ⟨rfl, -⟩ := pure_yields_iff.mp h
    exact .content hchosen hcode (lookup_yields_iff.mp htaken).1 (require_yields_iff.mp hnode).1
      hshape

/-- An operation of a contract with the path, the item and the method that it stands under. -/
abbrev OperationEntry := String × PathItem × Method × Contract.Operation

/-- All that goes into a resolved operation and its declarations: its parameters as given, its body,
and the inputs of its envelope. -/
structure OperationParts (components : Components) (limit : Nat) (entry : OperationEntry)
    (result : List Shape × Operation) where
  given : List Parameter
  body : Option RequestBody
  inputs : List (String × Property)
  template : PathTemplate.parse entry.1 = .ok result.2.template
  response : Answers components limit result.2.id entry.2.2.1 entry.2.2.2.responses
    result.2.response
  request : result.2.request = Text.pascalCase (result.2.id ++ "_request")
  takes_parameters : List.Forall₂ (Takes parametersSection components.parameters)
    (entry.2.1.parameters ++ entry.2.2.2.parameters) given
  takes_body : Option.Rel (Takes requestBodiesSection components.requestBodies)
    entry.2.2.2.requestBody body
  makes_inputs : List.Forall₂ (InputSource.Makes limit)
    (InputSource.all (mergedParameters given) body) inputs
  nodup_keys : (inputs.map Prod.fst).Nodup
  pathParams : result.2.pathParams = namesAt .path (mergedParameters given)
  queryParams : result.2.queryParams = namesAt .query (mergedParameters given)
  hasBody : result.2.hasBody = entry.2.2.2.requestBody.isSome
  declared_eq : result.1 =
    (result.2.response.toList.filter Shape.isHoistable).map Shape.declaration ++
      [objectOf result.2.request inputs]

theorem resolvePath_yields_iff {id path : String} {template : PathTemplate} {ws : List Warning} :
    (resolvePath id path).Yields template ws ↔
      PathTemplate.parse path = .ok template ∧ ws = [] := by
  unfold resolvePath
  cases PathTemplate.parse path with
  | ok parsed => simp [pure_yields_iff]
  | error e => simp [not_fail_yields]

theorem resolvePath_yields_of_longest {path : String} {template : PathTemplate}
    (h : PathTemplate.longest? path.toList = some (template, [])) (id : String) :
    (resolvePath id path).Yields template [] := by
  rw [resolvePath_yields_iff, PathTemplate.parse, h]
  exact ⟨rfl, rfl⟩

section Operations

variable {components : Components} {limit : Nat} {entry : OperationEntry}
  {result : List Shape × Operation}

theorem resolveOperation_parts {ws : List Warning}
    (h : (resolveOperation components limit entry.1 entry.2.1 entry.2.2.1 entry.2.2.2).Yields
      result ws) : Nonempty (OperationParts components limit entry result) := by
  obtain ⟨id, _, _, -, h, -⟩ := bind_yields_iff.mp h
  obtain ⟨response, _, _, hresponse, h, -⟩ := bind_yields_iff.mp h
  obtain ⟨template, _, _, htemplate, h, -⟩ := bind_yields_iff.mp h
  obtain ⟨given, _, _, hgiven, h, -⟩ := bind_yields_iff.mp h
  obtain ⟨fromParameters, _, _, hparameters, h, -⟩ := bind_yields_iff.mp h
  obtain ⟨hkeys, added, rfl, hadded⟩ := parameterInputs_makes hparameters List.nodup_nil
  have htaken := (each_lookup_yields_iff.mp hgiven).1
  have htemplate := (resolvePath_yields_iff.mp htemplate).1
  have hresponse := resolveResponse_answers hresponse
  dsimp only at h
  split at h
  · next place hplace =>
    obtain ⟨inputs, _, _, hinputs, h, -⟩ := bind_yields_iff.mp h
    obtain ⟨rfl, -⟩ := pure_yields_iff.mp h
    obtain ⟨hkeys, body, input, hbody, rfl, hinput⟩ := bodyInput_makes hinputs hkeys
    refine ⟨_, some body, _, htemplate, hresponse, rfl, htaken, hplace ▸ .some hbody, ?_, hkeys,
      rfl, rfl, rfl, rfl⟩
    exact List.rel_append hadded (.cons hinput .nil)
  · next hplace =>
    obtain ⟨inputs, _, _, hinputs, h, -⟩ := bind_yields_iff.mp h
    obtain ⟨rfl, -⟩ := pure_yields_iff.mp h
    obtain ⟨rfl, -⟩ := pure_yields_iff.mp hinputs
    refine ⟨_, none, _, htemplate, hresponse, rfl, htaken, hplace ▸ .none, ?_, hkeys,
      rfl, rfl, rfl, rfl⟩
    rw [InputSource.all, Option.toList_none, List.map_nil, List.append_nil]
    exact hadded

namespace OperationParts

theorem envelope_mem (parts : OperationParts components limit entry result) :
    objectOf result.2.request parts.inputs ∈ result.1 := by
  rw [parts.declared_eq]
  exact List.mem_append_right _ (.head _)

theorem getLast?_declared (parts : OperationParts components limit entry result) :
    result.1.getLast? = some (objectOf result.2.request parts.inputs) := by
  rw [parts.declared_eq, List.getLast?_concat]

theorem exists_body (parts : OperationParts components limit entry result)
    {place : RefOr RequestBody} (h : entry.2.2.2.requestBody = some place) :
    ∃ body, parts.body = some body ∧
      Takes requestBodiesSection components.requestBodies place body := by
  have hbody := parts.takes_body
  rw [h] at hbody
  generalize parts.body = body at hbody ⊢
  cases hbody with
  | some ht => exact ⟨_, rfl, ht⟩

theorem response_resolves (parts : OperationParts components limit entry result)
    {response : Shape} (hr : response ∈ result.2.response) :
    ∃ node ws, (resolveSchema (Text.pascalCase (result.2.id ++ "_response")) node limit).Yields
      response ws := by
  have hanswers := parts.response
  rw [Option.mem_def.mp hr] at hanswers
  cases hanswers with
  | content _ _ _ _ hs => exact ⟨_, _, hs⟩

theorem response_mem (parts : OperationParts components limit entry result) {response : Shape}
    (hr : response ∈ result.2.response) (hh : response.isHoistable = true) :
    response.declaration ∈ result.1 := by
  rw [parts.declared_eq]
  apply List.mem_append_left
  apply List.mem_map_of_mem
  exact List.mem_filter.mpr ⟨Option.mem_toList.mpr hr, hh⟩

end OperationParts

end Operations

section Contract

variable {doc : Contract.Document} {limit : Nat} {shapes : List (Shape × List Warning)}
  {operations : List ((List Shape × Operation) × List Warning)}

theorem ResolvesParts.operationParts (h : ResolvesParts doc limit shapes operations) :
    List.Forall₂ (fun o r => Nonempty (OperationParts (doc.components.getD {}) limit o r.1))
      (operationsOf doc.paths) operations :=
  h.operations.imp fun _ _ => resolveOperation_parts

theorem ResolvesParts.exists_parts (h : ResolvesParts doc limit shapes operations)
    {result : List Shape × Operation} (hr : result ∈ operations.map Prod.fst) :
    ∃ entry ∈ operationsOf doc.paths,
      Nonempty (OperationParts (doc.components.getD {}) limit entry result) := by
  obtain ⟨r, hm, rfl⟩ := List.mem_map.mp hr
  exact exists_left_of_forall₂ h.operationParts hm

theorem declared_subset_schemas (doc : Contract.Document) (shapes : List Shape)
    {results : List (List Shape × Operation)} {result : List Shape × Operation}
    (hr : result ∈ results) : result.1 ⊆ (Api.ofParts doc shapes results).schemas := by
  intro s hs
  apply List.mem_append_right
  exact List.mem_flatMap_of_mem hr hs

end Contract

end ApiBindings.Model
