import ApiBindings.Proofs.Collisions
import ApiBindings.Proofs.DeclaredIdentifiers

namespace ApiBindings.Model
open Contract (Document Components RefOr Parameter RequestBody Response SchemaNode Method)
open Resolving

def InputSource.NeedsDeclaration (source : InputSource) : Prop :=
  ∃ node, source.schema = some node ∧ Contract.NeedsDeclaration node

/-- Two of the inputs are declared under the name. -/
def SharesTypeName (sources : List InputSource) (name : String) : Prop :=
  ∃ first second, [first, second].Sublist sources ∧
    (first.NeedsDeclaration ∧ first.typeName = name) ∧
    second.NeedsDeclaration ∧ second.typeName = name

theorem not_sharesTypeName_nil {name : String} : ¬ SharesTypeName [] name := by
  rintro ⟨first, second, h, -⟩
  cases h

theorem sharesTypeName_cons_iff {source : InputSource} {sources : List InputSource}
    {name : String} :
    SharesTypeName (source :: sources) name ↔
      (source.NeedsDeclaration ∧ source.typeName = name) ∧
          (∃ other ∈ sources, other.NeedsDeclaration ∧ other.typeName = name) ∨
        SharesTypeName sources name := by
  constructor
  · rintro ⟨first, second, hsub, hfirst, hsecond⟩
    cases hsub with
    | cons _ hsub => exact .inr ⟨first, second, hsub, hfirst, hsecond⟩
    | cons_cons _ hsub => exact .inl ⟨hfirst, second, List.singleton_sublist.mp hsub, hsecond⟩
  · rintro (⟨hsource, other, hother, ho⟩ | ⟨first, second, hsub, hboth⟩)
    · exact ⟨source, other, (List.singleton_sublist.mpr hother).cons_cons _, hsource, ho⟩
    · exact ⟨first, second, hsub.cons _, hboth⟩

section Inputs

variable {limit : Nat}

theorem InputSource.Makes.isHoistable_iff {source : InputSource} {input : String × Property}
    (h : source.Makes limit input) :
    input.2.shape.isHoistable = true ↔ source.NeedsDeclaration := by
  obtain ⟨node, hn, hdeclares⟩ := h.declaresAs
  rw [hdeclares.needs_iff]
  constructor
  · exact fun hneeds => ⟨node, hn, hneeds⟩
  · rintro ⟨node', hn', hneeds⟩
    obtain rfl := Option.some.inj (hn.symm.trans hn')
    exact hneeds

theorem InputSource.Makes.shape_name {source : InputSource} {input : String × Property}
    (h : source.Makes limit input) : input.2.shape.name = source.typeName := by
  obtain ⟨node, -, hdeclares⟩ := h.declaresAs
  exact hdeclares.name_eq

variable {sources : List InputSource} {inputs : List (String × Property)}

theorem mem_hoistedOf_names_iff (h : List.Forall₂ (InputSource.Makes limit) sources inputs)
    {name : String} :
    name ∈ (hoistedOf inputs).map Shape.name ↔
      ∃ source ∈ sources, source.NeedsDeclaration ∧ source.typeName = name := by
  have hinputs : name ∈ (hoistedOf inputs).map Shape.name ↔
      ∃ input ∈ inputs, input.2.shape.isHoistable = true ∧ input.2.shape.name = name := by
    simp only [List.mem_map, mem_hoistedOf_iff]
    constructor
    · rintro ⟨_, ⟨input, hi, hh, rfl⟩, hname⟩
      exact ⟨input, hi, hh, hname⟩
    · rintro ⟨input, hi, hh, hname⟩
      exact ⟨_, ⟨input, hi, hh, rfl⟩, hname⟩
  rw [hinputs]
  apply (exists_mem_iff_of_forall₂ (h.imp fun source input hm => ?_)).symm
  rw [hm.isHoistable_iff, hm.shape_name]

/-- An envelope hoists a name more than once just when two inputs share it as their type name. -/
theorem duplicate_hoistedOf_iff (h : List.Forall₂ (InputSource.Makes limit) sources inputs)
    {name : String} :
    List.Duplicate name ((hoistedOf inputs).map Shape.name) ↔ SharesTypeName sources name := by
  induction h with
  | nil => simp [hoistedOf, not_sharesTypeName_nil]
  | @cons source input sources inputs hm hrest ih =>
    rw [sharesTypeName_cons_iff, ← ih, ← mem_hoistedOf_names_iff hrest, ← hm.isHoistable_iff,
      ← hm.shape_name]
    by_cases hh : input.2.shape.isHoistable = true
    · have hcons : hoistedOf (input :: inputs) = input.2.shape.declaration :: hoistedOf inputs := by
        simp [hoistedOf, hh]
      rw [hcons, List.map_cons, List.duplicate_cons_iff]
      simp only [hh, true_and]
      rfl
    · have hcons : hoistedOf (input :: inputs) = hoistedOf inputs := by
        simp [hoistedOf, hh]
      simp only [hcons, hh, Bool.false_eq_true, false_and, false_or]

end Inputs

/-- The warning is right for a shape inside one of the inputs. -/
def InputsClash (inputs : List (String × Property)) (w : Warning) : Prop :=
  ∃ input ∈ inputs, input.2.shape.Clashes w

theorem inputsClash_concat_iff {inputs : List (String × Property)} {name : String} {shape : Shape}
    {required : Bool} {description : Option String} {default : Option Json} {w : Warning} :
    InputsClash (inputs ++ [(name, Property.of shape required description default)]) w ↔
      InputsClash inputs w ∨ shape.Clashes w := by
  have hshape : (Property.of shape required description default).shape.Clashes w ↔
      shape.Clashes w := Shape.clashes_congr rfl rfl
  simp [InputsClash, or_and_right, exists_or, hshape]

section Operations

variable {components : Components} {limit : Nat} {id : String} {w : Warning}

theorem parameterInputs_warnings {request : String} {parameters : List Parameter}
    {inputs result : List (String × Property)} {ws : List Warning}
    (h : (parameterInputs limit id request parameters inputs).Yields result ws) :
    InputsClash result w ↔ InputsClash inputs w ∨ w ∈ ws := by
  induction parameters generalizing inputs ws with
  | nil =>
    obtain ⟨rfl, rfl⟩ := pure_yields_iff.mp h
    simp
  | cons p rest ih =>
    rw [parameterInputs] at h
    split at h
    · exact ih h
    · obtain ⟨node, -, h⟩ := (bind_yields_iff_of_silent require_yields_iff).mp h
      obtain ⟨shape, earlier, later, hshape, h, hws⟩ := bind_yields_iff.mp h
      obtain ⟨_, ⟨-, rfl⟩, h⟩ :=
        (bind_yields_iff_of_silent (addInput_yields_iff.trans and_assoc.symm)).mp h
      rw [ih h, inputsClash_concat_iff, ← (resolveSchema_warnsExactly hshape).mem_iff, hws,
        List.mem_append, or_assoc]

theorem bodyInput_warnings {place : RefOr RequestBody} {inputs result : List (String × Property)}
    {ws : List Warning} (h : (bodyInput components limit id place inputs).Yields result ws) :
    InputsClash result w ↔ InputsClash inputs w ∨ w ∈ ws := by
  obtain ⟨body, -, h⟩ := (bind_yields_iff_of_silent lookup_yields_iff).mp h
  obtain ⟨node, -, h⟩ := (bind_yields_iff_of_silent require_yields_iff).mp h
  obtain ⟨shape, earlier, later, hshape, h, hws⟩ := bind_yields_iff.mp h
  obtain ⟨-, rfl, rfl⟩ := addInput_yields_iff.mp h
  rw [inputsClash_concat_iff, ← (resolveSchema_warnsExactly hshape).mem_iff, hws, List.append_nil]

theorem resolveResponse_warnings {method : Method} {responses : List (String × RefOr Response)}
    {response : Option Shape} {ws : List Warning}
    (h : (resolveResponse components limit id method responses).Yields response ws) :
    w ∈ ws ↔ ∃ s ∈ response, s.Clashes w := by
  obtain ⟨codes, -, h⟩ := (bind_yields_iff_of_silent require_yields_iff).mp h
  obtain ⟨⟨code, place⟩, -, h⟩ := (bind_yields_iff_of_silent require_yields_iff).mp h
  dsimp only at h
  by_cases hcode : code = "204"
  · rw [if_pos hcode] at h
    obtain ⟨rfl, rfl⟩ := pure_yields_iff.mp h
    simp
  · rw [if_neg hcode] at h
    obtain ⟨taken, -, h⟩ := (bind_yields_iff_of_silent lookup_yields_iff).mp h
    obtain ⟨node, -, h⟩ := (bind_yields_iff_of_silent require_yields_iff).mp h
    obtain ⟨shape, earlier, later, hshape, h, hws⟩ := bind_yields_iff.mp h
    obtain ⟨rfl, rfl⟩ := pure_yields_iff.mp h
    simp [hws, (resolveSchema_warnsExactly hshape).mem_iff]

/-- An operation warns of what is inside its response and inside its inputs. The envelope itself is
not looked at. -/
theorem resolveOperation_warnings {entry : OperationEntry} {result : List Shape × Operation}
    {ws : List Warning}
    (h : (resolveOperation components limit entry.1 entry.2.1 entry.2.2.1 entry.2.2.2).Yields
      result ws) (parts : OperationParts components limit entry result) :
    w ∈ ws ↔ (∃ s ∈ result.2.response, s.Clashes w) ∨ InputsClash parts.inputs w := by
  have hlast := parts.getLast?_declared
  generalize parts.inputs = inputs at hlast ⊢
  obtain ⟨id, -, h⟩ := (bind_yields_iff_of_silent require_yields_iff).mp h
  obtain ⟨response, ofResponse, ofInputs, hresponse, h, hws⟩ := bind_yields_iff.mp h
  obtain ⟨template, -, h⟩ := (bind_yields_iff_of_silent resolvePath_yields_iff).mp h
  obtain ⟨parameters, -, h⟩ := (bind_yields_iff_of_silent each_lookup_yields_iff).mp h
  obtain ⟨fromParameters, ofParameters, ofBody, hparameters, h, hofInputs⟩ := bind_yields_iff.mp h
  have hempty : ¬ InputsClash [] w := by simp [InputsClash]
  have hparameters := parameterInputs_warnings (w := w) hparameters
  rw [hws, List.mem_append, resolveResponse_warnings hresponse, hofInputs, List.mem_append]
  dsimp only at h
  split at h
  · obtain ⟨all, earlier, later, hbody, h, hofBody⟩ := bind_yields_iff.mp h
    obtain ⟨rfl, rfl⟩ := pure_yields_iff.mp h
    rw [List.getLast?_concat] at hlast
    cases hlast
    rw [bodyInput_warnings hbody, hparameters, or_iff_right hempty, hofBody, List.append_nil]
  · obtain ⟨all, earlier, later, hall, h, hofBody⟩ := bind_yields_iff.mp h
    obtain ⟨rfl, rfl⟩ := pure_yields_iff.mp h
    rw [List.getLast?_concat] at hlast
    cases hlast
    obtain ⟨rfl, rfl⟩ := pure_yields_iff.mp hall
    rw [hparameters, or_iff_right hempty, hofBody]
    simp

end Operations

/-- The schemas of a contract that are resolved, with the names that they are resolved under. -/
inductive ResolvedAs (doc : Document) : String → SchemaNode → Prop
  | component {entry : String × SchemaNode} (he : entry ∈ (doc.components.getD {}).schemas) :
      ResolvedAs doc entry.1 entry.2
  | input {source : InputSource} {node : SchemaNode} (h : InputNode doc source node) :
      ResolvedAs doc source.typeName node
  | response {o : OperationEntry} {code : String} {place : RefOr Response} {response : Response}
      {node : SchemaNode}
      (ho : o ∈ operationsOf doc.paths)
      (hc : chosenResponse? o.2.2.1 o.2.2.2.responses = some (code, place)) (hcode : code ≠ "204")
      (ht : Takes responsesSection (doc.components.getD {}).responses place response)
      (hn : jsonSchema? response.content = some node) :
      ResolvedAs doc (Text.pascalCase (operationId o) ++ "Response") node

/-- A schema of the contract gives out the warning when it is resolved by itself. -/
def SchemaWarns (doc : Document) (limit : Nat) (w : Warning) : Prop :=
  ∃ name node shape ws, ResolvedAs doc name node ∧
    (resolveSchema name node limit).Yields shape ws ∧ w ∈ ws

section Contract

variable {doc : Document} {limit : Nat} {shapes : List (Shape × List Warning)}
  {operations : List ((List Shape × Operation) × List Warning)} {w : Warning}

theorem InputSource.Makes.clashes_iff {source : InputSource} {input : String × Property}
    (h : source.Makes limit input) {node : SchemaNode} (hn : source.schema = some node)
    {shape : Shape} {ws : List Warning}
    (hy : (resolveSchema source.typeName node limit).Yields shape ws) :
    input.2.shape.Clashes w ↔ w ∈ ws := by
  obtain ⟨node', shape', ws', hn', hy', rfl⟩ := h
  obtain rfl := Option.some.inj (hn.symm.trans hn')
  obtain ⟨rfl, rfl⟩ := hy.unique hy'
  rw [(resolveSchema_warnsExactly hy).mem_iff]
  exact Shape.clashes_congr rfl rfl

theorem ResolvesParts.schemaWarns_of_operation (h : ResolvesParts doc limit shapes operations)
    {r : (List Shape × Operation) × List Warning} (hr : r ∈ operations) (hw : w ∈ r.2) :
    SchemaWarns doc limit w := by
  obtain ⟨o, ho, hy⟩ := exists_left_of_forall₂ h.operations hr
  obtain ⟨parts⟩ := resolveOperation_parts hy
  rcases (resolveOperation_warnings hy parts).mp hw with ⟨s, hs, hc⟩ | ⟨input, hi, hc⟩
  · have hanswers := parts.response
    rw [Option.mem_def.mp hs] at hanswers
    cases hanswers with
    | content hchosen hcode ht hn hs =>
      have hmem := ((resolveSchema_warnsExactly hs).mem_iff w).mpr hc
      rw [Text.pascalCase_response, resolveOperation_id hy] at hs
      exact ⟨_, _, _, _, .response ho hchosen hcode ht hn, hs, hmem⟩
  · obtain ⟨source, hsource, hm⟩ := exists_left_of_forall₂ parts.makes_inputs hi
    obtain ⟨node, shape, ws, hn, hs, -⟩ := id hm
    exact ⟨_, node, shape, ws, .input ⟨o, ho, _, _, parts.takes_parameters, parts.takes_body,
      hsource, hn⟩, hs, (hm.clashes_iff hn hs).mp hc⟩

theorem ResolvesParts.mem_warnings_of_schemaWarns (h : ResolvesParts doc limit shapes operations)
    (hw : SchemaWarns doc limit w) :
    (∃ r ∈ shapes, w ∈ r.2) ∨ ∃ r ∈ operations, w ∈ r.2 := by
  obtain ⟨name, node, shape, ws, hroot, hs, hw⟩ := hw
  cases hroot with
  | component he =>
    obtain ⟨r, hr, hy⟩ := exists_right_of_forall₂ h.shapes he
    obtain ⟨rfl, rfl⟩ := hs.unique hy
    exact .inl ⟨r, hr, hw⟩
  | input hi =>
    obtain ⟨o, -, r, hr, parts, hy, input, hm, hmakes⟩ := h.exists_input hi
    obtain ⟨-, -, -, -, -, -, -, hn⟩ := hi
    refine .inr ⟨r, hr, (resolveOperation_warnings hy parts).mpr (.inr ⟨input, hm, ?_⟩)⟩
    exact (hmakes.clashes_iff hn hs).mpr hw
  | response ho hc hcode ht hn =>
    obtain ⟨r, hr, ⟨parts⟩, hy, shape', ws', hs', hanswer⟩ :=
      h.exists_response ho hc hcode ht hn
    obtain ⟨rfl, rfl⟩ := hs.unique hs'
    refine .inr ⟨r, hr, (resolveOperation_warnings hy parts).mpr (.inl ⟨shape, hanswer, ?_⟩)⟩
    exact ((resolveSchema_warnsExactly hs).mem_iff w).mp hw

/-- The warnings of a contract are those that its schemas give out one by one. -/
theorem ResolvesParts.mem_warnings_iff (h : ResolvesParts doc limit shapes operations) :
    w ∈ shapes.flatMap Prod.snd ++ operations.flatMap Prod.snd ↔ SchemaWarns doc limit w := by
  rw [List.mem_append, List.mem_flatMap, List.mem_flatMap]
  constructor
  · rintro (⟨r, hr, hw⟩ | ⟨r, hr, hw⟩)
    · obtain ⟨entry, he, hy⟩ := exists_left_of_forall₂ h.shapes hr
      exact ⟨_, _, _, _, .component he, hy, hw⟩
    · exact h.schemaWarns_of_operation hr hw
  · exact h.mem_warnings_of_schemaWarns

theorem ResolvesParts.warnings_eq (h : ResolvesParts doc limit shapes operations) {api : Api}
    {ws : List Warning} (hy : (Api.resolve doc limit).Yields api ws) :
    ws = shapes.flatMap Prod.snd ++ operations.flatMap Prod.snd := by
  rcases h.resolve_cases with ⟨-, hparts⟩ | ⟨e, -, hf⟩
  · exact (hy.unique hparts).2
  · exact absurd hf hy.not_failsWith

end Contract

/-- An envelope hoists a name more than once just when two inputs of its operation need a
declaration under the same type name, and it hoists different names just when no two do. That is
reported just when a schema of the contract, by itself, gives out a warning with the same two names,
since all warnings come from schemas. -/
theorem envelope_collision_warned_iff {doc : Document} {limit : Nat} {api : Api}
    {ws : List Warning} (h : (Api.resolve doc limit).Yields api ws) :
    (∀ w, w ∈ ws ↔ SchemaWarns doc limit w) ∧
    List.Forall₂ (fun o operation => ∃ declared,
      ∃ parts : OperationParts (doc.components.getD {}) limit o (declared, operation),
      objectOf operation.request parts.inputs ∈ api.schemas ∧
      let hoistedNames := (objectOf operation.request parts.inputs).hoisted.map Shape.name
      let sources := InputSource.all (mergedParameters parts.given) parts.body
      (hoistedNames.Nodup ↔ ∀ name, ¬ SharesTypeName sources name) ∧
      ((∀ name, List.Duplicate name hoistedNames → ⟨operation.request, name⟩ ∈ ws) ↔
        ∀ name, SharesTypeName sources name → SchemaWarns doc limit ⟨operation.request, name⟩))
      (operationsOf doc.paths) api.operations := by
  obtain ⟨shapes, operations, hparts, rfl, -⟩ := ofParts_of_resolve h
  have hws : ∀ w, w ∈ ws ↔ SchemaWarns doc limit w := by
    intro w
    rw [hparts.warnings_eq h]
    exact hparts.mem_warnings_iff
  refine ⟨hws, ?_⟩
  have hoperations : (Api.ofParts doc (shapes.map Prod.fst) (operations.map Prod.fst)).operations =
      operations.map fun r => r.1.2 := by
    rw [Api.ofParts, List.map_map]
    rfl
  rw [hoperations, List.forall₂_map_right_iff]
  apply (forall₂_mem hparts.operations).imp
  rintro o r ⟨-, hr, hy⟩
  obtain ⟨parts⟩ := resolveOperation_parts hy
  have hduplicate (name : String) :
      List.Duplicate name ((hoistedOf parts.inputs).map Shape.name) ↔
        SharesTypeName (InputSource.all (mergedParameters parts.given) parts.body) name :=
    duplicate_hoistedOf_iff parts.makes_inputs
  have hresult : r.1 ∈ operations.map Prod.fst := List.mem_map_of_mem hr
  refine ⟨r.1.1, parts, declared_subset_schemas doc _ hresult parts.envelope_mem, ?_, ?_⟩
  · rw [List.nodup_iff_forall_not_duplicate]
    exact forall_congr' fun name => not_congr (hduplicate name)
  · exact forall_congr' fun name => imp_congr (hduplicate name) (hws _)

def orderBy (name : String) : Parameter :=
  { name, location := .query
    schema := some (.inline { enum := some [.string "title", .string "date"] }) }

def searchTickets : Contract.Operation :=
  { operationId := some "search", parameters := [.inline (orderBy "order-by")]
    requestBody := some (.inline
      { content := [("application/json", { schema := some (.inline { properties := some [] }) })] })
    responses := [("204", .inline {})] }

def board : Document :=
  { components := some { schemas := [("Ticket", ticket)] }
    paths := [("/tickets", { post := some searchTickets })] }

/-- The ticket is warned of, and the order and the body of a search have different type names. -/
theorem board_collisions_warned :
    ∃ api, (Api.resolve board 8).Yields api [⟨"State", "Kind"⟩] ∧
      SchemaWarns board 8 ⟨"State", "Kind"⟩ ∧
      ∃ operation ∈ api.operations, ∃ inputs, objectOf operation.request inputs ∈ api.schemas ∧
        ((objectOf operation.request inputs).hoisted.map Shape.name).Nodup := by
  have hpath : (resolvePath "search" "/tickets").Yields [[.literal "tickets"]] [] :=
    resolvePath_yields_of_longest (by decide +kernel) _
  have hsearch : (resolveOperation (board.components.getD {}) 8 "/tickets"
      { post := some searchTickets } .post searchTickets).Yields (_, _) [] :=
    .through (a := "search") rfl rfl hpath rfl
  have hticket : (resolveSchema "Ticket" ticket 8).Yields _ [⟨"State", "Kind"⟩] := rfl
  have hparts : ResolvesParts board 8 [(_, [⟨"State", "Kind"⟩])] [(_, [])] :=
    ⟨.cons hticket .nil, .cons hsearch .nil⟩
  have h : (Api.resolve board 8).Yields _ [⟨"State", "Kind"⟩] := hparts.resolve_yields rfl rfl
  obtain ⟨hws, hoperations⟩ := envelope_collision_warned_iff h
  refine ⟨_, h, (hws _).mp (.head _), _, .head _, ?_⟩
  cases hoperations with
  | cons hoperation _ =>
    obtain ⟨declared, parts, hmem, hnodup, -⟩ := hoperation
    refine ⟨parts.inputs, hmem, hnodup.mpr ?_⟩
    have hgiven : List.Forall₂ (Takes parametersSection (board.components.getD {}).parameters)
        [.inline (orderBy "order-by")] [orderBy "order-by"] := .cons rfl .nil
    obtain ⟨body, hbody, rfl⟩ := parts.exists_body rfl
    rw [← List.right_unique_forall₂' Takes.unique hgiven parts.takes_parameters, hbody]
    rintro name ⟨first, second, hsub, ⟨-, hfirst⟩, -, hsecond⟩
    have htwo := hsub.eq_of_length rfl
    cases htwo
    exact absurd (hfirst.trans hsecond.symm) (by decide +kernel)

/-- Takes the order under two names that are capitalised alike. -/
def searchTwice : Contract.Operation :=
  { operationId := some "search"
    parameters := [.inline (orderBy "order-by"), .inline (orderBy "order_by")]
    responses := [("204", .inline {})] }

def searchBoard : Document := { paths := [("/tickets", { post := some searchTwice })] }

/-- The envelope hoists both under one name, and no warning is given out. -/
theorem searchBoard_collision_silent :
    ∃ api, (Api.resolve searchBoard 8).Yields api [] ∧ ∃ envelope ∈ api.schemas,
      envelope.name = "SearchRequest" ∧
      List.Duplicate "OrderBy" (envelope.hoisted.map Shape.name) := by
  have hpath : (resolvePath "search" "/tickets").Yields [[.literal "tickets"]] [] :=
    resolvePath_yields_of_longest (by decide +kernel) _
  have hsearch : (resolveOperation (searchBoard.components.getD {}) 8 "/tickets"
      { post := some searchTwice } .post searchTwice).Yields (_, _) [] :=
    .through (a := "search") rfl rfl hpath rfl
  have hparts : ResolvesParts searchBoard 8 [] [(_, [])] := ⟨.nil, .cons hsearch .nil⟩
  have hrequest : Text.pascalCase ("search" ++ "_request") = "SearchRequest" := by decide +kernel
  have hdash : Text.pascalCase "order-by" = "OrderBy" := by decide +kernel
  have hunderscore : Text.pascalCase "order_by" = "OrderBy" := by decide +kernel
  refine ⟨_, hparts.resolve_yields rfl rfl, _, .head _, hrequest, ?_⟩
  change List.Duplicate "OrderBy" [Text.pascalCase "order-by", Text.pascalCase "order_by"]
  rw [hdash, hunderscore]
  exact List.Mem.duplicate_cons_self (.head _)

end ApiBindings.Model
