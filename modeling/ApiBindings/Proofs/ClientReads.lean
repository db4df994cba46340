import ApiBindings.Proofs.Envelope
import ApiBindings.Proofs.ReferenceClosure
import ApiBindings.TypeScript.Client

namespace ApiBindings.TypeScript
open Model (Operation)
open Contract (Segment PathTemplate)

mutual

def Expr.reads (variableName : String) : Expr → List String
  | .string _ => []
  | .template parts => partsReads variableName parts
  | .property name key => if name = variableName then [key] else []
  | .call _ arg => arg.reads variableName
  | .object entries => entriesReads variableName entries

def partsReads (variableName : String) : List TemplatePart → List String
  | [] => []
  | .text _ :: rest => partsReads variableName rest
  | .hole value :: rest => value.reads variableName ++ partsReads variableName rest

def entriesReads (variableName : String) : List (String × Expr) → List String
  | [] => []
  | (_, value) :: rest => value.reads variableName ++ entriesReads variableName rest

end

def Declaration.reads (variableName : String) : Declaration → List String
  | .function _ _ _ returned => returned.reads variableName
  | _ => []

theorem partsReads_append (variableName : String) (parts rest : List TemplatePart) :
    partsReads variableName (parts ++ rest) =
      partsReads variableName parts ++ partsReads variableName rest := by
  induction parts with
  | nil => rfl
  | cons part parts ih =>
    cases part with
    | text t => exact ih
    | hole value => simp only [List.cons_append, partsReads, ih, List.append_assoc]

theorem entriesReads_append (variableName : String) (entries rest : List (String × Expr)) :
    entriesReads variableName (entries ++ rest) =
      entriesReads variableName entries ++ entriesReads variableName rest := by
  induction entries with
  | nil => rfl
  | cons entry entries ih =>
    obtain ⟨key, value⟩ := entry
    simp only [List.cons_append, entriesReads, ih, List.append_assoc]

theorem partsReads_segmentParts (segment : Segment) :
    partsReads "req" (segmentParts segment) = segment.params := by
  rw [segmentParts, partsReads]
  induction segment with
  | nil => rfl
  | cons fragment rest ih =>
    cases fragment with
    | literal text => exact ih
    | param name =>
      rw [List.map_cons, fragmentPart, partsReads, ih]
      rfl

theorem partsReads_template (template : PathTemplate) :
    partsReads "req" (template.flatMap segmentParts) = template.params := by
  induction template with
  | nil => rfl
  | cons segment rest ih =>
    rw [List.flatMap_cons, partsReads_append, partsReads_segmentParts, ih]
    rfl

theorem reads_pathExpr (op : Operation) : (pathExpr op).reads "req" = op.template.params := by
  unfold pathExpr
  by_cases h : op.template.params.isEmpty = true
  · rw [if_pos h, Expr.reads, List.isEmpty_iff.mp h]
  · rw [if_neg h, Expr.reads, partsReads_template]

theorem entriesReads_query (names : List String) :
    entriesReads "req" (names.map fun name => (name, .property "req" name)) = names := by
  induction names with
  | nil => rfl
  | cons name rest ih =>
    rw [List.map_cons, entriesReads, ih]
    rfl

theorem reads_operationFunction (op : Operation) :
    (operationFunction op).declaration.reads "req" =
      op.template.params ++ op.queryParams ++ if op.hasBody then ["body"] else [] := by
  have hquery : entriesReads "req" (if op.queryParams.isEmpty then []
      else [("query", .object (op.queryParams.map fun name => (name, .property "req" name)))]) =
      op.queryParams := by
    cases hq : op.queryParams with
    | nil => rfl
    | cons name rest =>
      rw [if_neg (by simp), entriesReads, Expr.reads, entriesReads_query, entriesReads,
        List.append_nil]
  have hbody : entriesReads "req" (if op.hasBody then [("body", .property "req" "body")] else []) =
      if op.hasBody then ["body"] else [] := by
    cases op.hasBody <;> rfl
  have hfixed : entriesReads "req" [("method", .string op.method.name), ("path", pathExpr op)] =
      op.template.params := by
    simp only [entriesReads, Expr.reads, reads_pathExpr, List.nil_append, List.append_nil]
  change entriesReads "req" (requestEntries op) = _
  rw [requestEntries, entriesReads_append, entriesReads_append, hfixed, hquery, hbody]

end ApiBindings.TypeScript

namespace ApiBindings.Model
open Contract (Document Parameter RequestBody PathItem)
open TypeScript Resolving

theorem HoldsInputs.mem_keys_iff {merged : List Parameter} {body : Option RequestBody}
    {operation : Operation} {inputs : List (String × Property)}
    (h : HoldsInputs merged body operation inputs) {key : String} :
    key ∈ inputs.map Prod.fst ↔ key ∈ operation.pathParams ∨ key ∈ operation.queryParams ∨
      operation.hasBody = true ∧ key = "body" := by
  have hbody : key ∈ body.toList.map (fun _ => "body") ↔ body.isSome = true ∧ key = "body" := by
    cases body <;> simp
  have hparameters : key ∈ (merged.filter fun p => IsInput p).map Parameter.name ↔
      key ∈ operation.pathParams ∨ key ∈ operation.queryParams := by
    simp only [h.pathParams, h.queryParams, List.mem_map, List.mem_filter, decide_eq_true_eq]
    simp only [IsInput, and_or_left, or_and_right, exists_or]
  rw [h.keys, List.mem_append, hparameters, hbody, h.hasBody, or_assoc]

def requestReads (op : Operation) : List String := (operationFunction op).declaration.reads "req"

theorem mem_requestReads_iff {op : Operation} {key : String} :
    key ∈ requestReads op ↔ key ∈ op.template.params ∨ key ∈ op.queryParams ∨
      op.hasBody = true ∧ key = "body" := by
  rw [requestReads, reads_operationFunction, List.mem_append, List.mem_append, or_assoc]
  cases op.hasBody <;> simp

theorem operationFunction_mem_clientModule {operations : List Operation} {op : Operation}
    (h : op ∈ operations) : Item.declared (operationFunction op) ∈ clientModule operations := by
  apply List.mem_append_right
  apply List.mem_map_of_mem
  exact .tail _ (.tail _ (List.mem_map_of_mem h))

/-- The function of an operation reads only what the envelope holds just when each parameter of the
path is an input. All else that it reads is one. -/
theorem reads_inputs_iff {doc : Document} {limit : Nat} {api : Api} {ws : List Warning}
    (h : (Api.resolve doc limit).Yields api ws) :
    ∃ shapes operations, ResolvesParts doc limit shapes operations ∧
      api = Api.ofParts doc (shapes.map Prod.fst) (operations.map Prod.fst) ∧
      ∀ result ∈ operations.map Prod.fst, ∃ inputs,
        result.1.getLast? = some (objectOf result.2.request inputs) ∧
        .declared (operationFunction result.2) ∈ clientModule api.operations ∧
        (∀ key ∈ requestReads result.2,
          key ∈ result.2.template.params ∨ key ∈ inputs.map Prod.fst) ∧
        ((∀ key ∈ requestReads result.2, key ∈ inputs.map Prod.fst) ↔
          ∀ name ∈ result.2.template.params,
            name ∈ result.2.pathParams ∨ name ∈ result.2.queryParams ∨
              result.2.hasBody = true ∧ name = "body") := by
  obtain ⟨shapes, operations, hparts, rfl, -⟩ := ofParts_of_resolve h
  refine ⟨shapes, operations, hparts, rfl, ?_⟩
  intro result hresult
  obtain ⟨_, -, ⟨parts⟩⟩ := hparts.exists_parts hresult
  have hkeys {key : String} : key ∈ parts.inputs.map Prod.fst ↔ key ∈ result.2.pathParams ∨
      key ∈ result.2.queryParams ∨ result.2.hasBody = true ∧ key = "body" :=
    parts.holdsInputs.mem_keys_iff
  -- Whatever is read beside the path is an input by its own list.
  have hrest : ∀ key ∈ requestReads result.2,
      key ∈ result.2.template.params ∨ key ∈ parts.inputs.map Prod.fst := by
    intro key hkey
    rw [hkeys]
    exact (mem_requestReads_iff.mp hkey).imp_right .inr
  refine ⟨parts.inputs, parts.getLast?_declared, ?_, hrest, ?_⟩
  · exact operationFunction_mem_clientModule (List.mem_map_of_mem hresult)
  · constructor
    · intro hall name hname
      exact hkeys.mp (hall name (mem_requestReads_iff.mpr (.inl hname)))
    · intro hdeclared key hkey
      apply (hrest key hkey).elim _ id
      exact fun hparam => hkeys.mpr (hdeclared key hparam)

def putPet : Contract.Operation :=
  { operationId := some "putPet"
    parameters := [.inline { name := "petId", schema := some (.inline { type := some .string }) }]
    responses := [("204", .inline {})] }

/-- Removes a pet, without a parameter for which one. -/
def deletePet : Contract.Operation :=
  { operationId := some "deletePet", responses := [("204", .inline {})] }

def petPath : PathItem := { put := some putPet, delete := some deletePet }

def petDocument : Document := { paths := [("/pets/\x7bpetId\x7d", petPath)] }

theorem petDocument_yields : ∃ put delete : List Shape × Operation,
    (resolveOperation {} 8 "/pets/\x7bpetId\x7d" petPath .delete deletePet).Yields delete [] ∧
    (Api.resolve petDocument 8).Yields (Api.ofParts petDocument [] [put, delete]) [] ∧
    put.2.template.params = ["petId"] ∧ put.2.pathParams = ["petId"] ∧
    delete.1 = [objectOf delete.2.request []] ∧ delete.2.template.params = ["petId"] ∧
    delete.2.pathParams = [] := by
  have hpath (id : String) : (resolvePath id "/pets/\x7bpetId\x7d").Yields
      [[.literal "pets"], [.param "petId"]] [] :=
    resolvePath_yields_of_longest (by decide +kernel) id
  have hput : (resolveOperation {} 8 "/pets/\x7bpetId\x7d" petPath .put putPet).Yields (_, _)
      [] :=
    .through (a := "putPet") rfl rfl (hpath _) rfl
  have hdelete : (resolveOperation {} 8 "/pets/\x7bpetId\x7d" petPath .delete deletePet).Yields
      (_, _) [] :=
    .through (a := "deletePet") rfl rfl (hpath _) rfl
  have hparts : ResolvesParts petDocument 8 [] [(_, []), (_, [])] :=
    ⟨.nil, .cons hput (.cons hdelete .nil)⟩
  exact ⟨_, _, hdelete, hparts.resolve_yields rfl rfl, rfl, rfl, rfl, rfl, rfl⟩

theorem putPet_reads_inputs : ∃ api ws, (Api.resolve petDocument 8).Yields api ws ∧
    ∃ op ∈ api.operations, op.template.params = ["petId"] ∧
      ∃ (declared : List Shape) (inputs : List (String × Property)),
        declared.getLast? = some (objectOf op.request inputs) ∧
        ∀ key ∈ requestReads op, key ∈ inputs.map Prod.fst := by
  obtain ⟨put, delete, -, hresolve, htemplate, hparams, -⟩ := petDocument_yields
  obtain ⟨shapes, operations, -, heq, hall⟩ := reads_inputs_iff hresolve
  have hput : put.2 ∈ (Api.ofParts petDocument [] [put, delete]).operations := .head _
  have hmem := hput
  rw [heq] at hmem
  obtain ⟨result, hresult, hop⟩ := List.mem_map.mp hmem
  obtain ⟨inputs, hlast, -, -, hiff⟩ := hall result hresult
  rw [hop] at hlast hiff
  refine ⟨_, _, hresolve, put.2, hput, htemplate, result.1, inputs, hlast, hiff.mpr ?_⟩
  rw [htemplate, hparams]
  exact fun name hname => .inl hname

/-- The function that removes a pet reads which one from an envelope without inputs. -/
theorem deletePet_reads_undeclared : ∃ api ws, (Api.resolve petDocument 8).Yields api ws ∧
    ∃ declared op, (resolveOperation {} 8 "/pets/\x7bpetId\x7d" petPath .delete deletePet).Yields
        (declared, op) [] ∧
      op ∈ api.operations ∧ declared = [objectOf op.request []] ∧
      "petId" ∈ op.template.params ∧ "petId" ∉ op.pathParams ∧ "petId" ∈ requestReads op := by
  obtain ⟨put, delete, hdelete, hresolve, -, -, hdeclared, htemplate, hparams⟩ := petDocument_yields
  have hmem : "petId" ∈ delete.2.template.params := htemplate ▸ .head _
  refine ⟨_, _, hresolve, delete.1, delete.2, hdelete, .tail _ (.head _), hdeclared, hmem, ?_,
    mem_requestReads_iff.mpr (.inl hmem)⟩
  rw [hparams]
  exact List.not_mem_nil

end ApiBindings.Model
