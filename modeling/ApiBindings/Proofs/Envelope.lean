import ApiBindings.Proofs.Keyed
import ApiBindings.Proofs.OperationParts
import ApiBindings.Proofs.Pairwise

namespace ApiBindings.Contract

/-- What tells parameters apart. -/
def Parameter.key (p : Parameter) : String × Location := (p.name, p.location)

/-- One parameter for each name and location, at the place of the first one given and holding the
last. -/
structure MergeOf (given merged : List Parameter) : Prop where
  keys : merged.map Parameter.key = (given.map Parameter.key).eraseDups
  last : ∀ p ∈ merged, (given.filter fun q => q.key = p.key).getLast? = some p

theorem MergeOf.unique {given merged merged' : List Parameter} (h : MergeOf given merged)
    (h' : MergeOf given merged') : merged = merged' := by
  let last (key : String × Location) := (given.filter fun q => q.key = key).getLast?
  have hlast (ps : List Parameter) (hp : MergeOf given ps) :
      ps.map some = (given.map Parameter.key).eraseDups.map last := by
    rw [← hp.keys, List.map_map]
    apply List.map_congr_left
    intro p hm
    exact (hp.last p hm).symm
  apply List.map_injective_iff.mpr fun _ _ => Option.some.inj
  rw [hlast merged h, hlast merged' h']

end ApiBindings.Contract

namespace ApiBindings.Model
open Contract (Components PathItem Parameter RequestBody Method MergeOf)
open Resolving

theorem mergeOf_mergedParameters (given : List Parameter) :
    MergeOf given (mergedParameters given) := by
  let entries := given.map fun p => (p.key, p)
  -- The entries that are kept still are parameters with their own keys.
  have hown : ∀ e ∈ uniqueEntries entries, (given.filter fun q => q.key = e.1).getLast? = some e.2
      ∧ e.2.key = e.1 := by
    intro e he
    have hlast := getLast?_of_mem_uniqueEntries he
    rw [List.filter_map, List.getLast?_map, Option.map_eq_some_iff] at hlast
    obtain ⟨p, hp, rfl⟩ := hlast
    exact ⟨hp, rfl⟩
  constructor
  · have hkeys := keys_uniqueEntries entries
    rw [List.map_map] at hkeys
    refine Eq.trans ?_ hkeys
    rw [mergedParameters, List.map_map]
    apply List.map_congr_left
    exact fun e he => (hown e he).2
  · intro p hp
    obtain ⟨e, he, rfl⟩ := List.mem_map.mp hp
    rw [(hown e he).2]
    exact (hown e he).1

def IsInput (p : Parameter) : Prop := p.location = .path ∨ p.location = .query

instance : DecidablePred IsInput := fun _ => inferInstanceAs (Decidable (_ ∨ _))

/-- The inputs of an operation are those that its merged parameters and its body ask for. -/
structure HoldsInputs (merged : List Parameter) (body : Option RequestBody) (operation : Operation)
    (inputs : List (String × Property)) : Prop where
  pathParams : operation.pathParams =
    (merged.filter fun p => p.location = .path).map Parameter.name
  queryParams : operation.queryParams =
    (merged.filter fun p => p.location = .query).map Parameter.name
  hasBody : operation.hasBody = body.isSome
  keys : inputs.map Prod.fst =
    (merged.filter fun p => IsInput p).map Parameter.name ++ body.toList.map fun _ => "body"
  nodup_keys : (inputs.map Prod.fst).Nodup
  path : ∀ p ∈ merged, p.location = .path → ∃ property, (p.name, property) ∈ inputs ∧
    property.required = true ∧ property.shape.required = true
  query : ∀ p ∈ merged, p.location = .query → ∃ property, (p.name, property) ∈ inputs ∧
    property.required = p.required ∧ property.shape.required = p.required
  body : ∀ b ∈ body, ∃ property, ("body", property) ∈ inputs ∧
    property.required = b.required ∧ property.shape.required = b.required
  repeated : ∀ input ∈ inputs, input.2.repeated = input.2.shape.repeated

namespace InputSource

theorem keys_ofParameter? (parameters : List Parameter) :
    (parameters.filterMap ofParameter?).map key =
      (parameters.filter fun p => IsInput p).map Parameter.name := by
  induction parameters with
  | nil => rfl
  | cons p rest ih =>
    cases hl : p.location <;>
      simp [ofParameter?, inputRequired?, ofParameter, IsInput, hl, ih]

theorem Makes.property {limit : Nat} {source : InputSource} {input : String × Property}
    (h : source.Makes limit input) : input.2.required = source.required ∧
      input.2.shape.required = source.required ∧ input.2.repeated = input.2.shape.repeated := by
  obtain ⟨_, _, _, -, -, rfl⟩ := h
  exact ⟨rfl, rfl, rfl⟩

theorem exists_input {limit : Nat} {sources : List InputSource}
    {inputs : List (String × Property)} (h : List.Forall₂ (Makes limit) sources inputs)
    {source : InputSource} (hs : source ∈ sources) :
    ∃ property, (source.key, property) ∈ inputs ∧ property.required = source.required ∧
      property.shape.required = source.required := by
  obtain ⟨⟨name, property⟩, hi, hm⟩ := exists_right_of_forall₂ h hs
  obtain rfl : name = source.key := hm.key
  exact ⟨property, hi, hm.property.1, hm.property.2.1⟩

theorem ofParameter_mem_all {parameters : List Parameter} (body : Option RequestBody)
    {p : Parameter} {required : Bool} (hp : p ∈ parameters)
    (hr : inputRequired? p = some required) : ofParameter p required ∈ all parameters body := by
  apply List.mem_append_left
  exact List.mem_filterMap.mpr ⟨p, hp, by rw [ofParameter?, hr, Option.map_some]⟩

end InputSource

namespace OperationParts

variable {components : Components} {limit : Nat} {entry : OperationEntry}
  {result : List Shape × Operation}

theorem body_isSome (parts : OperationParts components limit entry result) :
    parts.body.isSome = entry.2.2.2.requestBody.isSome := by
  have hb := parts.takes_body
  generalize parts.body = body, entry.2.2.2.requestBody = place at hb ⊢
  cases hb <;> rfl

theorem holdsInputs (parts : OperationParts components limit entry result) :
    HoldsInputs (mergedParameters parts.given) parts.body result.2 parts.inputs where
  pathParams := parts.pathParams
  queryParams := parts.queryParams
  hasBody := parts.hasBody.trans parts.body_isSome.symm
  keys := by
    rw [InputSource.keys_of_makes parts.makes_inputs, InputSource.all, List.map_append,
      List.map_map, InputSource.keys_ofParameter?]
    rfl
  nodup_keys := parts.nodup_keys
  path := by
    intro p hp hl
    have hr : inputRequired? p = some true := by rw [inputRequired?, hl]
    exact InputSource.exists_input parts.makes_inputs (InputSource.ofParameter_mem_all _ hp hr)
  query := by
    intro p hp hl
    have hr : inputRequired? p = some p.required := by rw [inputRequired?, hl]
    exact InputSource.exists_input parts.makes_inputs (InputSource.ofParameter_mem_all _ hp hr)
  body := by
    intro b hb
    have hs : InputSource.ofBody b ∈ InputSource.all (mergedParameters parts.given) parts.body :=
      List.mem_append_right _ (List.mem_map_of_mem (Option.mem_toList.mpr hb))
    exact InputSource.exists_input parts.makes_inputs hs
  repeated := by
    intro input hi
    obtain ⟨source, -, hm⟩ := exists_left_of_forall₂ parts.makes_inputs hi
    exact hm.property.2.2

end OperationParts

/-- Two inputs would have the same name: one parameter in the path and one in the query, or one of
them and the body. -/
def Clash (merged : List Parameter) (hasBody : Bool) : Prop :=
  (∃ p ∈ merged, ∃ q ∈ merged, p.location = .path ∧ q.location = .query ∧ p.name = q.name) ∨
    hasBody = true ∧ ∃ p ∈ merged, IsInput p ∧ p.name = "body"

theorem HoldsInputs.not_clash {merged : List Parameter} {body : Option RequestBody}
    {operation : Operation} {inputs : List (String × Property)}
    (h : HoldsInputs merged body operation inputs) : ¬ Clash merged body.isSome := by
  have hn := h.nodup_keys
  rw [h.keys, List.nodup_append] at hn
  have mem_filter {p : Parameter} (hp : p ∈ merged) (hi : IsInput p) :
      p ∈ merged.filter fun p => IsInput p := List.mem_filter.mpr ⟨hp, by simpa using hi⟩
  rintro (⟨p, hp, q, hq, hpath, hquery, hname⟩ | ⟨hb, p, hp, hi, hname⟩)
  · have heq := List.inj_on_of_nodup_map hn.1 (mem_filter hp (.inl hpath))
      (mem_filter hq (.inr hquery)) hname
    rw [heq, hquery] at hpath
    cases hpath
  · obtain ⟨b, rfl⟩ := Option.isSome_iff_exists.mp hb
    apply hn.2.2 p.name (List.mem_map_of_mem (mem_filter hp hi)) "body" (by simp)
    exact hname

/-- An operation that resolves has an envelope of just its inputs: its parameters, references
substituted and merged, and its body. Where the names of inputs clash it does not resolve. -/
theorem envelope_holds_inputs (components : Components) (limit : Nat) (path : String)
    (item : PathItem) (method : Method) (op : Contract.Operation) :
    (∀ declared operation ws,
      (resolveOperation components limit path item method op).Yields (declared, operation) ws →
      ∃ given merged body inputs,
        List.Forall₂ (Takes parametersSection components.parameters)
          (item.parameters ++ op.parameters) given ∧
        MergeOf given merged ∧
        Option.Rel (Takes requestBodiesSection components.requestBodies) op.requestBody body ∧
        declared.getLast? = some (objectOf operation.request inputs) ∧
        HoldsInputs merged body operation inputs) ∧
    ∀ given merged,
      List.Forall₂ (Takes parametersSection components.parameters)
        (item.parameters ++ op.parameters) given →
      MergeOf given merged → Clash merged op.requestBody.isSome →
      ∀ result ws, ¬ (resolveOperation components limit path item method op).Yields result ws := by
  constructor
  · intro declared operation ws h
    obtain ⟨parts⟩ : Nonempty (OperationParts components limit (path, item, method, op) _) :=
      resolveOperation_parts h
    exact ⟨parts.given, mergedParameters parts.given, parts.body, parts.inputs,
      parts.takes_parameters, mergeOf_mergedParameters parts.given, parts.takes_body,
      parts.getLast?_declared, parts.holdsInputs⟩
  · intro given merged hgiven hmerge hclash result ws h
    obtain ⟨parts⟩ : Nonempty (OperationParts components limit (path, item, method, op) _) :=
      resolveOperation_parts h
    -- Both the parameters given and what is left of them are determined.
    obtain rfl : given = parts.given :=
      List.right_unique_forall₂' Takes.unique hgiven parts.takes_parameters
    obtain rfl := hmerge.unique (mergeOf_mergedParameters parts.given)
    exact parts.holdsInputs.not_clash (parts.body_isSome ▸ hclash)

def shop : Components :=
  { parameters := [("Limit",
      { name := "limit", location := .query, required := true
        schema := some (.inline { type := some .integer }) })]
    requestBodies := [("Order",
      { required := true
        content :=
          [("application/json", { schema := some (.inline { type := some .string }) })] })] }

/-- A path whose parameter for the limit is not required. -/
def shopPath : PathItem :=
  { parameters :=
      [.inline { name := "limit", location := .query
                 schema := some (.inline { type := some .number }) },
       .inline { name := "shop", schema := some (.inline { type := some .string }) }] }

def placeOrder : Contract.Operation :=
  { operationId := some "placeOrder"
    parameters :=
      [.inline { name := "trace", location := .header },
       .ref ⟨"/components/parameters/Limit"⟩]
    requestBody := some (.ref ⟨"/components/requestBodies/Order"⟩)
    responses := [("204", .inline {})] }

def placeOrderTwice : Contract.Operation :=
  { placeOrder with
    parameters :=
      [.inline { name := "shop", location := .query
                 schema := some (.inline { type := some .string }) }] }

/-- The order's limit is the required one from the components, at the place of the path's own. -/
theorem placeOrder_holds_inputs :
    (∃ declared operation ws,
      (resolveOperation shop 8 "/shops/\x7bshop\x7d" shopPath .post placeOrder).Yields
        (declared, operation) ws ∧
      ∃ given merged body inputs, MergeOf given merged ∧
        declared.getLast? = some (objectOf operation.request inputs) ∧
        HoldsInputs merged body operation inputs ∧
        inputs.map Prod.fst = ["limit", "shop", "body"] ∧
        inputs.map (fun input => input.2.required) = [true, true, true]) ∧
    ∀ result ws, ¬ (resolveOperation shop 8 "/shops/\x7bshop\x7d" shopPath .post
      placeOrderTwice).Yields result ws := by
  have hpath : (resolvePath "placeOrder" "/shops/\x7bshop\x7d").Yields
      [[.literal "shops"], [.param "shop"]] [] :=
    resolvePath_yields_of_longest (by decide +kernel) _
  have hop : (resolveOperation shop 8 "/shops/\x7bshop\x7d" shopPath .post placeOrder).Yields
      (_, _) [] :=
    .through (a := "placeOrder") rfl rfl hpath rfl
  constructor
  · obtain ⟨given, merged, body, inputs, -, hmerge, -, hlast, hholds⟩ :=
      (envelope_holds_inputs shop 8 "/shops/\x7bshop\x7d" shopPath .post placeOrder).1 _ _ _ hop
    refine ⟨_, _, _, hop, given, merged, body, inputs, hmerge, hlast, hholds, ?_⟩
    cases hlast
    exact ⟨rfl, rfl⟩
  · apply (envelope_holds_inputs shop 8 "/shops/\x7bshop\x7d" shopPath .post placeOrderTwice).2
      [_, _, _] _ (.cons rfl (.cons rfl (.cons rfl .nil))) (mergeOf_mergedParameters _)
    exact .inl ⟨_, .tail _ (.head _), _, .tail _ (.tail _ (.head _)), rfl, rfl, rfl⟩

end ApiBindings.Model
