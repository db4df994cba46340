import ApiBindings.Proofs.Decoding
import ApiBindings.Proofs.Keyed
import ApiBindings.Proofs.OperationParts
import Mathlib.Data.List.Perm.Basic

namespace ApiBindings

theorem lookup_of_perm {α : Type} {entries entries' : List (String × α)}
    (h : entries.Perm entries') (hn : (entries.map Prod.fst).Nodup) (key : String) :
    entries.lookup key = entries'.lookup key := by
  induction h with
  | nil => rfl
  | cons e _ ih =>
    rw [List.map_cons, List.nodup_cons] at hn
    rw [List.lookup_cons, List.lookup_cons, ih hn.2]
  | swap e f rest =>
    obtain ⟨k, v⟩ := e
    obtain ⟨l, w⟩ := f
    have hne : (l == k) = false := by
      rw [List.map_cons, List.map_cons, List.nodup_cons] at hn
      exact beq_eq_false_iff_ne.mpr fun h => hn.1 (h ▸ List.mem_cons_self)
    simp only [List.lookup_cons]
    by_cases hk : key = l
    · rw [hk, hne, beq_self_eq_true]
    · rw [beq_eq_false_iff_ne.mpr hk]
  | trans h _ ih ih' =>
    rw [ih hn, ih' ((h.map Prod.fst).nodup_iff.mp hn)]

/-- Where elements correspond to at most one each, the second list is made from the first. -/
theorem exists_eq_map_of_forall₂ {α β : Type} [Nonempty β] {r : α → β → Prop}
    (hr : Relator.RightUnique r) {as : List α} {bs : List β} (h : List.Forall₂ r as bs) :
    ∃ f : α → β, bs = as.map f ∧ ∀ a ∈ as, r a (f a) := by
  have hex : ∀ a ∈ as, ∃ b, r a b := fun a ha => (exists_right_of_forall₂ h ha).imp fun _ h => h.2
  choose! f hf using hex
  have hmap : List.Forall₂ r as (as.map f) := by
    rw [List.forall₂_map_right_iff, List.forall₂_same]
    exact hf
  exact ⟨f, hr.forall₂ h hmap, hf⟩

end ApiBindings

namespace ApiBindings.Contract

/-- The sections that references are looked up in have no key twice. -/
structure Components.DistinctKeys (c : Components) : Prop where
  responses : (c.responses.map Prod.fst).Nodup
  parameters : (c.parameters.map Prod.fst).Nodup
  requestBodies : (c.requestBodies.map Prod.fst).Nodup

def Document.DistinctKeys (doc : Document) : Prop := ∀ c ∈ doc.components, c.DistinctKeys

structure Components.Reordered (c c' : Components) : Prop where
  schemas : c.schemas.Perm c'.schemas
  responses : c.responses.Perm c'.responses
  parameters : c.parameters.Perm c'.parameters
  requestBodies : c.requestBodies.Perm c'.requestBodies

/-- The same contract but for the order of paths and of entries in the sections. -/
structure Document.Reordered (doc doc' : Document) : Prop where
  openapi : doc.openapi = doc'.openapi
  info : doc.info = doc'.info
  paths : doc.paths.Perm doc'.paths
  components : Option.Rel Components.Reordered doc.components doc'.components

theorem Components.Reordered.symm {c c' : Components} (h : c.Reordered c') : c'.Reordered c :=
  ⟨h.schemas.symm, h.responses.symm, h.parameters.symm, h.requestBodies.symm⟩

theorem Document.Reordered.symm {doc doc' : Document} (h : doc.Reordered doc') :
    doc'.Reordered doc := by
  obtain ⟨openapi, info, paths, components⟩ := doc
  obtain ⟨openapi', info', paths', components'⟩ := doc'
  refine ⟨h.openapi.symm, h.info.symm, h.paths.symm, ?_⟩
  cases h.components with
  | some hc => exact .some hc.symm
  | none => exact .none

theorem Document.Reordered.distinctKeys {doc doc' : Document} (h : doc.Reordered doc')
    (hk : doc.DistinctKeys) : doc'.DistinctKeys := by
  obtain ⟨openapi, info, paths, components⟩ := doc
  obtain ⟨openapi', info', paths', components'⟩ := doc'
  intro c' hc'
  cases h.components with
  | none => cases hc'
  | @some c _ hc =>
    cases hc'
    obtain ⟨hresponses, hparameters, hbodies⟩ := hk c rfl
    constructor
    · exact (hc.responses.map Prod.fst).nodup_iff.mp hresponses
    · exact (hc.parameters.map Prod.fst).nodup_iff.mp hparameters
    · exact (hc.requestBodies.map Prod.fst).nodup_iff.mp hbodies

theorem Document.Reordered.getD {doc doc' : Document} (h : doc.Reordered doc') :
    (doc.components.getD {}).Reordered (doc'.components.getD {}) := by
  obtain ⟨openapi, info, paths, components⟩ := doc
  obtain ⟨openapi', info', paths', components'⟩ := doc'
  cases h.components with
  | some hc => exact hc
  | none => exact ⟨.refl _, .refl _, .refl _, .refl _⟩

theorem Document.DistinctKeys.getD {doc : Document} (h : doc.DistinctKeys) :
    (doc.components.getD {}).DistinctKeys := by
  cases hc : doc.components with
  | some c => exact h c hc
  | none => exact ⟨List.nodup_nil, List.nodup_nil, List.nodup_nil⟩

section Decoded

open Decode

variable {ν α : Type} [Node ν]

theorem nodup_keys_of_map {inner : Decoder ν α} {node : ν} {entries : List (String × α)}
    (h : map inner node = .ok entries) : (entries.map Prod.fst).Nodup := by
  obtain ⟨run, -, h⟩ := bind_eq_ok_iff.mp h
  obtain ⟨values, -, h⟩ := bind_eq_ok_iff.mp h
  obtain ⟨_, -, h⟩ := bind_eq_ok_iff.mp h
  cases h
  rw [keys_uniqueEntries]
  exact nodup_eraseDups _

theorem components_distinctKeys {node : ν} {c : Components} (h : components node = .ok c) :
    c.DistinctKeys := by
  have hblank : Components.DistinctKeys {} := ⟨List.nodup_nil, List.nodup_nil, List.nodup_nil⟩
  refine record_invariant ?_ hblank h
  simp only [List.forall_mem_cons, read_eq_ok_iff]
  refine ⟨?schemas, ?responses, ?parameters, ?requestBodies, nofun⟩
  case schemas =>
    rintro _ _ ⟨entries, -, rfl⟩ c hc
    exact ⟨hc.responses, hc.parameters, hc.requestBodies⟩
  case responses =>
    rintro _ _ ⟨entries, he, rfl⟩ c hc
    exact ⟨nodup_keys_of_map he, hc.parameters, hc.requestBodies⟩
  case parameters =>
    rintro _ _ ⟨entries, he, rfl⟩ c hc
    exact ⟨hc.responses, nodup_keys_of_map he, hc.requestBodies⟩
  case requestBodies =>
    rintro _ _ ⟨entries, he, rfl⟩ c hc
    exact ⟨hc.responses, hc.parameters, nodup_keys_of_map he⟩

/-- Contracts that are read, in whatever notation, have distinct keys. -/
theorem document_distinctKeys {node : ν} {doc : Document} (h : document node = .ok doc) :
    doc.DistinctKeys := by
  have hblank : Document.DistinctKeys {} := nofun
  refine record_invariant ?_ hblank h
  simp only [List.forall_mem_cons, read_eq_ok_iff]
  refine ⟨?openapi, ?info, ?paths, ?components, nofun⟩
  case openapi | info | paths =>
    rintro _ _ ⟨_, -, rfl⟩ doc hdoc
    exact hdoc
  case components =>
    rintro node _ ⟨found, hfound, rfl⟩ doc hdoc c hc
    obtain ⟨isNull, -, hfound⟩ := bind_eq_ok_iff.mp hfound
    cases isNull with
    | true =>
      cases hfound
      cases hc
    | false =>
      obtain ⟨c', hc', hfound⟩ := bind_eq_ok_iff.mp hfound
      cases hfound
      cases hc
      exact components_distinctKeys hc'

end Decoded

end ApiBindings.Contract

namespace ApiBindings.Model
open Contract (Document Components PathItem Method SchemaNode)
open Resolving

theorem lookup_reordered {α : Type} (sectionText : String) {entries entries' : List (String × α)}
    (h : entries.Perm entries') (hn : (entries.map Prod.fst).Nodup)
    (missing : String → ResolveError) :
    lookup sectionText entries missing = lookup sectionText entries' missing := by
  funext place
  cases place with
  | inline value => rfl
  | ref p => rw [lookup, lookup, lookup_of_perm h hn]

/-- Operations look at components by name only. -/
theorem resolveOperation_reordered {c c' : Components} (h : c.Reordered c') (hk : c.DistinctKeys)
    (limit : Nat) (path : String) (item : PathItem) (method : Method) (op : Contract.Operation) :
    resolveOperation c limit path item method op =
      resolveOperation c' limit path item method op := by
  have hresponse (id : String) : resolveResponse c limit id method op.responses =
      resolveResponse c' limit id method op.responses := by
    rw [resolveResponse, resolveResponse, lookup_reordered _ h.responses hk.responses]
  have hbody (id : String) : bodyInput c limit id = bodyInput c' limit id := by
    funext body inputs
    rw [bodyInput, bodyInput, lookup_reordered _ h.requestBodies hk.requestBodies]
  rw [resolveOperation, resolveOperation]
  simp only [hresponse, hbody, lookup_reordered _ h.parameters hk.parameters]

theorem operationsOf_perm {paths paths' : List (String × PathItem)} (h : paths.Perm paths') :
    (operationsOf paths).Perm (operationsOf paths') :=
  h.flatMap_right _

instance : Nonempty Shape := ⟨{ name := "", kind := .string }⟩

instance : Nonempty Operation :=
  ⟨{ path := "", template := [], id := "", summary := none, method := .get, request := ""
     response := none, pathParams := [], queryParams := [], hasBody := false }⟩

/-- The resolved contract is put together from what each component and each operation makes, in the
order of the contract and the components first. -/
structure Api.AssembledFrom (api : Api) (doc : Document) (limit : Nat)
    (component : String × SchemaNode → Shape)
    (operation : OperationEntry → List Shape × Operation) : Prop where
  component_resolves : ∀ entry ∈ (doc.components.getD {}).schemas,
    ∃ ws, (resolveSchema entry.1 entry.2 limit).Yields (component entry) ws
  operation_resolves : ∀ o ∈ operationsOf doc.paths, ∃ ws, (resolveOperation
    (doc.components.getD {}) limit o.1 o.2.1 o.2.2.1 o.2.2.2).Yields (operation o) ws
  /-- A component makes one declaration, or those of the items and of the list. -/
  component_block : ∀ entry ∈ (doc.components.getD {}).schemas,
    (∃ s, componentBlock (component entry) = [s] ∧ s.name = entry.1) ∨
      ∃ item, item.name = entry.1 ++ "Item" ∧ componentBlock (component entry) =
        [item, { name := entry.1, repeated := true, kind := .reference item.name }]
  /-- An operation declares its response, if that needs it, and then its envelope. -/
  operation_block : ∀ o ∈ operationsOf doc.paths, ∃ inputs, (operation o).1 =
    ((operation o).2.response.toList.filter Shape.isHoistable).map Shape.declaration ++
      [objectOf (operation o).2.request inputs]
  schemas : api.schemas =
    ((doc.components.getD {}).schemas.flatMap fun entry => componentBlock (component entry)) ++
      (operationsOf doc.paths).flatMap fun o => (operation o).1
  operations : api.operations = (operationsOf doc.paths).map fun o => (operation o).2

theorem componentBlock_forms {limit : Nat} {entry : String × SchemaNode} {shape : Shape}
    {ws : List Warning} (h : (resolveSchema entry.1 entry.2 limit).Yields shape ws) :
    (∃ s, componentBlock shape = [s] ∧ s.name = entry.1) ∨
      ∃ item, item.name = entry.1 ++ "Item" ∧ componentBlock shape =
        [item, { name := entry.1, repeated := true, kind := .reference item.name }] := by
  rw [← resolveSchema_name h]
  rcases componentBlock_cases shape with ⟨-, hb⟩ | ⟨-, hb⟩
  · exact .inl ⟨shape, hb, rfl⟩
  · exact .inr ⟨_, rfl, hb⟩

theorem ComponentName.of_perm {schemas schemas' : List (String × SchemaNode)} {limit : Nat}
    (h : schemas.Perm schemas') {name : String} (hn : ComponentName schemas limit name) :
    ComponentName schemas' limit name := by
  cases hn with
  | own he => exact .own (h.mem_iff.mp he)
  | item he hy hs => exact .item (h.mem_iff.mp he) hy hs

section Parts

variable {doc doc' : Document} {limit : Nat}
  {component : String × SchemaNode → Shape × List Warning}
  {operation : OperationEntry → (List Shape × Operation) × List Warning}

/-- The contract whose components and operations make what the functions say. -/
def Api.madeBy (doc : Document) (component : String × SchemaNode → Shape × List Warning)
    (operation : OperationEntry → (List Shape × Operation) × List Warning) : Api :=
  .ofParts doc (((doc.components.getD {}).schemas.map component).map Prod.fst)
    (((operationsOf doc.paths).map operation).map Prod.fst)

/-- The functions say what the components and operations of the contract make. -/
def MadeParts (doc : Document) (limit : Nat)
    (component : String × SchemaNode → Shape × List Warning)
    (operation : OperationEntry → (List Shape × Operation) × List Warning) : Prop :=
  ResolvesParts doc limit ((doc.components.getD {}).schemas.map component)
    ((operationsOf doc.paths).map operation)

theorem madeParts_iff : MadeParts doc limit component operation ↔
    (∀ entry ∈ (doc.components.getD {}).schemas,
      (resolveSchema entry.1 entry.2 limit).Yields (component entry).1 (component entry).2) ∧
    ∀ o ∈ operationsOf doc.paths, (resolveOperation (doc.components.getD {}) limit o.1 o.2.1
      o.2.2.1 o.2.2.2).Yields (operation o).1 (operation o).2 := by
  have hparts : MadeParts doc limit component operation ↔ _ ∧ _ :=
    ⟨fun h => ⟨h.shapes, h.operations⟩, fun h => ⟨h.1, h.2⟩⟩
  rw [hparts, List.forall₂_map_right_iff, List.forall₂_same, List.forall₂_map_right_iff,
    List.forall₂_same]

theorem MadeParts.assembledFrom (h : MadeParts doc limit component operation) :
    (Api.madeBy doc component operation).AssembledFrom doc limit
      (fun entry => (component entry).1) fun o => (operation o).1 := by
  obtain ⟨hcomponent, hoperation⟩ := madeParts_iff.mp h
  constructor
  · exact fun entry he => ⟨_, hcomponent entry he⟩
  · exact fun o ho => ⟨_, hoperation o ho⟩
  · exact fun entry he => componentBlock_forms (hcomponent entry he)
  · intro o ho
    obtain ⟨parts⟩ := resolveOperation_parts (hoperation o ho)
    exact ⟨parts.inputs, parts.declared_eq⟩
  · simp [Api.madeBy, Api.ofParts, List.flatMap_map]
  · simp [Api.madeBy, Api.ofParts]

theorem MadeParts.reordered (h : MadeParts doc limit component operation)
    (hr : doc.Reordered doc') (hk : doc.DistinctKeys) :
    MadeParts doc' limit component operation := by
  obtain ⟨hcomponent, hoperation⟩ := madeParts_iff.mp h
  refine madeParts_iff.mpr ⟨fun entry he => ?_, fun o ho => ?_⟩
  · exact hcomponent entry (hr.getD.schemas.mem_iff.mpr he)
  · rw [← resolveOperation_reordered hr.getD hk.getD]
    exact hoperation o ((operationsOf_perm hr.paths).mem_iff.mpr ho)

theorem roots_madeBy_perm (hr : doc.Reordered doc') :
    (Api.madeBy doc component operation).roots.Perm
      (Api.madeBy doc' component operation).roots := by
  have hs := (hr.getD.schemas.map component).map Prod.fst
  have ho := ((operationsOf_perm hr.paths).map operation).map Prod.fst
  exact ((hs.flatMap_right _).append (ho.flatMap_right _)).append ((ho.map _).filterMap _)

theorem exists_madeBy {api : Api} {ws : List Warning}
    (h : (Api.resolve doc limit).Yields api ws) :
    ∃ component operation, MadeParts doc limit component operation ∧
      api = Api.madeBy doc component operation := by
  have hunique {α β : Type} {resolve : α → Resolving β} :
      Relator.RightUnique fun a (r : β × List Warning) => (resolve a).Yields r.1 r.2 := by
    intro a r r' hr hr'
    obtain ⟨hvalue, hwarnings⟩ := hr.unique hr'
    exact Prod.ext hvalue hwarnings
  obtain ⟨shapes, operations, hparts, rfl, -⟩ := ofParts_of_resolve h
  obtain ⟨component, rfl, -⟩ := exists_eq_map_of_forall₂ hunique hparts.shapes
  obtain ⟨operation, rfl, -⟩ := exists_eq_map_of_forall₂ hunique hparts.operations
  exact ⟨component, operation, hparts, rfl⟩

/-- What a contract that resolves is made of makes up a contract that resolves in another order. -/
theorem MadeParts.resolve_reordered (h : MadeParts doc limit component operation)
    {ws : List Warning}
    (hy : (Api.resolve doc limit).Yields (Api.madeBy doc component operation) ws)
    (hr : doc.Reordered doc') (hk : doc.DistinctKeys) :
    ∃ ws', (Api.resolve doc' limit).Yields (Api.madeBy doc' component operation) ws' := by
  have hclosed : ∀ root ∈ (Api.madeBy doc' component operation).roots,
      root.ClosedUnder (ComponentName (doc'.components.getD {}).schemas limit) := by
    intro root hroot target ht
    apply ComponentName.of_perm hr.getD.schemas
    rcases ResolvesParts.resolve_cases h with ⟨hclosed, -⟩ | ⟨e, -, hf⟩
    · exact hclosed root ((roots_madeBy_perm hr).mem_iff.mpr hroot) target ht
    · exact absurd hf hy.not_failsWith
  rcases ResolvesParts.resolve_cases (h.reordered hr hk) with ⟨-, hy'⟩ | ⟨e, hfirst, -⟩
  · exact ⟨_, hy'⟩
  · exact absurd hclosed hfirst.not_closed

end Parts

/-- The order of components and paths does not decide whether a contract resolves, nor what becomes
of any of them. -/
theorem resolve_order_independent {doc doc' : Document} (hr : doc.Reordered doc')
    (hk : doc.DistinctKeys) (limit : Nat) :
    ((∃ api ws, (Api.resolve doc limit).Yields api ws) ↔
        ∃ api ws, (Api.resolve doc' limit).Yields api ws) ∧
      ∀ api ws api' ws', (Api.resolve doc limit).Yields api ws →
        (Api.resolve doc' limit).Yields api' ws' →
        ∃ component operation, api.AssembledFrom doc limit component operation ∧
          api'.AssembledFrom doc' limit component operation := by
  have hstep {doc doc' : Document} (hr : doc.Reordered doc') (hk : doc.DistinctKeys) {api : Api}
      {ws : List Warning} (h : (Api.resolve doc limit).Yields api ws) :
      ∃ api' ws', (Api.resolve doc' limit).Yields api' ws' ∧
        ∃ component operation, api.AssembledFrom doc limit component operation ∧
          api'.AssembledFrom doc' limit component operation := by
    obtain ⟨component, operation, hparts, rfl⟩ := exists_madeBy h
    obtain ⟨ws', hy⟩ := hparts.resolve_reordered h hr hk
    exact ⟨_, ws', hy, _, _, hparts.assembledFrom, (hparts.reordered hr hk).assembledFrom⟩
  constructor
  · constructor
    · rintro ⟨api, ws, h⟩
      obtain ⟨api', ws', h', -⟩ := hstep hr hk h
      exact ⟨api', ws', h'⟩
    · rintro ⟨api', ws', h'⟩
      obtain ⟨api, ws, h, -⟩ := hstep hr.symm (hr.distinctKeys hk) h'
      exact ⟨api, ws, h⟩
  · intro api ws api' ws' h h'
    obtain ⟨_, _, hy, hassembled⟩ := hstep hr hk h
    obtain ⟨rfl, -⟩ := h'.unique hy
    exact hassembled

def browse : Contract.Operation :=
  { operationId := some "browse"
    parameters :=
      [.ref ⟨"/components/parameters/size"⟩, .ref ⟨"/components/parameters/page"⟩]
    responses := [("200", .ref ⟨"/components/responses/Found"⟩)] }

def shelve : Contract.Operation :=
  { operationId := some "shelve"
    requestBody := some (.ref ⟨"/components/requestBodies/NewBook"⟩)
    responses := [("204", .inline {})] }

def jsonRef (name : String) : List (String × Contract.MediaType) :=
  [("application/json", { schema := some (.ref ⟨"/components/schemas/" ++ name⟩) })]

def integerSchema : Contract.Schema := { type := some .integer }

/-- Books and their authors refer to each other. -/
def catalogueParts : Components :=
  { schemas :=
      [("Book", .inline { properties := some [("by", .ref ⟨"/components/schemas/Author"⟩)] }),
       ("Author", .inline
        { type := some .array
          items := some (.inline
            { properties := some [("wrote", .ref ⟨"/components/schemas/Book"⟩)] }) })]
    parameters :=
      [("page", { name := "page", location := .query, schema := some (.inline integerSchema) }),
       ("size", { name := "size", location := .query, schema := some (.inline integerSchema) })]
    requestBodies :=
      [("NewAuthor", { content := jsonRef "Author" }), ("NewBook", { content := jsonRef "Book" })]
    responses := [("Found", { content := jsonRef "Book" }), ("Gone", {})] }

def catalogue : Document :=
  { components := some catalogueParts
    paths := [("/books", { get := some browse }), ("/shelf", { post := some shelve })] }

def catalogueReversed : Document :=
  { components := some
      { schemas := catalogueParts.schemas.reverse
        parameters := catalogueParts.parameters.reverse
        requestBodies := catalogueParts.requestBodies.reverse
        responses := catalogueParts.responses.reverse }
    paths := catalogue.paths.reverse }

theorem catalogue_reordered : catalogue.Reordered catalogueReversed := by
  refine ⟨rfl, rfl, (List.reverse_perm _).symm, .some ?_⟩
  constructor <;> exact (List.reverse_perm _).symm

/-- Both catalogues resolve, and the blocks of one are those of the other. -/
theorem catalogue_order_independent :
    catalogue.Reordered catalogueReversed ∧ catalogue.DistinctKeys ∧
      ∃ api ws api' ws', (Api.resolve catalogue 8).Yields api ws ∧
        (Api.resolve catalogueReversed 8).Yields api' ws' ∧
        api.schemas.map Shape.name =
          ["Book", "AuthorItem", "Author", "BrowseRequest", "ShelveRequest"] ∧
        ∃ component operation, api.AssembledFrom catalogue 8 component operation ∧
          api'.AssembledFrom catalogueReversed 8 component operation := by
  have hkeys : catalogue.DistinctKeys := by
    rintro _ ⟨⟩
    exact ⟨by decide, by decide, by decide⟩
  have hbooks : (resolvePath "browse" "/books").Yields [[.literal "books"]] [] :=
    resolvePath_yields_of_longest (by decide +kernel) _
  have hshelf : (resolvePath "shelve" "/shelf").Yields [[.literal "shelf"]] [] :=
    resolvePath_yields_of_longest (by decide +kernel) _
  have hbrowse : (resolveOperation catalogueParts 8 "/books" { get := some browse } .get
      browse).Yields (_, _) [] :=
    .through (a := "browse") rfl rfl hbooks rfl
  have hshelve : (resolveOperation catalogueParts 8 "/shelf" { post := some shelve } .post
      shelve).Yields (_, _) [] :=
    .through (a := "shelve") rfl rfl hshelf rfl
  have hparts : ResolvesParts catalogue 8 [(_, []), (_, [])] [(_, []), (_, [])] :=
    ⟨.cons rfl (.cons rfl .nil), .cons hbrowse (.cons hshelve .nil)⟩
  have h := hparts.resolve_yields rfl rfl
  obtain ⟨hiff, hblocks⟩ := resolve_order_independent catalogue_reordered hkeys 8
  obtain ⟨api', ws', h'⟩ := hiff.mp ⟨_, _, h⟩
  exact ⟨catalogue_reordered, hkeys, _, _, api', ws', h, h', rfl, hblocks _ _ _ _ h h'⟩

end ApiBindings.Model
