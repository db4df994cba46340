import ApiBindings.Proofs.ExportedNames
import ApiBindings.Proofs.Identifiers

namespace ApiBindings.TypeScript
open Model (Shape Site)

theorem mem_declarations_iff {s : Shape} {e : Exported} :
    e ∈ declarations s ↔ e = { declaration := shapeDeclaration s } ∨
      s.hoisted ≠ [] ∧ e = { declaration := .space s.name (allDeclarations s.hoisted) } := by
  rw [declarations_eq]
  cases hh : s.hoisted with
  | nil => simp
  | cons first rest => simp

theorem name_of_mem_declarations {s : Shape} {e : Exported} (h : e ∈ declarations s) :
    e.declaration.name = s.name := by
  rcases mem_declarations_iff.mp h with h | h
  · rw [h, name_shapeDeclaration]
  · rw [h.2, Declaration.name]

/-- All that stands in a module of schemas is a declaration of a shape, or its namespace. -/
theorem site_of_stands {top : List Shape} {blocks : List (List Exported)} {d : Declaration}
    (h : Stands (allDeclarations top) blocks d) :
    ∃ scopes s, Site top scopes s ∧ ∃ e ∈ declarations s, e.declaration = d := by
  induction h with
  | top he =>
    rw [allDeclarations_eq_flatMap] at he
    obtain ⟨s, hs, he⟩ := List.mem_flatMap.mp he
    exact ⟨[], s, .top hs, _, he, rfl⟩
  | inside _ he ih =>
    obtain ⟨scopes, s, hsite, space, hspace, hbody⟩ := ih
    -- Only the namespace of a shape has a body, and it declares the hoisted shapes.
    rcases mem_declarations_iff.mp hspace with hd | hd
    · subst hd
      have hno := (congrArg Declaration.isSpace hbody).symm.trans (isSpace_shapeDeclaration s)
      cases hno
    · rw [hd.2] at hbody
      cases hbody
      rw [allDeclarations_eq_flatMap] at he
      obtain ⟨inner, hi, he⟩ := List.mem_flatMap.mp he
      exact ⟨_, inner, .hoisted hsite hi, _, he, rfl⟩

theorem exists_site_of_encloses {top : List Shape} {scopes : List (List Shape)} {s d : Shape}
    (hs : Site top scopes s) (h : s.Encloses d) : ∃ inner, Site top inner d := by
  induction h generalizing scopes with
  | self => exact ⟨scopes, hs⟩
  | hoisted hh _ ih => exact ih (.hoisted hs hh)

/-- The names that are declared anywhere in a module of schemas are those that come with its
shapes. -/
theorem exists_stands_iff {top : List Shape} {name : String} :
    (∃ blocks d, Stands (schemasModule top).exported blocks d ∧ d.name = name) ↔
      ∃ root ∈ top, root.Declares name := by
  rw [exported_schemasModule]
  constructor
  · rintro ⟨blocks, d, hstands, hname⟩
    obtain ⟨scopes, s, hsite, e, he, rfl⟩ := site_of_stands hstands
    obtain ⟨root, hroot, hencloses⟩ := hsite.encloses
    exact ⟨root, hroot, s, hencloses, (name_of_mem_declarations he).symm.trans hname⟩
  · rintro ⟨root, hroot, d, hd, hname⟩
    obtain ⟨scopes, hsite⟩ := exists_site_of_encloses (.top hroot) hd
    have hmem : { declaration := shapeDeclaration d } ∈ declarations d :=
      mem_declarations_iff.mpr (.inl rfl)
    exact ⟨_, _, stands_of_site hsite _ hmem, (name_of_mem_declarations hmem).trans hname⟩

end ApiBindings.TypeScript

namespace ApiBindings.Model
open Contract (Document Components RefOr Parameter Response Schema SchemaNode Form NeedsDeclaration
  HoistedKey hoistedKey_inline_iff)
open Resolving TypeScript

/-- An operation of the contract has an input with the source and its schema. -/
def InputNode (doc : Document) (source : InputSource) (node : SchemaNode) : Prop :=
  ∃ o ∈ operationsOf doc.paths, ∃ given body,
    List.Forall₂ (Takes parametersSection (doc.components.getD {}).parameters)
      (o.2.1.parameters ++ o.2.2.2.parameters) given ∧
    Option.Rel (Takes requestBodiesSection (doc.components.getD {}).requestBodies)
      o.2.2.2.requestBody body ∧
    source ∈ InputSource.all (mergedParameters given) body ∧ source.schema = some node

theorem InputNode.schemaRoot {doc : Document} {source : InputSource} {node : SchemaNode}
    (h : InputNode doc source node) : SchemaRoot doc node := by
  obtain ⟨o, ho, given, body, hg, hb, hs, hn⟩ := h
  exact .input ho hg hb hs hn

/-- The names that a contract makes declarations of: at the top level, and in the namespaces of
envelopes and of other objects. -/
inductive DeclaredName (doc : Document) : String → Prop
  | component {key : String} (h : key ∈ (doc.components.getD {}).schemas.map Prod.fst) :
      DeclaredName doc key
  | item {key : String} (h : SplitKey doc key) : DeclaredName doc (key ++ "Item")
  | request {o : OperationEntry} (ho : o ∈ operationsOf doc.paths) :
      DeclaredName doc (Text.pascalCase (operationId o) ++ "Request")
  | response {stem : String} (h : AnsweredStem doc stem) : DeclaredName doc (stem ++ "Response")
  | input {source : InputSource} {node : SchemaNode} (h : InputNode doc source node)
      (hn : NeedsDeclaration node) : DeclaredName doc source.typeName
  | property {node : SchemaNode} {key : String} (h : SchemaRoot doc node)
      (hk : HoistedKey node key) : DeclaredName doc (Text.pascalCase key)

theorem declares_componentBlock_iff {shape : Shape} {name : String} :
    (∃ root ∈ componentBlock shape, root.Declares name) ↔
      name = shape.name ∨ shape.IsSplit ∧ name = shape.name ++ "Item" ∨
        shape.DeclaresInside name := by
  rcases componentBlock_cases shape with ⟨hno, hblock⟩ | ⟨hyes, hblock⟩
  · simp [hblock, hno, Shape.declares_iff, eq_comm]
  · have hitem : Shape.Declares { shape.declaration with name := shape.name ++ "Item" } name ↔
        name = shape.name ++ "Item" ∨ shape.DeclaresInside name := by
      rw [Shape.declares_iff, eq_comm]
      rfl
    have hlist : Shape.Declares
        { name := shape.name, repeated := true, kind := .reference (shape.name ++ "Item") } name ↔
          name = shape.name := by
      rw [Shape.declares_iff, eq_comm]
      simp [Shape.DeclaresInside, Shape.hoisted, Kind.hoisted]
    simp only [hblock, List.mem_cons, List.not_mem_nil, or_false, exists_eq_or_imp,
      exists_eq_left, hitem, hlist, hyes, true_and]
    tauto

theorem InputSource.Makes.declaresAs {limit : Nat} {source : InputSource}
    {input : String × Property} (h : source.Makes limit input) :
    ∃ node, source.schema = some node ∧ DeclaresAs source.typeName node input.2.shape := by
  obtain ⟨node, shape, ws, hn, hy, rfl⟩ := h
  exact ⟨node, hn, (resolveSchema_declaresAs hy).congr rfl rfl⟩

/-- An operation declares its envelope with the inputs that need it, and its response. -/
theorem OperationParts.declares_iff {components : Components} {limit : Nat}
    {entry : OperationEntry} {result : List Shape × Operation}
    (parts : OperationParts components limit entry result) {name : String} :
    (∃ root ∈ result.1, root.Declares name) ↔
      name = Text.pascalCase result.2.id ++ "Request" ∨
      (∃ input ∈ parts.inputs, input.2.shape.isHoistable = true ∧ input.2.shape.Declares name) ∨
      ∃ shape ∈ result.2.response, shape.isHoistable = true ∧ shape.Declares name := by
  have henvelope : (objectOf result.2.request parts.inputs).Declares name ↔
      name = Text.pascalCase result.2.id ++ "Request" ∨
        ∃ input ∈ parts.inputs, input.2.shape.isHoistable = true ∧ input.2.shape.Declares name := by
    rw [Shape.declares_iff, declaresInside_objectOf_iff, objectOf, parts.request,
      Text.pascalCase_request, eq_comm]
  constructor
  · rintro ⟨root, hm, hd⟩
    rw [parts.declared_eq, List.mem_append, List.mem_map, List.mem_singleton] at hm
    rcases hm with ⟨shape, hs, rfl⟩ | rfl
    · obtain ⟨hs, hh⟩ := List.mem_filter.mp hs
      exact .inr (.inr ⟨shape, Option.mem_toList.mp hs, hh, Shape.declares_declaration.mp hd⟩)
    · exact (henvelope.mp hd).imp id .inl
  · rintro (hd | hd | ⟨shape, hs, hh, hd⟩)
    · exact ⟨_, parts.envelope_mem, henvelope.mpr (.inl hd)⟩
    · exact ⟨_, parts.envelope_mem, henvelope.mpr (.inr hd)⟩
    · exact ⟨_, parts.response_mem hs hh, Shape.declares_declaration.mpr hd⟩

section Contract

variable {doc : Document} {limit : Nat} {shapes : List (Shape × List Warning)}
  {operations : List ((List Shape × Operation) × List Warning)}

/-- What is declared at the top level comes from a component or from an operation. -/
theorem exists_declares_ofParts_iff {name : String} :
    (∃ root ∈ (Api.ofParts doc (shapes.map Prod.fst) (operations.map Prod.fst)).schemas,
        root.Declares name) ↔
      (∃ r ∈ shapes, ∃ root ∈ componentBlock r.1, root.Declares name) ∨
        ∃ r ∈ operations, ∃ root ∈ r.1.1, root.Declares name := by
  simp only [Api.ofParts, List.mem_append, List.mem_flatMap, List.mem_map]
  constructor
  · rintro ⟨root, ⟨_, ⟨r, hr, rfl⟩, hm⟩ | ⟨_, ⟨r, hr, rfl⟩, hm⟩, hd⟩
    · exact .inl ⟨r, hr, root, hm, hd⟩
    · exact .inr ⟨r, hr, root, hm, hd⟩
  · rintro (⟨r, hr, root, hm, hd⟩ | ⟨r, hr, root, hm, hd⟩)
    · exact ⟨root, .inl ⟨_, ⟨r, hr, rfl⟩, hm⟩, hd⟩
    · exact ⟨root, .inr ⟨_, ⟨r, hr, rfl⟩, hm⟩, hd⟩

theorem ResolvesParts.declaredName_of_component (h : ResolvesParts doc limit shapes operations)
    {r : Shape × List Warning} (hr : r ∈ shapes) {name : String}
    (hd : ∃ root ∈ componentBlock r.1, root.Declares name) : DeclaredName doc name := by
  obtain ⟨entry, he, hy⟩ := exists_left_of_forall₂ h.shapes hr
  have hdeclares := resolveSchema_declaresAs hy
  rw [declares_componentBlock_iff, hdeclares.name_eq, hdeclares.inside_iff] at hd
  rcases hd with rfl | ⟨hs, rfl⟩ | ⟨key, hk, rfl⟩
  · exact .component (List.mem_map_of_mem he)
  · exact .item ⟨entry.2, he, (resolveSchema_isSplit_iff hy).mp hs⟩
  · exact .property (.component he) hk

theorem ResolvesParts.declaredName_of_operation (h : ResolvesParts doc limit shapes operations)
    {r : (List Shape × Operation) × List Warning} (hr : r ∈ operations) {name : String}
    (hd : ∃ root ∈ r.1.1, root.Declares name) : DeclaredName doc name := by
  obtain ⟨o, ho, hy⟩ := exists_left_of_forall₂ h.operations hr
  obtain ⟨parts⟩ := resolveOperation_parts hy
  rw [parts.declares_iff, resolveOperation_id hy] at hd
  rcases hd with rfl | ⟨input, hi, hh, hd⟩ | ⟨shape, hs, hh, hd⟩
  · exact .request ho
  · obtain ⟨source, hsource, hmakes⟩ := exists_left_of_forall₂ parts.makes_inputs hi
    obtain ⟨node, hn, hdeclares⟩ := hmakes.declaresAs
    have hnode : InputNode doc source node :=
      ⟨o, ho, _, _, parts.takes_parameters, parts.takes_body, hsource, hn⟩
    rw [Shape.declares_iff, hdeclares.name_eq, hdeclares.inside_iff] at hd
    rcases hd with rfl | ⟨key, hk, rfl⟩
    · exact .input hnode (hdeclares.needs_iff.mp hh)
    · exact .property hnode.schemaRoot hk
  · have hanswers := parts.response
    rw [Option.mem_def.mp hs] at hanswers
    cases hanswers with
    | content hc hcode ht hn hy' =>
      have hdeclares := resolveSchema_declaresAs hy'
      rw [Shape.declares_iff, hdeclares.name_eq, hdeclares.inside_iff,
        Text.pascalCase_response, resolveOperation_id hy] at hd
      rcases hd with rfl | ⟨key, hk, rfl⟩
      · exact .response ⟨o, ho, rfl, _, _, _, _, hc, hcode, ht, hn, hdeclares.needs_iff.mp hh⟩
      · exact .property (.response ho hc hcode ht hn) hk

/-- An input of the contract is one of a resolved operation. -/
theorem ResolvesParts.exists_input (h : ResolvesParts doc limit shapes operations)
    {source : InputSource} {node : SchemaNode} (hi : InputNode doc source node) :
    ∃ o ∈ operationsOf doc.paths, ∃ r ∈ operations,
      ∃ parts : OperationParts (doc.components.getD {}) limit o r.1,
      (resolveOperation (doc.components.getD {}) limit o.1 o.2.1 o.2.2.1 o.2.2.2).Yields r.1 r.2 ∧
      ∃ input ∈ parts.inputs, source.Makes limit input := by
  obtain ⟨o, ho, given, body, hg, hb, hs, -⟩ := hi
  obtain ⟨r, hr, hy⟩ := exists_right_of_forall₂ h.operations ho
  obtain ⟨parts⟩ := resolveOperation_parts hy
  -- The parameters and the body are the ones that the operation was resolved with.
  obtain rfl := List.right_unique_forall₂' Takes.unique hg parts.takes_parameters
  obtain rfl := rightUnique_optionRel Takes.unique hb parts.takes_body
  exact ⟨o, ho, r, hr, parts, hy, exists_right_of_forall₂ parts.makes_inputs hs⟩

theorem ResolvesParts.exists_response (h : ResolvesParts doc limit shapes operations)
    {o : OperationEntry} (ho : o ∈ operationsOf doc.paths) {code : String}
    {place : RefOr Response} {response : Response} {node : SchemaNode}
    (hc : chosenResponse? o.2.2.1 o.2.2.2.responses = some (code, place)) (hcode : code ≠ "204")
    (ht : Takes responsesSection (doc.components.getD {}).responses place response)
    (hn : jsonSchema? response.content = some node) :
    ∃ r ∈ operations, Nonempty (OperationParts (doc.components.getD {}) limit o r.1) ∧
      (resolveOperation (doc.components.getD {}) limit o.1 o.2.1 o.2.2.1 o.2.2.2).Yields r.1 r.2 ∧
      ∃ shape ws, (resolveSchema (Text.pascalCase (operationId o) ++ "Response") node limit).Yields
        shape ws ∧ r.1.2.response = some shape := by
  obtain ⟨r, hr, hy⟩ := exists_right_of_forall₂ h.operations ho
  obtain ⟨parts⟩ := resolveOperation_parts hy
  obtain ⟨response', node', shape, ws, ht', hn', hs, hanswer⟩ :=
    parts.response.exists_content hc hcode
  obtain rfl := Takes.unique ht ht'
  obtain rfl := Option.some.inj (hn.symm.trans hn')
  rw [Text.pascalCase_response, resolveOperation_id hy] at hs
  exact ⟨r, hr, ⟨parts⟩, hy, shape, ws, hs, hanswer⟩

/-- The schema of an input resolves, and its envelope declares what comes with it if it needs a
declaration. -/
theorem ResolvesParts.input_declares (h : ResolvesParts doc limit shapes operations)
    {source : InputSource} {node : SchemaNode} (hi : InputNode doc source node) :
    ∃ shape, DeclaresAs source.typeName node shape ∧
      ∀ name, shape.isHoistable = true → shape.Declares name →
        ∃ r ∈ operations, ∃ root ∈ r.1.1, root.Declares name := by
  obtain ⟨o, -, r, hr, parts, -, input, hm, hmakes⟩ := h.exists_input hi
  obtain ⟨-, -, -, -, -, -, -, hn⟩ := hi
  obtain ⟨node', hn', hdeclares⟩ := hmakes.declaresAs
  obtain rfl := Option.some.inj (hn.symm.trans hn')
  refine ⟨_, hdeclares, fun name hh hd => ⟨r, hr, ?_⟩⟩
  exact parts.declares_iff.mpr (.inr (.inl ⟨input, hm, hh, hd⟩))

theorem ResolvesParts.response_declares (h : ResolvesParts doc limit shapes operations)
    {o : OperationEntry} (ho : o ∈ operationsOf doc.paths) {code : String}
    {place : RefOr Response} {response : Response} {node : SchemaNode}
    (hc : chosenResponse? o.2.2.1 o.2.2.2.responses = some (code, place)) (hcode : code ≠ "204")
    (ht : Takes responsesSection (doc.components.getD {}).responses place response)
    (hn : jsonSchema? response.content = some node) :
    ∃ shape, DeclaresAs (Text.pascalCase (operationId o) ++ "Response") node shape ∧
      ∀ name, shape.isHoistable = true → shape.Declares name →
        ∃ r ∈ operations, ∃ root ∈ r.1.1, root.Declares name := by
  obtain ⟨r, hr, ⟨parts⟩, -, shape, ws, hs, hanswer⟩ :=
    h.exists_response ho hc hcode ht hn
  refine ⟨shape, resolveSchema_declaresAs hs, fun name hh hd => ⟨r, hr, ?_⟩⟩
  exact parts.declares_iff.mpr (.inr (.inr ⟨shape, hanswer, hh, hd⟩))

theorem ResolvesParts.declares_of_hoistedKey (h : ResolvesParts doc limit shapes operations)
    {node : SchemaNode} (hn : SchemaRoot doc node) {key : String} (hk : HoistedKey node key) :
    (∃ r ∈ shapes, ∃ root ∈ componentBlock r.1, root.Declares (Text.pascalCase key)) ∨
      ∃ r ∈ operations, ∃ root ∈ r.1.1, root.Declares (Text.pascalCase key) := by
  cases hn with
  | component he =>
    obtain ⟨r, hr, hy⟩ := exists_right_of_forall₂ h.shapes he
    have hinside := ((resolveSchema_declaresAs hy).inside_iff _).mpr ⟨key, hk, rfl⟩
    exact .inl ⟨r, hr, declares_componentBlock_iff.mpr (.inr (.inr hinside))⟩
  | input ho hg hb hs hn =>
    obtain ⟨shape, hdeclares, hall⟩ := h.input_declares ⟨_, ho, _, _, hg, hb, hs, hn⟩
    have hinside := (hdeclares.inside_iff _).mpr ⟨key, hk, rfl⟩
    have hh := Shape.isHoistable_of_declaresInside hinside
    exact .inr (hall _ hh (Shape.declares_iff.mpr (.inr hinside)))
  | response ho hc hcode ht hn =>
    obtain ⟨shape, hdeclares, hall⟩ := h.response_declares ho hc hcode ht hn
    have hinside := (hdeclares.inside_iff _).mpr ⟨key, hk, rfl⟩
    have hh := Shape.isHoistable_of_declaresInside hinside
    exact .inr (hall _ hh (Shape.declares_iff.mpr (.inr hinside)))

theorem ResolvesParts.declares_of_declaredName (h : ResolvesParts doc limit shapes operations)
    {name : String} (hd : DeclaredName doc name) :
    (∃ r ∈ shapes, ∃ root ∈ componentBlock r.1, root.Declares name) ∨
      ∃ r ∈ operations, ∃ root ∈ r.1.1, root.Declares name := by
  cases hd with
  | component hk =>
    obtain ⟨entry, he, rfl⟩ := List.mem_map.mp hk
    obtain ⟨r, hr, hy⟩ := exists_right_of_forall₂ h.shapes he
    refine .inl ⟨r, hr, declares_componentBlock_iff.mpr (.inl ?_)⟩
    exact (resolveSchema_name hy).symm
  | item hk =>
    obtain ⟨node, he, hs⟩ := hk
    obtain ⟨r, hr, hy⟩ := exists_right_of_forall₂ h.shapes he
    refine .inl ⟨r, hr, declares_componentBlock_iff.mpr (.inr (.inl ?_))⟩
    exact ⟨(resolveSchema_isSplit_iff hy).mpr hs, by rw [resolveSchema_name hy]⟩
  | request ho =>
    obtain ⟨r, hr, hy⟩ := exists_right_of_forall₂ h.operations ho
    obtain ⟨parts⟩ := resolveOperation_parts hy
    refine .inr ⟨r, hr, parts.declares_iff.mpr (.inl ?_)⟩
    rw [resolveOperation_id hy]
  | response hs =>
    obtain ⟨o, ho, rfl, code, place, response, node, hc, hcode, ht, hn, hneeds⟩ := hs
    obtain ⟨shape, hdeclares, hall⟩ := h.response_declares ho hc hcode ht hn
    refine .inr (hall _ (hdeclares.needs_iff.mpr hneeds) ?_)
    exact Shape.declares_iff.mpr (.inl hdeclares.name_eq)
  | input hi hneeds =>
    obtain ⟨shape, hdeclares, hall⟩ := h.input_declares hi
    refine .inr (hall _ (hdeclares.needs_iff.mpr hneeds) ?_)
    exact Shape.declares_iff.mpr (.inl hdeclares.name_eq)
  | property hn hk => exact h.declares_of_hoistedKey hn hk

/-- The names declared in the module of schemas are those that the contract makes. -/
theorem exists_stands_iff_declaredName {api : Api} {ws : List Warning}
    (h : (Api.resolve doc limit).Yields api ws) {name : String} :
    (∃ blocks d, Stands (schemasModule api.schemas).exported blocks d ∧ d.name = name) ↔
      DeclaredName doc name := by
  obtain ⟨shapes, operations, hparts, rfl, -⟩ := ofParts_of_resolve h
  rw [exists_stands_iff, exists_declares_ofParts_iff]
  constructor
  · rintro (⟨r, hr, hd⟩ | ⟨r, hr, hd⟩)
    · exact hparts.declaredName_of_component hr hd
    · exact hparts.declaredName_of_operation hr hd
  · exact hparts.declares_of_declaredName

end Contract

/-- The texts from which declarations get their names can be written as such. -/
structure SpellsIdentifiers (doc : Document) : Prop where
  keys : ∀ key ∈ (doc.components.getD {}).schemas.map Prod.fst, Text.isIdentifier key = true
  operations : ∀ o ∈ operationsOf doc.paths, Text.pascalCase (operationId o) = "" ∨
    Text.isIdentifier (Text.pascalCase (operationId o)) = true
  inputs : ∀ source node, InputNode doc source node → NeedsDeclaration node →
    Text.isIdentifier source.typeName = true
  properties : ∀ node key, SchemaRoot doc node → HoistedKey node key →
    Text.isIdentifier (Text.pascalCase key) = true

theorem forall_declaredName_iff {doc : Document} :
    (∀ name, DeclaredName doc name → Text.isIdentifier name = true) ↔ SpellsIdentifiers doc := by
  have hitem : Text.isIdentifier "Item" = true := by decide
  have hrequest : Text.isIdentifier "Request" = true := by decide
  have hresponse : Text.isIdentifier "Response" = true := by decide
  constructor
  · intro h
    constructor
    · exact fun key hk => h key (.component hk)
    · exact fun o ho => (Text.isIdentifier_append_iff hrequest).mp (h _ (.request ho))
    · exact fun source node hi hn => h _ (.input hi hn)
    · exact fun node key hn hk => h _ (.property hn hk)
  · intro h name hd
    cases hd with
    | component hk => exact h.keys _ hk
    | item hk =>
      obtain ⟨node, he, -⟩ := hk
      apply (Text.isIdentifier_append_iff hitem).mpr
      exact .inr (h.keys _ (List.mem_map_of_mem he))
    | request ho => exact (Text.isIdentifier_append_iff hrequest).mpr (h.operations _ ho)
    | response hs =>
      obtain ⟨o, ho, rfl, -⟩ := hs
      exact (Text.isIdentifier_append_iff hresponse).mpr (h.operations o ho)
    | input hi hn => exact h.inputs _ _ hi hn
    | property hn hk => exact h.properties _ _ hn hk

/-- In a contract that resolves, all declarations in the module of schemas, at any depth, have names
that are identifiers just when the texts are from which they are made: keys of components,
capitalised names of operations, and capitalised keys of what is declared in namespaces. -/
theorem declared_names_identifiers_iff {doc : Document} {limit : Nat} {api : Api}
    {ws : List Warning} (h : (Api.resolve doc limit).Yields api ws) :
    (∀ blocks d, Stands (schemasModule api.schemas).exported blocks d →
        d.name ≠ "" ∧ Text.isIdentifier d.name = true) ↔ SpellsIdentifiers doc := by
  have hempty : ∀ name : String, Text.isIdentifier name = true → name ≠ "" := by
    rintro name hi rfl
    exact absurd hi (by decide)
  rw [← forall_declaredName_iff]
  constructor
  · intro hall name hd
    obtain ⟨blocks, d, hs, rfl⟩ := (exists_stands_iff_declaredName h).mpr hd
    exact (hall blocks d hs).2
  · intro hall blocks d hs
    have hi := hall d.name ((exists_stands_iff_declaredName h).mp ⟨blocks, d, hs, rfl⟩)
    exact ⟨hempty _ hi, hi⟩

def sortBy : Parameter :=
  { name := "sort by", location := .query
    schema := some (.inline { enum := some [.string "date", .string "price"] }) }

def searchOrders : Contract.Operation :=
  { operationId := some "search-orders", parameters := [.inline sortBy]
    responses := [("204", .inline {})] }

def orders : Document :=
  { components := some
      { schemas :=
          [("Order", .inline
            { properties := some
                [("line-items", .inline
                  { type := some .array
                    items := some (.inline
                      { properties := some [("sku", .inline { type := some .string })] }) })] })] }
    paths := [("/orders", { post := some searchOrders })] }

/-- All names of the orders are identifiers, also the two that are declared in namespaces. -/
theorem orders_names_identifiers : ∃ api, (Api.resolve orders 8).Yields api [] ∧
    (∃ blocks d, Stands (schemasModule api.schemas).exported blocks d ∧ d.name = "LineItems") ∧
    (∃ blocks d, Stands (schemasModule api.schemas).exported blocks d ∧ d.name = "SortBy") ∧
    ∀ blocks d, Stands (schemasModule api.schemas).exported blocks d →
      d.name ≠ "" ∧ Text.isIdentifier d.name = true := by
  have hpath : (resolvePath "search-orders" "/orders").Yields [[.literal "orders"]] [] :=
    resolvePath_yields_of_longest (by decide +kernel) _
  have hsearch : (resolveOperation (orders.components.getD {}) 8 "/orders"
      { post := some searchOrders } .post searchOrders).Yields (_, _) [] :=
    .through (a := "search-orders") rfl rfl hpath rfl
  have hparts : ResolvesParts orders 8 [(_, [])] [(_, [])] := ⟨.cons rfl .nil, .cons hsearch .nil⟩
  have h := hparts.resolve_yields rfl rfl
  have hoperations : operationsOf orders.paths =
      [("/orders", { post := some searchOrders }, .post, searchOrders)] := rfl
  have hinput : ∀ source node, InputNode orders source node →
      source.typeName = Text.pascalCase "sort by" ∧ ¬ ∃ key, HoistedKey node key := by
    rintro source node ⟨o, ho, given, body, hg, hb, hs, hn⟩
    rw [hoperations, List.mem_singleton] at ho
    subst ho
    cases hg with
    | cons ht hrest =>
      cases hrest
      cases ht
      cases hb
      obtain rfl := List.mem_singleton.mp hs
      cases hn
      refine ⟨rfl, fun hk => ?_⟩
      obtain ⟨key, hk⟩ := hk
      simp [hoistedKey_inline_iff, Schema.form, Form.children] at hk
  have hlines : DeclaredName orders (Text.pascalCase "line-items") :=
    .property (.component (.head _)) ⟨_, _, _, .self _, rfl, .head _, .array rfl (.object rfl)⟩
  have hsort : DeclaredName orders (Text.pascalCase "sort by") :=
    .input ⟨("/orders", { post := some searchOrders }, .post, searchOrders), .head _, [sortBy],
      none, .cons rfl .nil, .none, .head _, rfl⟩ (.enum rfl)
  have hlinesName : Text.pascalCase "line-items" = "LineItems" := by decide +kernel
  have hsortName : Text.pascalCase "sort by" = "SortBy" := by decide +kernel
  rw [hlinesName] at hlines
  rw [hsortName] at hsort
  refine ⟨_, h, (exists_stands_iff_declaredName h).mpr hlines,
    (exists_stands_iff_declaredName h).mpr hsort, (declared_names_identifiers_iff h).mpr ?_⟩
  constructor
  · decide
  · intro o ho
    rw [hoperations, List.mem_singleton] at ho
    rw [ho]
    decide +kernel
  · intro source node hi _
    rw [(hinput source node hi).1, hsortName]
    decide
  · intro node key hr hk
    cases hr with
    | component he =>
      obtain rfl := List.mem_singleton.mp he
      have hkey : key = "line-items" ∨ key = "sku" := by
        simp [hoistedKey_inline_iff, Schema.form, Form.children] at hk
        exact hk.imp And.left And.left
      rcases hkey with hkey | hkey
      · rw [hkey, hlinesName]
        decide
      · rw [hkey]
        decide +kernel
    | input ho hg hb hs hn => exact absurd ⟨key, hk⟩ (hinput _ _ ⟨_, ho, _, _, hg, hb, hs, hn⟩).2
    | response ho hc hcode ht hn =>
      rw [hoperations, List.mem_singleton] at ho
      subst ho
      cases hc
      exact absurd rfl hcode

/-- A component whose key has a dash, with a property whose key starts with a digit. -/
def misspelled : Document :=
  { components := some
      { schemas :=
          [("pet-store", .inline
            { properties := some [("2d", .inline { properties := some [] })] })] } }

/-- The contract resolves without a warning, though neither name can be written. -/
theorem misspelled_names_not_identifiers : ∃ api, (Api.resolve misspelled 8).Yields api [] ∧
    (∃ blocks d, Stands (schemasModule api.schemas).exported blocks d ∧ d.name = "pet-store") ∧
    (∃ blocks d, Stands (schemasModule api.schemas).exported blocks d ∧ d.name = "2d") ∧
    Text.isIdentifier "pet-store" = false ∧ Text.isIdentifier "2d" = false := by
  have h : (Api.resolve misspelled 8).Yields _ [] := rfl
  have hinside : DeclaredName misspelled (Text.pascalCase "2d") :=
    .property (.component (.head _)) ⟨_, _, _, .self _, rfl, .head _, .object rfl⟩
  have hname : Text.pascalCase "2d" = "2d" := by decide +kernel
  rw [hname] at hinside
  refine ⟨_, h, (exists_stands_iff_declaredName h).mpr (.component (.head _)),
    (exists_stands_iff_declaredName h).mpr hinside, by decide, by decide⟩

end ApiBindings.Model
