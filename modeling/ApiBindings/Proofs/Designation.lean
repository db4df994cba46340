import ApiBindings.Proofs.OperationParts
import ApiBindings.Proofs.PointerTokens
import ApiBindings.Proofs.ReferenceClosure

namespace ApiBindings.Model
open Contract (Document Components RefOr Parameter RequestBody Response SchemaNode Pointer Reaches)
open Resolving

inductive Section where
  | schemas
  | parameters
  | requestBodies
  | responses
  deriving DecidableEq

namespace Section

def text : Section → String
  | .schemas => schemasSection
  | .parameters => parametersSection
  | .requestBodies => requestBodiesSection
  | .responses => responsesSection

/-- The pointer is that of the section's entry with the key. -/
def Designates (sec : Section) (p : Pointer) (key : String) : Prop :=
  p.text = sec.text ++ String.ofList (Pointer.escape key.toList)

/-- One token follows the section in the pointer. -/
def IsDirect (sec : Section) (p : Pointer) : Prop :=
  '/' ∉ p.text.toList.drop sec.text.toList.length

theorem toList_text (sec : Section) :
    ∃ front, sec.text.toList = front ++ ['/'] ∧ '~' ∉ sec.text.toList := by
  cases sec
  · exact ⟨"/components/schemas".toList, by decide +kernel, by decide +kernel⟩
  · exact ⟨"/components/parameters".toList, by decide +kernel, by decide +kernel⟩
  · exact ⟨"/components/requestBodies".toList, by decide +kernel, by decide +kernel⟩
  · exact ⟨"/components/responses".toList, by decide +kernel, by decide +kernel⟩

theorem name_eq {sec : Section} {p : Pointer} {token : List Char}
    (h : p.text.toList = sec.text.toList ++ token) (ht : '/' ∉ token) :
    p.name = String.ofList (Pointer.unescape token) := by
  obtain ⟨front, hfront, -⟩ := sec.toList_text
  rw [Pointer.name, h, hfront, List.append_assoc, List.singleton_append,
    Pointer.afterLast_append ht]

theorem Designates.isDirect {sec : Section} {p : Pointer} {key : String}
    (h : sec.Designates p key) : sec.IsDirect p := by
  rw [IsDirect, h, String.toList_append, String.toList_ofList, List.drop_left]
  exact Pointer.slash_not_mem_escape _

theorem Designates.name_eq {sec : Section} {p : Pointer} {key : String}
    (h : sec.Designates p key) : p.name = key := by
  have htext : p.text.toList = sec.text.toList ++ Pointer.escape key.toList := by
    rw [h, String.toList_append, String.toList_ofList]
  rw [Section.name_eq htext (Pointer.slash_not_mem_escape _), Pointer.unescape_escape,
    String.ofList_toList]

theorem IsDirect.designates {sec : Section} {p : Pointer} (h : sec.IsDirect p)
    (hv : Pointer.isValid p.text.toList = true) (hin : p.isIn sec.text = true) :
    sec.Designates p p.name := by
  obtain ⟨token, htext⟩ := List.isPrefixOf_iff_prefix.mp hin
  have hslash : '/' ∉ token := by
    rw [IsDirect, ← htext, List.drop_left] at h
    exact h
  have hvalid : Pointer.escapesAreValid token = true := by
    obtain ⟨-, -, htilde⟩ := sec.toList_text
    rw [Pointer.isValid, Bool.and_eq_true, ← htext, Pointer.escapesAreValid_append htilde] at hv
    exact hv.2
  apply String.toList_injective
  rw [Section.name_eq htext.symm hslash, String.toList_append, String.toList_ofList,
    String.toList_ofList, Pointer.escape_unescape hvalid hslash, htext]

end Section

/-- The schemas of a contract that are resolved: those of the components, of the inputs of
operations and of their responses. -/
inductive SchemaRoot (doc : Document) : SchemaNode → Prop
  | component {entry : String × SchemaNode} (he : entry ∈ (doc.components.getD {}).schemas) :
      SchemaRoot doc entry.2
  | input {o : OperationEntry} {given : List Parameter} {body : Option RequestBody}
      {source : InputSource} {node : SchemaNode}
      (ho : o ∈ operationsOf doc.paths)
      (hg : List.Forall₂ (Takes parametersSection (doc.components.getD {}).parameters)
        (o.2.1.parameters ++ o.2.2.2.parameters) given)
      (hb : Option.Rel (Takes requestBodiesSection (doc.components.getD {}).requestBodies)
        o.2.2.2.requestBody body)
      (hs : source ∈ InputSource.all (mergedParameters given) body)
      (hn : source.schema = some node) : SchemaRoot doc node
  | response {o : OperationEntry} {code : String} {place : RefOr Response} {response : Response}
      {node : SchemaNode}
      (ho : o ∈ operationsOf doc.paths)
      (hc : chosenResponse? o.2.2.1 o.2.2.2.responses = some (code, place)) (hcode : code ≠ "204")
      (ht : Takes responsesSection (doc.components.getD {}).responses place response)
      (hn : jsonSchema? response.content = some node) : SchemaRoot doc node

/-- The references that resolution follows, with the section that each has to lead into. -/
inductive Follows (doc : Document) : Section → Pointer → Prop
  | schema {node : SchemaNode} {p : Pointer} (hn : SchemaRoot doc node)
      (h : Reaches node (.ref p)) : Follows doc .schemas p
  | parameter {o : OperationEntry} {p : Pointer} (ho : o ∈ operationsOf doc.paths)
      (h : .ref p ∈ o.2.1.parameters ++ o.2.2.2.parameters) : Follows doc .parameters p
  | requestBody {o : OperationEntry} {p : Pointer} (ho : o ∈ operationsOf doc.paths)
      (h : o.2.2.2.requestBody = some (.ref p)) :
      Follows doc .requestBodies p
  | response {o : OperationEntry} {code : String} {p : Pointer}
      (ho : o ∈ operationsOf doc.paths)
      (h : chosenResponse? o.2.2.1 o.2.2.2.responses = some (code, .ref p)) (hcode : code ≠ "204") :
      Follows doc .responses p

/-- What the reference is looked up as is the value of the entry with the key. -/
def TakesEntry {α : Type} (sectionText : String) (entries : List (String × α)) (p : Pointer)
    (key : String) : Prop :=
  ∃ value, entries.lookup key = some value ∧
    ∀ missing, (lookup sectionText entries missing (.ref p)).Yields value []

/-- The reference is read as the entry with the key: it takes the entry's value or, in schemas,
refers to a name that no other entry declares. -/
def UsesEntry (components : Components) (limit : Nat) (p : Pointer) (key : String) : Section → Prop
  | .schemas => key ∈ components.schemas.map Prod.fst ∧
      ∀ entry ∈ components.schemas, ∀ shape ws,
        (resolveSchema entry.1 entry.2 limit).Yields shape ws →
        p.name ∈ (componentBlock shape).map Shape.name → entry.1 = key
  | .parameters => TakesEntry parametersSection components.parameters p key
  | .requestBodies => TakesEntry requestBodiesSection components.requestBodies p key
  | .responses => TakesEntry responsesSection components.responses p key

/-- The name is that of the items of a split component. -/
def NamesItems (schemas : List (String × SchemaNode)) (limit : Nat) (name : String) : Prop :=
  ∃ entry ∈ schemas, ∃ shape ws, (resolveSchema entry.1 entry.2 limit).Yields shape ws ∧
    shape.IsSplit ∧ name = entry.1 ++ "Item"

section Refers

/-- A composition refers to what its members do, also where that has moved up to it. -/
theorem refers_composed {make : List Shape → List Shape → Kind}
    (hmake : ∀ name members hoisted,
      Shape.children { name, kind := make members hoisted } = members ++ hoisted)
    (name : String) {members : List Shape} {m : Shape} (hm : m ∈ members) {target : String}
    (h : m.Refers target) : (composed make name members).Refers target := by
  have hkept : { m with kind := m.kind.withoutHoisted } ∈
      (composed make name members).children := by
    rw [composed, hmake]
    exact List.mem_append_left _ (List.mem_map_of_mem hm)
  cases h with
  | here hk => exact .inside hkept (.here (by rw [hk]; rfl))
  | inside hc hr =>
    rw [m.children_eq, List.mem_append] at hc
    rcases hc with hc | hc
    · exact .inside hkept (.inside hc hr)
    · refine .inside ?_ hr
      rw [composed, hmake]
      exact List.mem_append_right _ (List.mem_flatMap_of_mem hm hc)

/-- The references that the meaning of a schema rests on all lead into the schemas, and what the
schema resolves to refers to their names. -/
theorem resolveSchema_refers {limit : Nat} {name : String} {node : SchemaNode} {shape : Shape}
    {ws : List Warning} (h : (resolveSchema name node limit).Yields shape ws) {p : Pointer}
    (hr : Reaches node (.ref p)) : p.isIn schemasSection = true ∧ shape.Refers p.name := by
  refine resolveNode_induction (P := fun _ node shape _ => ∀ p, Reaches node (.ref p) →
    p.isIn schemasSection = true ∧ shape.Refers p.name)
    ?reference ?allOf ?oneOf ?enum ?array ?object ?scalar h p hr
  case reference =>
    intro name q hq p hr
    cases hr
    exact ⟨hq, .here rfl⟩
  case allOf | oneOf =>
    intro name s nodes results hform hall p hr
    cases hr with
    | child hi hr =>
      rw [hform] at hi
      obtain ⟨r, hm, ih⟩ := exists_right_of_forall₂ hall hi
      obtain ⟨hin, hrefers⟩ := ih p hr
      exact ⟨hin, refers_composed (fun _ _ _ => rfl) name (List.mem_map_of_mem hm) hrefers⟩
  case enum | scalar =>
    -- No nodes are inside.
    intro name s _ _ hform _ p hr
    cases hr with
    | child hi _ =>
      rw [hform] at hi
      cases hi
  case array =>
    intro name s item shape ws hform _ ih p hr
    cases hr with
    | child hi hr =>
      rw [hform] at hi
      obtain rfl := List.mem_singleton.mp hi
      obtain ⟨hin, hrefers⟩ := ih p hr
      exact ⟨hin, hrefers.congr rfl⟩
  case object =>
    intro name s properties results hform hall p hr
    cases hr with
    | child hi hr =>
      rw [hform] at hi
      obtain ⟨entry, he, rfl⟩ := List.mem_map.mp hi
      obtain ⟨r, hm, shape, hshape, ih⟩ := exists_right_of_forall₂ hall he
      obtain ⟨hin, hrefers⟩ := ih p hr
      refine ⟨hin, .inside (c := r.1.2.shape) ?_ ?_⟩
      · apply List.mem_append_left
        exact List.mem_map_of_mem (List.mem_map_of_mem hm)
      · rw [hshape]
        exact hrefers.congr rfl

end Refers

section Contract

variable {doc : Document} {limit : Nat} {shapes : List (Shape × List Warning)}
  {operations : List ((List Shape × Operation) × List Warning)}

theorem exists_kind_mem_componentBlock (s : Shape) : ∃ b ∈ componentBlock s, b.kind = s.kind := by
  rcases componentBlock_cases s with h | h
  · rw [h.2]
    exact ⟨_, .head _, rfl⟩
  · rw [h.2]
    exact ⟨_, .head _, rfl⟩

theorem rightUnique_optionRel {α β : Type} {r : α → β → Prop} (h : Relator.RightUnique r) :
    Relator.RightUnique (Option.Rel r) := by
  intro a b c hb hc
  cases hb with
  | none => cases hc; rfl
  | some hb =>
    cases hc with
    | some hc => rw [h hb hc]

theorem ResolvesParts.refers (h : ResolvesParts doc limit shapes operations) {node : SchemaNode}
    (hn : SchemaRoot doc node) {p : Pointer} (hr : Reaches node (.ref p)) :
    p.isIn schemasSection = true ∧
      ∃ root ∈ (Api.ofParts doc (shapes.map Prod.fst) (operations.map Prod.fst)).roots,
        root.Refers p.name := by
  cases hn with
  | component he =>
    obtain ⟨r, hm, hy⟩ := exists_right_of_forall₂ h.shapes he
    obtain ⟨hin, hrefers⟩ := resolveSchema_refers hy hr
    obtain ⟨b, hb, hkind⟩ := exists_kind_mem_componentBlock r.1
    refine ⟨hin, b, ?_, hrefers.congr hkind.symm⟩
    apply List.mem_append_left
    apply List.mem_append_left
    exact List.mem_flatMap_of_mem (List.mem_map_of_mem hm) hb
  | input ho hg hb hs hnode =>
    obtain ⟨r, hm, ⟨parts⟩⟩ := exists_right_of_forall₂ h.operationParts ho
    -- The parameters and the body are the ones that the operation was resolved with.
    obtain rfl := List.right_unique_forall₂' Takes.unique hg parts.takes_parameters
    obtain rfl := rightUnique_optionRel Takes.unique hb parts.takes_body
    obtain ⟨input, hi, node', shape, _, hnode', hshape, hinput⟩ :=
      exists_right_of_forall₂ parts.makes_inputs hs
    obtain rfl := Option.some.inj (hnode.symm.trans hnode')
    obtain ⟨hin, hrefers⟩ := resolveSchema_refers hshape hr
    have hkind : shape.kind = input.2.shape.kind := by
      rw [hinput]
      rfl
    have hchild : input.2.shape ∈ (objectOf r.1.2.request parts.inputs).children :=
      List.mem_append_left _ (List.mem_map_of_mem hi)
    refine ⟨hin, _, List.mem_append_left _ ?_, .inside hchild (hrefers.congr hkind)⟩
    have hresult : r.1 ∈ operations.map Prod.fst := List.mem_map_of_mem hm
    exact declared_subset_schemas doc _ hresult parts.envelope_mem
  | response ho hc hcode ht hnode =>
    obtain ⟨r, hm, ⟨parts⟩⟩ := exists_right_of_forall₂ h.operationParts ho
    obtain ⟨_, _, shape, _, ht', hnode', hshape, hanswer⟩ := parts.response.exists_content hc hcode
    obtain rfl := Takes.unique ht ht'
    obtain rfl := Option.some.inj (hnode.symm.trans hnode')
    obtain ⟨hin, hrefers⟩ := resolveSchema_refers hshape hr
    refine ⟨hin, shape, List.mem_append_right _ ?_, hrefers⟩
    exact List.mem_filterMap.mpr ⟨r.1.2, List.mem_map_of_mem (List.mem_map_of_mem hm), hanswer⟩

theorem ResolvesParts.closed (h : ResolvesParts doc limit shapes operations) {api : Api}
    {ws : List Warning} (hy : (Api.resolve doc limit).Yields api ws) :
    ∀ root ∈ (Api.ofParts doc (shapes.map Prod.fst) (operations.map Prod.fst)).roots,
      root.ClosedUnder (ComponentName (doc.components.getD {}).schemas limit) := by
  rcases h.resolve_cases with h | ⟨e, -, hf⟩
  · exact h.1
  · exact absurd hf hy.not_failsWith

/-- What a reference that was followed has led to. -/
def Found (components : Components) (limit : Nat) (p : Pointer) : Section → Prop
  | .schemas => p.isIn schemasSection = true ∧ ComponentName components.schemas limit p.name
  | .parameters => ∃ value, Takes parametersSection components.parameters (.ref p) value
  | .requestBodies => ∃ value, Takes requestBodiesSection components.requestBodies (.ref p) value
  | .responses => ∃ value, Takes responsesSection components.responses (.ref p) value

theorem found_of_follows {api : Api} {ws : List Warning}
    (h : (Api.resolve doc limit).Yields api ws) {sec : Section} {p : Pointer}
    (hf : Follows doc sec p) : Found (doc.components.getD {}) limit p sec := by
  obtain ⟨shapes, operations, hparts, -, -⟩ := ofParts_of_resolve h
  cases hf with
  | schema hn hr =>
    obtain ⟨hin, root, hroot, hrefers⟩ := hparts.refers hn hr
    exact ⟨hin, hparts.closed h root hroot p.name hrefers⟩
  | parameter ho hp =>
    obtain ⟨_, -, ⟨parts⟩⟩ := exists_right_of_forall₂ hparts.operationParts ho
    obtain ⟨value, -, ht⟩ := exists_right_of_forall₂ parts.takes_parameters hp
    exact ⟨value, ht⟩
  | requestBody ho hp =>
    obtain ⟨_, -, ⟨parts⟩⟩ := exists_right_of_forall₂ hparts.operationParts ho
    obtain ⟨body, -, ht⟩ := parts.exists_body hp
    exact ⟨body, ht⟩
  | response ho hc hcode =>
    obtain ⟨_, -, ⟨parts⟩⟩ := exists_right_of_forall₂ hparts.operationParts ho
    obtain ⟨value, _, _, _, ht, -⟩ := parts.response.exists_content hc hcode
    exact ⟨value, ht⟩

end Contract

section Entries

variable {components : Components} {limit : Nat} {p : Pointer}

theorem Found.isIn {sec : Section} (h : Found components limit p sec) : p.isIn sec.text = true := by
  cases sec with
  | schemas => exact h.1
  | parameters | requestBodies | responses =>
    obtain ⟨value, ht⟩ := h
    exact ht.1

theorem takesEntry_name {α : Type} {sectionText : String} {entries : List (String × α)}
    (h : ∃ value, Takes sectionText entries (.ref p) value) :
    TakesEntry sectionText entries p p.name := by
  obtain ⟨value, ht⟩ := h
  exact ⟨value, ht.2, fun missing => lookup_yields_iff.mpr ⟨ht, rfl⟩⟩

/-- The name of a reference is declared by the entry with this key and by no other, unless it is
that of the items of a split list. -/
theorem usesEntry_schemas_iff (h : ComponentName components.schemas limit p.name) :
    UsesEntry components limit p p.name .schemas ↔
      ¬ NamesItems components.schemas limit p.name := by
  constructor
  · rintro huses ⟨entry, he, shape, ws, hy, hsplit, hname⟩
    have hdeclares : p.name ∈ (componentBlock shape).map Shape.name := by
      rw [mem_componentBlock_names_iff, resolveSchema_name hy]
      exact .inr ⟨hsplit, hname⟩
    -- The entry would have the name of its own items.
    have hself := (huses.2 entry he shape ws hy hdeclares).trans hname
    have hlen := congrArg String.length hself
    rw [String.length_append] at hlen
    have hpos : "Item".length = 4 := rfl
    omega
  · intro hnone
    constructor
    · generalize p.name = name at h hnone
      cases h with
      | own he => exact List.mem_map_of_mem he
      | item he hy hsplit => exact absurd ⟨_, he, _, _, hy, hsplit, rfl⟩ hnone
    · intro entry he shape ws hy hdeclares
      rw [mem_componentBlock_names_iff, resolveSchema_name hy] at hdeclares
      rcases hdeclares with hname | hitem
      · exact hname.symm
      · exact absurd ⟨entry, he, shape, ws, hy, hitem⟩ hnone

theorem Found.usesEntry_iff {sec : Section} (h : Found components limit p sec) :
    UsesEntry components limit p p.name sec ↔
      (sec = .schemas → ¬ NamesItems components.schemas limit p.name) := by
  cases sec with
  | schemas => exact (usesEntry_schemas_iff h.2).trans ⟨fun hn _ => hn, fun hn => hn rfl⟩
  | parameters | requestBodies | responses =>
    exact ⟨fun _ hs => (nomatch hs), fun _ => takesEntry_name h⟩

end Entries

/-- In a contract that resolves, a reference designates an entry of its section and is read as this
entry just when one token follows the section and, in schemas, it is not the name of the items of a
split list. References to schemas are referred to by name in the result. -/
theorem reference_designates_iff {doc : Document} {limit : Nat} {api : Api} {ws : List Warning}
    (h : (Api.resolve doc limit).Yields api ws) {sec : Section} {p : Pointer}
    (hf : Follows doc sec p) {written : String} (hw : Pointer.parse written = .ok p) :
    (sec = .schemas → ∃ root ∈ api.roots, root.Refers p.name) ∧
      ((∃ key, sec.Designates p key ∧ UsesEntry (doc.components.getD {}) limit p key sec) ↔
        sec.IsDirect p ∧
          (sec = .schemas → ¬ NamesItems (doc.components.getD {}).schemas limit p.name)) := by
  have hfound := found_of_follows h hf
  refine ⟨?_, ?_, ?_⟩
  · intro hs
    obtain ⟨shapes, operations, hparts, rfl, -⟩ := ofParts_of_resolve h
    cases hf with
    | schema hn hr => exact (hparts.refers hn hr).2
    | _ => cases hs
  · rintro ⟨key, hdesignates, huses⟩
    obtain rfl := hdesignates.name_eq
    exact ⟨hdesignates.isDirect, hfound.usesEntry_iff.mp huses⟩
  · intro hdirect
    have hdesignates := hdirect.1.designates (Pointer.isValid_of_parse hw) hfound.isIn
    exact ⟨p.name, hdesignates, hfound.usesEntry_iff.mpr hdirect.2⟩

def listNotes : Contract.Operation :=
  { operationId := some "listNotes"
    parameters := [.ref ⟨"/components/parameters/page~1size"⟩]
    responses := [("200", .inline { content :=
      [("application/json", { schema := some (.ref ⟨"/components/schemas/note~0s"⟩) })] })] }

def notes : Document :=
  { components := some
      { schemas := [("note~s", .inline { type := some .string })]
        parameters := [("page/size",
          { name := "size", location := .query
            schema := some (.inline { type := some .integer }) })] }
    paths := [("/notes", { get := some listNotes })] }

/-- Both references of the notes designate what they are read as. -/
theorem notes_designate : ∃ api, (Api.resolve notes 8).Yields api [] ∧
    Follows notes .parameters ⟨"/components/parameters/page~1size"⟩ ∧
    Section.parameters.Designates ⟨"/components/parameters/page~1size"⟩ "page/size" ∧
    UsesEntry (notes.components.getD {}) 8 ⟨"/components/parameters/page~1size"⟩ "page/size"
      .parameters ∧
    Follows notes .schemas ⟨"/components/schemas/note~0s"⟩ ∧
    Section.schemas.Designates ⟨"/components/schemas/note~0s"⟩ "note~s" ∧
    UsesEntry (notes.components.getD {}) 8 ⟨"/components/schemas/note~0s"⟩ "note~s" .schemas := by
  have hpath : (resolvePath "listNotes" "/notes").Yields [[.literal "notes"]] [] :=
    resolvePath_yields_of_longest (by decide +kernel) _
  have hop : (resolveOperation (notes.components.getD {}) 8 "/notes" { get := some listNotes } .get
      listNotes).Yields (_, _) [] :=
    .through (a := "listNotes") rfl rfl hpath rfl
  have hparts : ResolvesParts notes 8 [(_, [])] [(_, [])] := ⟨.cons rfl .nil, .cons hop .nil⟩
  have h := hparts.resolve_yields rfl rfl
  have hsize : Follows notes .parameters ⟨"/components/parameters/page~1size"⟩ :=
    .parameter (.head _) (.head _)
  have hnote : Follows notes .schemas ⟨"/components/schemas/note~0s"⟩ :=
    .schema (.response (.head _) rfl (by decide) rfl rfl) (.self _)
  have hitems : ¬ NamesItems (notes.components.getD {}).schemas 8 "note~s" := by
    rintro ⟨entry, he, shape, ws, hy, hsplit, -⟩
    obtain rfl := List.mem_singleton.mp he
    have hstring : (resolveSchema "note~s" (.inline { type := some .string }) 8).Yields
        { name := "note~s", kind := .string } [] := rfl
    obtain ⟨rfl, -⟩ := hy.unique hstring
    exact absurd hsplit.1 (by decide)
  have hread : Pointer.parse "#/components/parameters/page~1size" =
      .ok ⟨"/components/parameters/page~1size"⟩ := rfl
  have hread' : Pointer.parse "#/components/schemas/note~0s" =
      .ok ⟨"/components/schemas/note~0s"⟩ := rfl
  have hname : Pointer.name ⟨"/components/parameters/page~1size"⟩ = "page/size" := by
    decide +kernel
  have hname' : Pointer.name ⟨"/components/schemas/note~0s"⟩ = "note~s" := by decide +kernel
  obtain ⟨key, hd, huses⟩ := (reference_designates_iff h hsize hread).2.mpr
    ⟨by unfold Section.IsDirect; decide +kernel, fun hs => (nomatch hs)⟩
  obtain ⟨key', hd', huses'⟩ := (reference_designates_iff h hnote hread').2.mpr
    ⟨by unfold Section.IsDirect; decide +kernel, fun _ => hname' ▸ hitems⟩
  obtain rfl := hname.symm.trans hd.name_eq
  obtain rfl := hname'.symm.trans hd'.name_eq
  exact ⟨_, h, hsize, hd, huses, hnote, hd', huses'⟩

/-- Tags of pets, beside a component of the same name, and a list of pets that is split. -/
def tagged : Document :=
  { components := some
      { schemas :=
          [("Tag", .inline { type := some .number }),
           ("Pet", .inline { properties := some [("Tag", .inline { type := some .string })] }),
           ("Pets", .inline
            { type := some .array
              items := some (.inline
                { properties := some [("name", .inline { type := some .string })] }) }),
           ("Owner", .inline
            { properties := some
                [("tag", .ref ⟨"/components/schemas/Pet/properties/Tag"⟩),
                 ("pet", .ref ⟨"/components/schemas/PetsItem"⟩)] })] } }

/-- The owner's tag is a number, though its reference is that of a text, and the owner's pet is none
of the components. -/
theorem tagged_misread : ∃ api, (Api.resolve tagged 8).Yields api [] ∧
    Follows tagged .schemas ⟨"/components/schemas/Pet/properties/Tag"⟩ ∧
    (∃ owner ∈ api.schemas, owner.Refers "Tag") ∧
    (¬ ∃ key, Section.schemas.Designates ⟨"/components/schemas/Pet/properties/Tag"⟩ key) ∧
    Follows tagged .schemas ⟨"/components/schemas/PetsItem"⟩ ∧
    ¬ ∃ key, Section.schemas.Designates ⟨"/components/schemas/PetsItem"⟩ key ∧
      UsesEntry (tagged.components.getD {}) 8 ⟨"/components/schemas/PetsItem"⟩ key .schemas := by
  have h : (Api.resolve tagged 8).Yields _ _ := rfl
  have howner : SchemaRoot tagged _ := .component (.tail _ (.tail _ (.tail _ (.head _))))
  have htag : ¬ Section.schemas.IsDirect ⟨"/components/schemas/Pet/properties/Tag"⟩ := by
    unfold Section.IsDirect
    decide +kernel
  refine ⟨_, h, .schema howner (.child (.head _) (.self _)), ?_, ?_,
    .schema howner (.child (.tail _ (.head _)) (.self _)), ?_⟩
  · exact ⟨_, .tail _ (.tail _ (.tail _ (.tail _ (.head _)))), .inside (.head _) (.here rfl)⟩
  · rintro ⟨key, hd⟩
    exact htag hd.isDirect
  · rintro ⟨key, hd, huses⟩
    have hname : Pointer.name ⟨"/components/schemas/PetsItem"⟩ = "PetsItem" := by decide +kernel
    obtain rfl := hname.symm.trans hd.name_eq
    have hnone : "PetsItem" ∉ ["Tag", "Pet", "Pets", "Owner"] := by decide
    exact hnone huses.1

end ApiBindings.Model
