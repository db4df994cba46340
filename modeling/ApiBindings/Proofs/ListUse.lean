import ApiBindings.Proofs.DeclaredNames
import ApiBindings.Proofs.Scoping
import ApiBindings.TypeScript.Client

namespace ApiBindings.TypeScript
open Model (Shape Kind)

/-- An interface or an enumeration, which has no way to say that it is a list. -/
def Declaration.isNominal : Declaration → Bool
  | .interface .. | .enum .. => true
  | _ => false

def Declaration.result? : Declaration → Option TypeExpr
  | .function _ _ result _ => some result
  | _ => none

theorem isNominal_shapeDeclaration_iff {s : Shape} :
    (shapeDeclaration s).isNominal = true ↔ s.kind.IsBase := by
  obtain ⟨name, repeated, required, kind⟩ := s
  cases kind <;>
    simp [shapeDeclaration, enumDeclaration, Declaration.isNominal, Model.Kind.IsBase]

/-- The type of what a shape is a list of: written out, or by the name of a declaration of it. -/
inductive ElementType (declared : List Shape) (s : Shape) (name : String) : TypeExpr → Prop
  | inline : ElementType declared s name (useType { s with repeated := false })
  | named (h : { s.declaration with name } ∈ declared) : ElementType declared s name (.ofName name)

theorem useType_of_repeated {s : Shape} (h : s.repeated = true) :
    useType s = (useType { s with repeated := false }).arrayOf := by
  rw [useType, h]
  rfl

end ApiBindings.TypeScript

namespace ApiBindings.Model
open Contract (Document Components SchemaNode)
open TypeScript Resolving

/-- All that is hoisted inside the shape, at any depth, is for single values. -/
def Shape.HoistsSingles (s : Shape) : Prop :=
  ∀ inner ∈ s.walk, ∀ h ∈ inner.hoisted, h.repeated = false ∧ h.required = false

theorem Shape.hoistsSingles_iff {s : Shape} :
    s.HoistsSingles ↔ (∀ h ∈ s.hoisted, h.repeated = false ∧ h.required = false) ∧
      ∀ c ∈ s.children, c.HoistsSingles := by
  unfold Shape.HoistsSingles
  rw [s.walk_eq, List.forall_mem_cons]
  apply and_congr_right
  intro _
  constructor
  · intro h c hc inner hi
    exact h inner (List.mem_flatMap_of_mem hc hi)
  · intro h inner hi
    obtain ⟨c, hc, hi⟩ := List.mem_flatMap.mp hi
    exact h c hc inner hi

theorem Shape.HoistsSingles.congr {s t : Shape} (h : s.HoistsSingles) (hk : s.kind = t.kind) :
    t.HoistsSingles := by
  rw [Shape.hoistsSingles_iff, Shape.hoisted] at h ⊢
  rw [← hk, ← Shape.children_congr hk]
  exact h

theorem Shape.HoistsSingles.of_leaf {s : Shape} (hh : s.hoisted = []) (hc : s.children = []) :
    s.HoistsSingles := by
  rw [Shape.hoistsSingles_iff, hh, hc]
  simp

/-- A composition keeps its members without what they have hoisted, and takes that over. -/
theorem hoistsSingles_composed {make : List Shape → List Shape → Kind}
    (hchildren : ∀ name members hoisted,
      Shape.children { name, kind := make members hoisted } = members ++ hoisted)
    (hhoisted : ∀ members hoisted, (make members hoisted).hoisted = hoisted)
    (name : String) {members : List Shape} (h : ∀ m ∈ members, m.HoistsSingles) :
    (composed make name members).HoistsSingles := by
  have hup : (composed make name members).hoisted = members.flatMap Shape.hoisted := hhoisted _ _
  rw [Shape.hoistsSingles_iff, hup, composed, hchildren]
  constructor
  · intro d hd
    obtain ⟨m, hm, hd⟩ := List.mem_flatMap.mp hd
    exact (Shape.hoistsSingles_iff.mp (h m hm)).1 d hd
  · intro c hc
    rw [List.mem_append, List.mem_map, List.mem_flatMap] at hc
    rcases hc with ⟨m, hm, rfl⟩ | ⟨m, hm, hc⟩
    · have hm := (Shape.hoistsSingles_iff.mp (h m hm)).2
      rw [m.children_eq] at hm
      rw [Shape.hoistsSingles_iff]
      refine ⟨?_, fun c hc => hm c (List.mem_append_left _ hc)⟩
      have hnone : Shape.hoisted { m with kind := m.kind.withoutHoisted } = [] := by
        obtain ⟨name, repeated, required, kind⟩ := m
        cases kind <;> rfl
      simp [hnone]
    · apply (Shape.hoistsSingles_iff.mp (h m hm)).2 c
      exact Shape.hoisted_subset_children m hc

theorem hoistsSingles_objectOf (name : String) {properties : List (String × Property)}
    (h : ∀ p ∈ properties, p.2.shape.HoistsSingles) : (objectOf name properties).HoistsSingles := by
  have hhoisted : (objectOf name properties).hoisted = hoistedOf properties := rfl
  have hchildren : (objectOf name properties).children =
      properties.map (fun p => p.2.shape) ++ hoistedOf properties := rfl
  rw [Shape.hoistsSingles_iff, hhoisted, hchildren]
  constructor
  · intro d hd
    obtain ⟨p, -, -, rfl⟩ := mem_hoistedOf_iff.mp hd
    exact ⟨rfl, rfl⟩
  · intro c hc
    rw [List.mem_append, List.mem_map, mem_hoistedOf_iff] at hc
    rcases hc with ⟨p, hp, rfl⟩ | ⟨p, hp, -, rfl⟩
    · exact h p hp
    · exact (h p hp).congr rfl

theorem resolveSchema_hoistsSingles {limit : Nat} {name : String} {node : SchemaNode}
    {shape : Shape} {ws : List Warning} (h : (resolveSchema name node limit).Yields shape ws) :
    shape.HoistsSingles := by
  have hmembers {nodes : List SchemaNode} {results : List (Shape × List Warning)}
      (hall : List.Forall₂ (fun _ r => r.1.HoistsSingles) nodes results) :
      ∀ m ∈ results.map Prod.fst, m.HoistsSingles := by
    intro m hm
    obtain ⟨r, hr, rfl⟩ := List.mem_map.mp hm
    exact (exists_left_of_forall₂ hall hr).elim fun _ h => h.2
  refine resolveNode_induction (P := fun _ _ shape _ => shape.HoistsSingles)
    ?reference ?allOf ?oneOf ?enum ?array ?object ?scalar h
  case reference =>
    intro name p _
    exact .of_leaf rfl rfl
  case allOf | oneOf =>
    intro name s nodes results _ hall
    exact hoistsSingles_composed (fun _ _ _ => rfl) (fun _ _ => rfl) name (hmembers hall)
  case enum =>
    intro name s items base _ _
    exact .of_leaf rfl rfl
  case array =>
    intro name s item shape ws _ _ ih
    exact ih.congr rfl
  case object =>
    intro name s properties results _ hall
    apply hoistsSingles_objectOf
    intro p hp
    obtain ⟨r, hr, rfl⟩ := List.mem_map.mp hp
    obtain ⟨entry, -, shape, he, hs⟩ := exists_left_of_forall₂ hall hr
    rw [he]
    exact hs.congr rfl
  case scalar =>
    intro name s type kind _ hk
    unfold primitive? at hk
    split at hk <;> cases hk <;> exact .of_leaf rfl rfl

theorem Shape.Encloses.eq_or_hoisted {s d : Shape} (h : s.Encloses d) :
    d = s ∨ ∃ inner ∈ s.walk, d ∈ inner.hoisted := by
  induction h with
  | self s => exact .inl rfl
  | @hoisted s first d hh _ ih =>
    apply Or.inr
    rcases ih with rfl | ⟨inner, hi, hd⟩
    · refine ⟨s, ?_, hh⟩
      rw [s.walk_eq]
      exact List.mem_cons_self
    · refine ⟨inner, ?_, hd⟩
      rw [s.walk_eq]
      exact .tail _ (List.mem_flatMap_of_mem (s.hoisted_subset_children hh) hi)

/-- What a resolved contract and its modules say about lists. -/
structure Api.KeepsLists (doc : Document) (limit : Nat) (api : Api) : Prop where
  /-- Interfaces and enumerations, at the top or in a namespace, are for shapes that are single. -/
  nominal : ∀ root ∈ api.schemas, ∀ d, root.Encloses d → (shapeDeclaration d).isNominal = true →
    d.repeated = false
  /-- Hoisted shapes are neither lists nor required, wherever they stand. -/
  hoisted : ∀ root ∈ api.roots, ∀ s ∈ root.walk, ∀ d ∈ s.hoisted,
    d.repeated = false ∧ d.required = false
  /-- A component that is a list has one declaration under its own name, an array of elements. -/
  component : ∀ entry ∈ (doc.components.getD {}).schemas, ∃ shape ws,
    (resolveSchema entry.1 entry.2 limit).Yields shape ws ∧ componentBlock shape ⊆ api.schemas ∧
      (shape.repeated = true → ∃ d item,
        (componentBlock shape).filter (fun b => b.name = entry.1) = [d] ∧
          ElementType api.schemas shape (entry.1 ++ "Item") item ∧
          shapeDeclaration d = .alias entry.1 item.arrayOf)
  /-- A response that is a list is awaited as an array, hoisted or not. -/
  response : ∀ op ∈ api.operations, ∀ response ∈ op.response, response.repeated = true →
    ∃ item, ElementType api.schemas response response.name item ∧
      (operationFunction op).declaration.result? = some (.generic "Promise" [item.arrayOf])

theorem hoistsSingles_componentBlock {s : Shape} (h : s.HoistsSingles) :
    ∀ d ∈ componentBlock s, d.HoistsSingles := by
  intro d hd
  rcases componentBlock_cases s with ⟨-, hb⟩ | ⟨-, hb⟩
  · rw [hb, List.mem_singleton] at hd
    exact hd ▸ h
  · rw [hb] at hd
    rcases List.mem_pair.mp hd with rfl | rfl
    · exact h.congr rfl
    · exact .of_leaf rfl rfl

/-- Of a split list, the declaration of the items is for one of them, and the other is an alias. -/
theorem repeated_of_mem_componentBlock {s d : Shape} (hd : d ∈ componentBlock s)
    (hbase : d.kind.IsBase) : d.repeated = false := by
  rcases componentBlock_cases s with ⟨hs, hb⟩ | ⟨-, hb⟩
  · rw [hb, List.mem_singleton] at hd
    subst hd
    by_contra hr
    exact hs ⟨Bool.not_eq_false _ ▸ hr, hbase⟩
  · rw [hb] at hd
    rcases List.mem_pair.mp hd with rfl | rfl
    · rfl
    · rcases hbase with ⟨_, _, hk⟩ | ⟨_, _, hk⟩ <;> cases hk

theorem componentBlock_of_repeated {s : Shape} (hr : s.repeated = true) {declared : List Shape}
    (hd : componentBlock s ⊆ declared) :
    ∃ d item, (componentBlock s).filter (fun b => b.name = s.name) = [d] ∧
      ElementType declared s (s.name ++ "Item") item ∧
      shapeDeclaration d = .alias s.name item.arrayOf := by
  rcases componentBlock_cases s with ⟨hs, hb⟩ | ⟨-, hb⟩
  · have hbase : ¬ s.kind.IsBase := fun h => hs ⟨hr, h⟩
    refine ⟨s, _, by simp [hb], .inline, ?_⟩
    rw [← useType_of_repeated hr]
    unfold shapeDeclaration
    split
    · next hk => exact absurd (.inl ⟨_, _, hk⟩) hbase
    · next hk => exact absurd (.inr ⟨_, _, hk⟩) hbase
    · rfl
  · rw [hb] at hd ⊢
    refine ⟨{ name := s.name, repeated := true, kind := .reference (s.name ++ "Item") }, _, ?_,
      .named (hd List.mem_cons_self), rfl⟩
    rw [List.filter_cons_of_neg (by simp), List.filter_cons_of_pos (by simp),
      List.filter_nil]

namespace OperationParts

variable {components : Components} {limit : Nat} {entry : OperationEntry}
  {result : List Shape × Operation}

theorem declared_singles (parts : OperationParts components limit entry result) :
    ∀ d ∈ result.1, d.repeated = false ∧ d.HoistsSingles := by
  intro d hd
  rw [parts.declared_eq, List.mem_append, List.mem_map, List.mem_singleton] at hd
  rcases hd with ⟨s, hs, rfl⟩ | rfl
  · have hresponse := Option.mem_toList.mp (List.mem_of_mem_filter hs)
    obtain ⟨node, ws, hs⟩ := parts.response_resolves hresponse
    exact ⟨rfl, (resolveSchema_hoistsSingles hs).congr rfl⟩
  · refine ⟨rfl, hoistsSingles_objectOf _ fun p hp => ?_⟩
    obtain ⟨source, -, _, shape, _, -, hs, rfl⟩ := exists_left_of_forall₂ parts.makes_inputs hp
    exact (resolveSchema_hoistsSingles hs).congr rfl

theorem responseType_of_repeated (parts : OperationParts components limit entry result)
    {response : Shape} (hr : response ∈ result.2.response) (hrepeated : response.repeated = true)
    {schemas : List Shape} (hd : result.1 ⊆ schemas) :
    ∃ element, ElementType schemas response response.name element ∧
      responseType result.2 = element.arrayOf := by
  rw [responseType, Option.mem_def.mp hr]
  dsimp only
  by_cases hh : response.isHoistable = true
  · refine ⟨_, .named (hd (parts.response_mem hr hh)), ?_⟩
    rw [if_pos hh, hrepeated]
    rfl
  · refine ⟨_, .inline, ?_⟩
    rw [if_neg hh, useType_of_repeated hrepeated]

end OperationParts

/-- No list is lost: what cannot say that it is one is for single values, and what is a list is
written as an array wherever it is used. -/
theorem resolve_keepsLists {doc : Document} {limit : Nat} {api : Api} {ws : List Warning}
    (h : (Api.resolve doc limit).Yields api ws) : Api.KeepsLists doc limit api := by
  obtain ⟨shapes, operations, hparts, rfl, -⟩ := ofParts_of_resolve h
  have hcomponent : ∀ r ∈ shapes, r.1.HoistsSingles := by
    intro r hr
    obtain ⟨entry, -, hy⟩ := exists_left_of_forall₂ hparts.shapes hr
    exact resolveSchema_hoistsSingles hy
  have hschemas : ∀ root ∈
      (Api.ofParts doc (shapes.map Prod.fst) (operations.map Prod.fst)).schemas,
      (root.kind.IsBase → root.repeated = false) ∧ root.HoistsSingles := by
    intro root hroot
    rw [Api.ofParts, List.mem_append, List.mem_flatMap, List.mem_flatMap] at hroot
    rcases hroot with ⟨shape, hshape, hroot⟩ | ⟨result, hr, hroot⟩
    · obtain ⟨r, hr, rfl⟩ := List.mem_map.mp hshape
      exact ⟨repeated_of_mem_componentBlock hroot,
        hoistsSingles_componentBlock (hcomponent r hr) root hroot⟩
    · obtain ⟨_, -, ⟨parts⟩⟩ := hparts.exists_parts hr
      have hsingle := parts.declared_singles root hroot
      exact ⟨fun _ => hsingle.1, hsingle.2⟩
  constructor
  case nominal =>
    intro root hroot d hd hnominal
    rw [isNominal_shapeDeclaration_iff] at hnominal
    rcases hd.eq_or_hoisted with rfl | ⟨inner, hi, hd⟩
    · exact (hschemas d hroot).1 hnominal
    · exact ((hschemas root hroot).2 inner hi d hd).1
  case hoisted =>
    intro root hroot
    rw [Api.roots, List.mem_append, List.mem_filterMap] at hroot
    rcases hroot with hroot | ⟨operation, hoperation, hresponse⟩
    · exact (hschemas root hroot).2
    · obtain ⟨result, hr, rfl⟩ := List.mem_map.mp hoperation
      obtain ⟨_, -, ⟨parts⟩⟩ := hparts.exists_parts hr
      obtain ⟨node, ws, hs⟩ := parts.response_resolves hresponse
      exact resolveSchema_hoistsSingles hs
  case component =>
    intro entry he
    obtain ⟨r, hr, hy⟩ := exists_right_of_forall₂ hparts.shapes he
    have hblock : componentBlock r.1 ⊆
        (Api.ofParts doc (shapes.map Prod.fst) (operations.map Prod.fst)).schemas := by
      intro d hd
      apply List.mem_append_left
      exact List.mem_flatMap_of_mem (List.mem_map_of_mem hr) hd
    refine ⟨r.1, r.2, hy, hblock, fun hrepeated => ?_⟩
    rw [← resolveSchema_name hy]
    exact componentBlock_of_repeated hrepeated hblock
  case response =>
    intro op hop response hresponse hrepeated
    obtain ⟨result, hr, rfl⟩ := List.mem_map.mp hop
    obtain ⟨_, -, ⟨parts⟩⟩ := hparts.exists_parts hr
    obtain ⟨element, he, htype⟩ := parts.responseType_of_repeated hresponse hrepeated
      (declared_subset_schemas doc _ hr)
    refine ⟨element, he, ?_⟩
    rw [← htype]
    rfl

def listMarks : Contract.Operation :=
  { operationId := some "listMarks"
    responses := [("200", .inline { content := [("application/json",
      { schema := some (.inline
          { type := some .array
            items := some (.inline { enum := some [.string "in", .string "out"] }) }) })] })] }

/-- Frames with prints are a list of objects, and captions a list of compositions that hoist. -/
def gallery : Document :=
  { components := some
      { schemas :=
          [("Frames", .inline
            { type := some .array
              items := some (.inline
                { properties := some
                    [("prints", .inline
                      { type := some .array
                        items := some (.inline { properties := some [] }) })]
                  required := ["prints"] }) }),
           ("Captions", .inline
            { type := some .array
              items := some (.inline
                { oneOf := some
                    [.inline { type := some .string },
                     .inline
                      { properties := some
                          [("font", .inline { enum := some [.string "serif"] })] }] }) })] }
    paths := [("/marks", { get := some listMarks })] }

/-- The frames are split, the captions are an array of a union, and the marks of a declared name. -/
theorem gallery_keepsLists :
    ∃ api, (Api.resolve gallery 8).Yields api [] ∧ Api.KeepsLists gallery 8 api ∧
      api.schemas.map (fun s => (s.name, s.repeated, s.hoisted.map Shape.name)) =
        [("FramesItem", false, ["Prints"]), ("Frames", true, []), ("Captions", true, ["Font"]),
         ("ListMarksResponse", false, []), ("ListMarksRequest", false, [])] ∧
      api.operations.map (fun op => (operationFunction op).declaration.result?) =
        [some (.generic "Promise" [.array (.named ["ListMarksResponse"])])] := by
  have hpath : (resolvePath "listMarks" "/marks").Yields [[.literal "marks"]] [] :=
    resolvePath_yields_of_longest (by decide +kernel) _
  have hmarks : (resolveOperation (gallery.components.getD {}) 8 "/marks"
      { get := some listMarks } .get listMarks).Yields (_, _) [] :=
    .through (a := "listMarks") rfl rfl hpath rfl
  have hparts : ResolvesParts gallery 8 [(_, []), (_, [])] [(_, [])] :=
    ⟨.cons rfl (.cons rfl .nil), .cons hmarks .nil⟩
  have h := hparts.resolve_yields rfl rfl
  exact ⟨_, h, resolve_keepsLists h, rfl, rfl⟩

end ApiBindings.Model
