import ApiBindings.Proofs.Collisions
import ApiBindings.Proofs.Conformance
import ApiBindings.Proofs.Emission
import ApiBindings.Proofs.EnumMembers
import ApiBindings.Proofs.Names
import ApiBindings.Proofs.Pairwise

namespace ApiBindings

namespace Model

def IsPlainLiteral (item : Json) : Prop := isStringLiteral item = true ∨ isNumberLiteral item = true

end Model

namespace TypeScript
open Model (Shape Kind Property EnumBase IsPlainLiteral)

variable {R : String → Json → Prop} {block : List Exported} {v : Json}

theorem literalType_eq {item : Json} (h : IsPlainLiteral item) :
    literalType item = .literal (initializer item) ∧ (initializer item).value = item := by
  cases item <;> simp_all [IsPlainLiteral, Model.isStringLiteral, Model.isNumberLiteral,
    literalType, initializer, literalText, Literal.value]

theorem inhabits_enumType_iff {items : List Json} (h : ∀ item ∈ items, IsPlainLiteral item) :
    Inhabits R block (enumType items) v ↔ v ∈ items := by
  rw [enumType, inhabits_unionOf_iff, ← mem_distinctLiterals_iff]
  constructor
  · rintro ⟨t, ht, hv⟩
    obtain ⟨item, hi, rfl⟩ := List.mem_map.mp ht
    obtain ⟨hl, he⟩ := literalType_eq (h item (mem_distinctLiterals_iff.mp hi))
    rw [hl, inhabits_literal_iff, he] at hv
    exact hv ▸ hi
  · intro hv
    obtain ⟨hl, he⟩ := literalType_eq (h v (mem_distinctLiterals_iff.mp hv))
    refine ⟨literalType v, List.mem_map_of_mem hv, ?_⟩
    rw [hl, inhabits_literal_iff, he]

/-- Where a shape is declared, its name stands for the type that its use would have in full. -/
theorem inhabits_declaredType_iff {s : Shape} (hrep : s.repeated = false)
    (hl : ∀ base items, s.kind = .enum base items → ∀ item ∈ items, IsPlainLiteral item) :
    Inhabits R block (declaredType s) v ↔ Inhabits R block (kindType s.name s.kind) v := by
  obtain ⟨name, repeated, required, kind⟩ := s
  obtain rfl : repeated = false := hrep
  cases kind with
  | enum base items =>
    have hplain := hl base items rfl
    have hmap : (enumMembers name base [] (distinctLiterals items)).map (fun m =>
        TypeExpr.literal m.2) = (distinctLiterals items).map literalType := by
      rw [← Function.comp_def TypeExpr.literal Prod.snd, ← List.map_map, enumMembers_literals,
        List.map_map]
      refine List.map_congr_left fun item hi => ?_
      exact (literalType_eq (hplain item (mem_distinctLiterals_iff.mp hi))).1.symm
    simp only [declaredType, kindType, hmap, enumType, inhabits_union_iff, inhabits_unionOf_iff]
  | _ => rfl

/-- A block that declares a shape, with the namespace of its hoisted shapes. -/
structure Declares (body : List Exported) (s : Shape) : Prop where
  type : typeIn? body s.name = some (declaredType s)
  space : s.hoisted ≠ [] → spaceIn? body s.name = some (allDeclarations s.hoisted)

/-- A namespace of the block declares the shapes. -/
def Provides (block : List Exported) (scope : String) (shapes : List Shape) : Prop :=
  ∀ s ∈ shapes, ∃ body, spaceIn? block scope = some body ∧ Declares body s

theorem provides_of_space {scope : String} {shapes : List Shape}
    (hn : (shapes.map Shape.name).Nodup)
    (hs : shapes ≠ [] → spaceIn? block scope = some (allDeclarations shapes)) :
    Provides block scope shapes := by
  intro s hmem
  refine ⟨allDeclarations shapes, hs (List.ne_nil_of_mem hmem), ?_, ?_⟩
  · exact typeIn?_allDeclarations hn hmem
  · exact spaceIn?_allDeclarations hn hmem

end TypeScript

namespace Contract

/-- Every literal that the meaning of a node rests on is a text or a number. -/
def HasPlainLiterals (node : SchemaNode) : Prop :=
  ∀ s items, Reaches node (.inline s) → s.form = .enum items →
    ∀ item ∈ items, Model.IsPlainLiteral item

/-- No reference that the meaning of a node rests on has a point in its name. -/
def HasPlainTargets (node : SchemaNode) : Prop :=
  ∀ p : Pointer, Reaches node (.ref p) → '.' ∉ p.name.toList

theorem hasPlainLiterals_ref (p : Pointer) : HasPlainLiterals (.ref p) := by
  rintro s items ⟨⟩

theorem hasPlainLiterals_inline_iff {s : Schema} :
    HasPlainLiterals (.inline s) ↔
      (∀ items, s.form = .enum items → ∀ item ∈ items, Model.IsPlainLiteral item) ∧
        ∀ inner ∈ s.form.children, HasPlainLiterals inner := by
  constructor
  · intro h
    exact ⟨fun items => h s items (.self _), fun inner hi t items hr => h t items (.child hi hr)⟩
  · rintro ⟨hself, hinner⟩ t items hr
    cases hr with
    | self => exact hself items
    | child hi hr => exact hinner _ hi t items hr

theorem hasPlainTargets_ref_iff {p : Pointer} :
    HasPlainTargets (.ref p) ↔ '.' ∉ p.name.toList := by
  constructor
  · intro h
    exact h p (.self _)
  · rintro h q ⟨⟩
    exact h

theorem hasPlainTargets_inline_iff {s : Schema} :
    HasPlainTargets (.inline s) ↔ ∀ inner ∈ s.form.children, HasPlainTargets inner := by
  constructor
  · intro h inner hi p hr
    exact h p (.child hi hr)
  · rintro h p ⟨⟩
    next inner hi hr => exact h inner hi p hr

end Contract

namespace Model
open Contract (Schema SchemaNode SchemaType Form Pointer Conforms HasPlainLiterals HasPlainTargets)
open TypeScript

/-- A shape that stands for a node: read in any block that provides its hoisted shapes, its type has
the values that conform to the node. -/
structure Faithful (R : String → Json → Prop) (name : String) (node : SchemaNode) (shape : Shape) :
    Prop where
  name_eq : shape.name = name
  nodup : (shape.hoisted.map Shape.name).Nodup
  literals : ∀ base items, shape.kind = .enum base items → ∀ item ∈ items, IsPlainLiteral item
  meaning : ∀ block, Provides block name shape.hoisted →
    ∀ v, Conforms R node v ↔ Inhabits R block (useType shape) v

variable {R : String → Json → Prop} {name : String} {s : Schema}

theorem faithful_reference {p : Pointer} (hp : '.' ∉ p.name.toList) :
    Faithful R name (.ref p) { name, kind := .reference p.name } where
  name_eq := rfl
  nodup := List.nodup_nil
  literals := by simp
  meaning block _ v := by
    have htype : useType { name, kind := .reference p.name } = .named [p.name] :=
      TypeExpr.ofName_of_no_point hp
    rw [htype, inhabits_component_iff, Contract.conforms_ref_iff]

theorem faithful_enum {items : List Json} {base : EnumBase} (hs : s.form = .enum items)
    (hl : ∀ item ∈ items, IsPlainLiteral item) :
    Faithful R name (.inline s) { name, kind := .enum base items } where
  name_eq := rfl
  nodup := List.nodup_nil
  literals := by
    intro base' items' h
    cases h
    exact hl
  meaning block _ v := by
    rw [Contract.conforms_enum_iff hs]
    exact (inhabits_enumType_iff hl).symm

theorem faithful_scalar {type : Option SchemaType} {kind : Kind} (hs : s.form = .scalar type)
    (hk : primitive? type = some kind) : Faithful R name (.inline s) { name, kind } := by
  match type, hk with
  | some .integer, rfl | some .number, rfl | some .string, rfl | some .boolean, rfl =>
    exact
      { name_eq := rfl
        nodup := List.nodup_nil
        literals := by simp
        meaning := fun block _ v => by
          rw [Contract.conforms_scalar_iff hs]
          simp [useType, arrayIf, kindType, SchemaType.Admits, Keyword.Admits] }

theorem faithful_array {item : SchemaNode} {shape : Shape} (hs : s.form = .array (some item))
    (hrep : shape.repeated = false) (h : Faithful R name item shape) :
    Faithful R name (.inline s) { shape with name, repeated := true } where
  name_eq := rfl
  nodup := h.nodup
  literals := h.literals
  meaning block hb v := by
    have hitem : useType shape = kindType name shape.kind := by
      rw [useType, hrep, h.name_eq]
      rfl
    have hlist : useType { shape with name, repeated := true } =
        (kindType name shape.kind).arrayOf := rfl
    rw [Contract.conforms_array_iff hs, hlist, ← hitem, TypeExpr.arrayOf, inhabits_array_iff]
    simp only [inhabits_grouped_iff, h.meaning block hb]

theorem useType_composed (make : List Shape → List Shape → Kind) (members : List Shape) :
    useType (composed make name members) =
      kindType name (make (members.map fun m => { m with kind := m.kind.withoutHoisted })
        (members.flatMap Shape.hoisted)) := rfl

theorem memberTypes_withoutHoisted (members : List Shape) :
    memberTypes (members.map fun m => { m with kind := m.kind.withoutHoisted }) =
      members.map useType := by
  rw [memberTypes_eq_map, List.map_map]
  refine List.map_congr_left fun m _ => ?_
  simp [useType]

/-- What the members of a composition mean, in a block that provides what moved up from them. -/
theorem members_meaning {nodes : List SchemaNode} {shapes : List Shape} {block : List Exported}
    (h : List.Forall₂ (fun node shape => Faithful R name node shape) nodes shapes)
    (hb : Provides block name (shapes.flatMap Shape.hoisted)) (v : Json) :
    List.Forall₂ (fun node t => Conforms R node v ↔ Inhabits R block t v) nodes
      (shapes.map useType) := by
  rw [List.forall₂_map_right_iff]
  refine (forall₂_mem h).imp fun node shape ⟨_, hmem, hf⟩ => hf.meaning block ?_ v
  intro s hs
  exact hb s (List.mem_flatMap_of_mem hmem hs)

theorem faithful_allOf {nodes : List SchemaNode} {shapes : List Shape}
    (hs : s.form = .allOf nodes)
    (h : List.Forall₂ (fun node shape => Faithful R name node shape) nodes shapes)
    (hn : ((shapes.flatMap Shape.hoisted).map Shape.name).Nodup) :
    Faithful R name (.inline s) (composed .intersection name shapes) where
  name_eq := rfl
  nodup := hn
  literals := by simp [composed]
  meaning block hb v := by
    rw [Contract.conforms_allOf_iff hs, useType_composed, kindType, memberTypes_withoutHoisted,
      inhabits_intersectionOf_iff]
    exact forall_mem_iff_of_forall₂ (members_meaning h hb v)

theorem faithful_oneOf {nodes : List SchemaNode} {shapes : List Shape}
    (hs : s.form = .oneOf nodes)
    (h : List.Forall₂ (fun node shape => Faithful R name node shape) nodes shapes)
    (hn : ((shapes.flatMap Shape.hoisted).map Shape.name).Nodup) :
    Faithful R name (.inline s) (composed .union name shapes) where
  name_eq := rfl
  nodup := hn
  literals := by simp [composed]
  meaning block hb v := by
    rw [Contract.conforms_oneOf_iff hs, useType_composed, kindType, memberTypes_withoutHoisted,
      inhabits_unionOf_iff]
    exact exists_mem_iff_of_forall₂ (members_meaning h hb v)

/-- A property means what its node does: a hoisted one by its name in the namespace `parent`, any
other one written out. -/
theorem Faithful.property {parent key : String} {node : SchemaNode} {shape : Shape}
    {block : List Exported} (h : Faithful R (Text.pascalCase key) node shape)
    (hb : shape.isHoistable = true →
      ∃ body, spaceIn? block parent = some body ∧ Declares body shape.declaration) (v : Json) :
    Conforms R node v ↔
      Inhabits R block (arrayIf shape.repeated (propertyType parent shape)) v := by
  by_cases hh : shape.isHoistable = true
  · obtain ⟨body, hspace, hdecl⟩ := hb hh
    -- The block of the namespace provides what the property's own shape has hoisted.
    have hbody : Provides body (Text.pascalCase key) shape.hoisted :=
      provides_of_space h.nodup (h.name_eq ▸ hdecl.space)
    rw [h.meaning body hbody, useType]
    refine inhabits_arrayIf_congr _ fun w => ?_
    have hpoint : '.' ∉ shape.name.toList := h.name_eq ▸ Text.point_not_mem_pascalCase key
    obtain ⟨path, hpath, hjoin, hname⟩ := TypeExpr.ofName_qualified parent hpoint
    have htype : typeIn? body shape.name = some (declaredType shape.declaration) := hdecl.type
    rw [propertyType, if_pos hh, hname,
      inhabits_qualified_iff hpath (hjoin.symm ▸ hspace) htype]
    exact (inhabits_declaredType_iff (s := shape.declaration) rfl h.literals).symm
  · have hnone := Shape.hoisted_eq_nil_of_not_isHoistable (Bool.not_eq_true _ ▸ hh)
    have hblock : Provides block (Text.pascalCase key) shape.hoisted := by simp [Provides, hnone]
    rw [h.meaning block hblock, useType, propertyType, if_neg hh]

theorem faithful_object {properties : List (String × SchemaNode)}
    {resolved : List (String × Property)} (hs : s.form = .object properties)
    (h : List.Forall₂ (fun entry p => ∃ shape, p = resolvedProperty s entry shape ∧
      Faithful R (Text.pascalCase entry.1) entry.2 shape) properties resolved)
    (hn : ((hoistedOf resolved).map Shape.name).Nodup) :
    Faithful R name (.inline s) (objectOf name resolved) where
  name_eq := rfl
  nodup := hn
  literals := by simp [objectOf]
  meaning block hb v := by
    have htype : useType (objectOf name resolved) =
        .object (resolved.map (propertyMember name)) := by
      rw [← objectMembers_eq_map]
      rfl
    rw [Contract.conforms_object_iff hs, htype, inhabits_object_iff]
    refine exists_congr fun fields => and_congr_right fun _ => ?_
    refine forall_mem_iff_of_forall₂ (List.forall₂_map_right_iff.mpr ?_)
    refine (forall₂_mem h).imp fun entry p ⟨_, hp, shape, he, hf⟩ => ?_
    have hbody : shape.isHoistable = true →
        ∃ body, spaceIn? block name = some body ∧ Declares body shape.declaration := by
      intro hh
      have hmem := declaration_mem_hoistedOf hp (by rw [he]; exact hh)
      rw [he] at hmem
      exact hb _ hmem
    have hmember : (propertyMember name p).key = entry.1 ∧
        (propertyMember name p).optional = !s.required.contains entry.1 ∧
        (propertyMember name p).type = arrayIf shape.repeated (propertyType name shape) := by
      rw [he]
      exact ⟨rfl, rfl, rfl⟩
    obtain ⟨hkey, hopt, hty⟩ := hmember
    rw [hkey, hopt, hty]
    simp only [hf.property hbody, Bool.not_eq_true', List.contains_eq_mem, decide_eq_false_iff_not]

/-- The nodes inside a node resolve without a warning and rest on plain literals and targets, if it
does. -/
theorem faithful_nodes {nodes : List SchemaNode} {results : List (Shape × List Warning)}
    (hnodes : ∀ node ∈ nodes, node ∈ s.form.children) (hws : results.flatMap Prod.snd = [])
    (hl : ∀ node ∈ s.form.children, HasPlainLiterals node)
    (ht : ∀ node ∈ s.form.children, HasPlainTargets node)
    (h : List.Forall₂ (fun node r => r.2 = [] → HasPlainLiterals node → HasPlainTargets node →
      Faithful R name node r.1) nodes results) :
    List.Forall₂ (fun node shape => Faithful R name node shape) nodes (results.map Prod.fst) := by
  rw [List.forall₂_map_right_iff]
  refine (forall₂_mem h).imp fun node r ⟨hn, hr, hf⟩ => ?_
  exact hf (List.flatMap_eq_nil_iff.mp hws r hr) (hl node (hnodes node hn))
    (ht node (hnodes node hn))

theorem resolveNode_faithful {limit budget : Nat} {node : SchemaNode} {shape : Shape}
    {ws : List Warning} (h : (resolveNode limit budget name node).Yields shape ws) :
    ws = [] → HasPlainLiterals node → HasPlainTargets node → Faithful R name node shape := by
  refine resolveNode_induction ?reference ?allOf ?oneOf ?enum ?array ?object ?scalar h
  case reference =>
    intro name p _ _ _ ht
    exact faithful_reference (Contract.hasPlainTargets_ref_iff.mp ht)
  case allOf =>
    intro name s nodes results hs hall hws hl ht
    rw [Contract.hasPlainLiterals_inline_iff] at hl
    rw [Contract.hasPlainTargets_inline_iff] at ht
    obtain ⟨hws, hcol⟩ := List.append_eq_nil_iff.mp hws
    refine faithful_allOf hs (faithful_nodes ?_ hws hl.2 ht hall) (nodup_of_collisions_eq_nil hcol)
    simp [hs, Form.children]
  case oneOf =>
    intro name s nodes results hs hall hws hl ht
    rw [Contract.hasPlainLiterals_inline_iff] at hl
    rw [Contract.hasPlainTargets_inline_iff] at ht
    obtain ⟨hws, hcol⟩ := List.append_eq_nil_iff.mp hws
    refine faithful_oneOf hs (faithful_nodes ?_ hws hl.2 ht hall) (nodup_of_collisions_eq_nil hcol)
    simp [hs, Form.children]
  case enum =>
    intro name s items base hs _ _ hl _
    exact faithful_enum hs ((Contract.hasPlainLiterals_inline_iff.mp hl).1 items hs)
  case array =>
    intro name s item shape ws hs hrep ih hws hl ht
    have hi : item ∈ s.form.children := by simp [hs, Form.children]
    exact faithful_array hs hrep (ih hws ((Contract.hasPlainLiterals_inline_iff.mp hl).2 item hi)
      (Contract.hasPlainTargets_inline_iff.mp ht item hi))
  case object =>
    intro name s properties results hs hall hws hl ht
    obtain ⟨hws, hcol⟩ := List.append_eq_nil_iff.mp hws
    refine faithful_object hs ?_ (nodup_of_collisions_eq_nil hcol)
    rw [List.forall₂_map_right_iff]
    refine (forall₂_mem hall).imp fun entry r ⟨he, hr, shape, hp, hf⟩ => ⟨shape, hp, ?_⟩
    have hi : entry.2 ∈ s.form.children := by
      rw [hs]
      exact List.mem_map_of_mem he
    exact hf (List.flatMap_eq_nil_iff.mp hws r hr)
      ((Contract.hasPlainLiterals_inline_iff.mp hl).2 entry.2 hi)
      (Contract.hasPlainTargets_inline_iff.mp ht entry.2 hi)
  case scalar =>
    intro name s type kind hs hk _ _ _
    exact faithful_scalar hs hk

/-- Resolution and emission keep the meaning of a schema that is resolved without a warning. -/
theorem conforms_iff_inhabits_useType {limit : Nat} {node : SchemaNode} {shape : Shape}
    (h : (resolveSchema name node limit).Yields shape []) (hl : HasPlainLiterals node)
    (ht : HasPlainTargets node) (R : String → Json → Prop) (v : Json) :
    Conforms R node v ↔ Inhabits R (declarations shape) (useType shape) v := by
  have hf : Faithful R name node shape := resolveNode_faithful h rfl hl ht
  refine hf.meaning _ (provides_of_space hf.nodup fun hne => ?_) v
  rw [spaceIn?_declarations, if_pos ⟨hf.name_eq, hne⟩]

/-- A shipment with a status, one literal of which is repeated, and lines, each a component with a
carrier beside it. -/
def shipmentNode : SchemaNode :=
  .inline
    { required := ["lines"]
      properties := some
        [("status", .inline { enum := some [.number (.whole 1), .number (.whole 1)] }),
         ("lines", .inline
          { type := some .array
            items := some (.inline
              { allOf := some
                  [.ref ⟨"/components/schemas/Line"⟩,
                   .inline
                    { properties := some
                        [("carrier", .inline { enum := some [.string "post"] })] }] }) })] }

def shipmentShape : Shape :=
  objectOf "Shipment"
    [("status", .of
      { name := "Status", kind := .enum .number [.number (.whole 1), .number (.whole 1)] }
      false none none),
     ("lines", .of
      { composed .intersection "Lines"
          [{ name := "Lines", kind := .reference "Line" },
           objectOf "Lines"
            [("carrier", .of { name := "Carrier", kind := .enum .string [.string "post"] }
              false none none)]] with
        repeated := true }
      true none none)]

/-- The carrier of a line is written as `Lines.Carrier` inside the namespace of the shipment. -/
theorem shipment_conforms_iff_inhabits :
    (resolveSchema "Shipment" shipmentNode 8).Yields shipmentShape [] ∧
      HasPlainLiterals shipmentNode ∧ HasPlainTargets shipmentNode ∧
      (Conforms (fun _ v => v ≠ .null) shipmentNode
          (.object [("lines", .array [.object [("carrier", .string "post")]])]) ↔
        Inhabits (fun _ v => v ≠ .null) (declarations shipmentShape) (useType shipmentShape)
          (.object [("lines", .array [.object [("carrier", .string "post")]])])) := by
  have hl : HasPlainLiterals shipmentNode := by
    simp [shipmentNode, Contract.hasPlainLiterals_inline_iff, Contract.hasPlainLiterals_ref,
      Schema.form, Form.children, IsPlainLiteral, isNumberLiteral, isStringLiteral]
  have ht : HasPlainTargets shipmentNode := by
    simp [shipmentNode, Contract.hasPlainTargets_inline_iff, Contract.hasPlainTargets_ref_iff,
      Schema.form, Form.children]
    decide
  have h : (resolveSchema "Shipment" shipmentNode 8).Yields shipmentShape [] := rfl
  exact ⟨h, hl, ht, conforms_iff_inhabits_useType h hl ht _ _⟩

def shadowedNode : SchemaNode :=
  .inline
    { properties := some
        [("status", .inline { enum := some [.string "open"] }),
         ("other", .ref ⟨"/components/schemas/Order.Status"⟩)] }

def shadowedShape : Shape :=
  objectOf "Order"
    [("status", .of { name := "Status", kind := .enum .string [.string "open"] } false none none),
     ("other", .of { name := "Other", kind := .reference "Order.Status" } false none none)]

/-- A reference with a point in its name is read as the hoisted shape of that qualified name: an
order whose component is a number conforms, and does not inhabit the type written for it. -/
theorem shadowed_conforms_not_inhabits :
    (resolveSchema "Order" shadowedNode 8).Yields shadowedShape [] ∧
      HasPlainLiterals shadowedNode ∧
      Conforms (fun name v => name = "Order.Status" ∧ ∃ n, v = .number n) shadowedNode
        (.object [("other", .number (.whole 5))]) ∧
      ¬ Inhabits (fun name v => name = "Order.Status" ∧ ∃ n, v = .number n)
        (declarations shadowedShape) (useType shadowedShape)
        (.object [("other", .number (.whole 5))]) := by
  refine ⟨rfl, ?_, ?_, ?_⟩
  · simp [shadowedNode, Contract.hasPlainLiterals_inline_iff, Contract.hasPlainLiterals_ref,
      Schema.form, Form.children, IsPlainLiteral, isStringLiteral]
  · refine .object rfl (by simp) ?_
    intro entry he v hv
    rcases List.mem_pair.mp he with rfl | rfl
    · cases hv
    · cases hv
      exact .reference ⟨by decide, _, rfl⟩
  · have htype : useType shadowedShape = .object
        [{ key := "status", optional := true, type := .named (["Order"] ++ ["Status"]) },
         { key := "other", optional := true, type := .named (["Order"] ++ ["Status"]) }] := rfl
    have hs : spaceIn? (declarations shadowedShape) (".".intercalate ["Order"]) =
        some (allDeclarations shadowedShape.hoisted) := rfl
    have ht : typeIn? (allDeclarations shadowedShape.hoisted) "Status" =
        some (.union [.literal (.string "open")]) := rfl
    rw [htype, inhabits_object_iff]
    rintro ⟨fields, he, h⟩
    cases he
    have hother := (h _ (.tail _ (.head _))).2 _ rfl
    rw [inhabits_qualified_iff (by simp) hs ht] at hother
    simp [Literal.value] at hother

end Model

end ApiBindings
