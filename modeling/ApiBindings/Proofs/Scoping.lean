import ApiBindings.Proofs.Hoisting
import ApiBindings.Proofs.Names

namespace ApiBindings.TypeScript
open Model (Shape Kind Property)

def Module.exported (m : Module) : List Exported :=
  m.filterMap fun
    | .declared e => some e
    | _ => none

/-- A declaration stands in blocks, the innermost first and the module's own last. -/
inductive Stands (top : List Exported) : List (List Exported) → Declaration → Prop
  | top {e : Exported} (h : e ∈ top) : Stands top [top] e.declaration
  | inside {blocks : List (List Exported)} {name : String} {body : List Exported} {e : Exported}
      (hs : Stands top blocks (.space name body)) (h : e ∈ body) :
      Stands top (body :: blocks) e.declaration

abbrev Binding := TypeExpr × List (List Exported)

/-- The first of the blocks that declares a type of the name, from the inside out. -/
def plainBinding? (name : String) : List (List Exported) → Option Binding
  | [] => none
  | block :: outer =>
    match typeIn? block name with
    | some t => some (t, block :: outer)
    | none => plainBinding? name outer

/-- The block of the first namespace of the name, from the inside out, with the blocks around it. -/
def spaceBlocks? (name : String) : List (List Exported) → Option (List (List Exported))
  | [] => none
  | block :: outer =>
    match spaceIn? block name with
    | some body => some (body :: block :: outer)
    | none => spaceBlocks? name outer

/-- What the rest of a qualified name means in the namespace whose block is the innermost. -/
def memberBinding? : List (List Exported) → List String → Option Binding
  | block :: outer, [name] => (typeIn? block name).map fun t => (t, block :: outer)
  | block :: outer, name :: next :: rest =>
    (spaceIn? block name).bind fun body => memberBinding? (body :: block :: outer) (next :: rest)
  | _, _ => none

def TypeExpr.binding? (blocks : List (List Exported)) : TypeExpr → Option Binding
  | .named [name] => plainBinding? name blocks
  | .named (name :: next :: rest) =>
    (spaceBlocks? name blocks).bind fun inner => memberBinding? inner (next :: rest)
  | _ => none

theorem plainBinding?_append_of_none {name : String} {inner outer : List (List Exported)}
    (h : ∀ block ∈ inner, typeIn? block name = none) :
    plainBinding? name (inner ++ outer) = plainBinding? name outer := by
  induction inner with
  | nil => rfl
  | cons block rest ih =>
    rw [List.cons_append, plainBinding?, h block (.head _)]
    exact ih fun b hb => h b (.tail _ hb)

theorem length_lt_of_plainBinding? {name : String} {inner outer : List (List Exported)}
    {b : Binding} (hb : plainBinding? name (inner ++ outer) = some b)
    (h : ∃ block ∈ inner, (typeIn? block name).isSome) : outer.length < b.2.length := by
  induction inner with
  | nil => simp at h
  | cons block rest ih =>
    rw [List.cons_append, plainBinding?] at hb
    split at hb
    · cases hb
      simp only [List.length_cons, List.length_append]
      omega
    · next hnone =>
      obtain ⟨found, hf, hsome⟩ := h
      rcases List.mem_cons.mp hf with rfl | hf
      · simp [hnone] at hsome
      · exact ih hb ⟨found, hf, hsome⟩

theorem length_le_of_memberBinding? {blocks : List (List Exported)} {path : List String}
    {b : Binding} (h : memberBinding? blocks path = some b) : blocks.length ≤ b.2.length := by
  fun_induction memberBinding? blocks path with
  | case1 block outer name =>
    obtain ⟨t, -, rfl⟩ := Option.map_eq_some_iff.mp h
    exact Nat.le_refl _
  | case2 block outer name next rest ih =>
    obtain ⟨body, -, h⟩ := Option.bind_eq_some_iff.mp h
    have hle := ih body h
    simp only [List.length_cons] at hle ⊢
    omega
  | case3 => cases h

theorem length_of_spaceBlocks? {name : String} {blocks inner : List (List Exported)}
    (h : spaceBlocks? name blocks = some inner) : 2 ≤ inner.length := by
  induction blocks with
  | nil => cases h
  | cons block outer ih =>
    rw [spaceBlocks?] at h
    split at h
    · cases h
      simp
    · exact ih h

/-- What a qualified name means stands in a namespace, and never at the top level. -/
theorem length_of_qualified_binding? {name next : String} {rest : List String}
    {blocks : List (List Exported)} {b : Binding}
    (h : (TypeExpr.named (name :: next :: rest)).binding? blocks = some b) : 2 ≤ b.2.length := by
  obtain ⟨inner, hs, hm⟩ := Option.bind_eq_some_iff.mp h
  exact Nat.le_trans (length_of_spaceBlocks? hs) (length_le_of_memberBinding? hm)

inductive TypeExpr.Within (t : TypeExpr) : TypeExpr → Prop
  | self : t.Within t
  | array {item : TypeExpr} (h : t.Within item) : t.Within (.array item)
  | union {types : List TypeExpr} {u : TypeExpr} (hu : u ∈ types) (h : t.Within u) :
      t.Within (.union types)
  | intersection {types : List TypeExpr} {u : TypeExpr} (hu : u ∈ types) (h : t.Within u) :
      t.Within (.intersection types)
  | parenthesized {inner : TypeExpr} (h : t.Within inner) : t.Within (.parenthesized inner)
  | object {members : List Member} {m : Member} (hm : m ∈ members) (h : t.Within m.type) :
      t.Within (.object members)

/-- The type is written in the declaration; what is in the block of a namespace is not. -/
def Declaration.Writes (t : TypeExpr) : Declaration → Prop
  | .interface _ members => t.Within (.object members)
  | .alias _ type => t.Within type
  | _ => False

theorem TypeExpr.Within.grouped {t u : TypeExpr} (h : t.Within u) : t.Within u.grouped := by
  unfold TypeExpr.grouped
  split
  · exact .parenthesized h
  · exact .parenthesized h
  · exact h

theorem TypeExpr.Within.arrayIf {t u : TypeExpr} (h : t.Within u) (repeated : Bool) :
    t.Within (arrayIf repeated u) := by
  cases repeated with
  | false => exact h
  | true => exact .array h.grouped

theorem TypeExpr.Within.unionOf {t u : TypeExpr} {types : List TypeExpr} (hu : u ∈ types)
    (h : t.Within u) : t.Within (.unionOf types) := by
  match types with
  | [] => simp at hu
  | [v] =>
    obtain rfl := List.mem_singleton.mp hu
    exact h
  | v :: w :: rest => exact .union hu h

theorem TypeExpr.Within.intersectionOf {t u : TypeExpr} {types : List TypeExpr} (hu : u ∈ types)
    (h : t.Within u) : t.Within (.intersectionOf types) := by
  match types with
  | [] => simp at hu
  | [v] =>
    obtain rfl := List.mem_singleton.mp hu
    exact h.grouped
  | v :: w :: rest => exact .intersection (List.mem_map_of_mem hu) h.grouped

end ApiBindings.TypeScript

namespace ApiBindings.Model

/-- A reference is written in the body of a declaration of the kind: at the top, in a member, or in
a property that is not hoisted. -/
inductive Kind.Writes (target : String) : Kind → Prop
  | reference : Kind.Writes target (.reference target)
  | intersection {members hoisted : List Shape} {m : Shape} (hm : m ∈ members)
      (h : m.kind.Writes target) : Kind.Writes target (.intersection members hoisted)
  | union {members hoisted : List Shape} {m : Shape} (hm : m ∈ members)
      (h : m.kind.Writes target) : Kind.Writes target (.union members hoisted)
  | object {properties : List (String × Property)} {hoisted : List Shape}
      {p : String × Property} (hp : p ∈ properties) (hh : p.2.shape.isHoistable = false)
      (h : p.2.shape.kind.Writes target) : Kind.Writes target (.object properties hoisted)

theorem Kind.Writes.refers {target : String} {kind : Kind} (h : kind.Writes target) {s : Shape}
    (hs : s.kind = kind) : s.Refers target := by
  induction h generalizing s with
  | reference => exact .here hs
  | intersection hm _ ih => exact .inside (by simp [Shape.children, hs, hm]) (ih rfl)
  | union hm _ ih => exact .inside (by simp [Shape.children, hs, hm]) (ih rfl)
  | object hp _ _ ih =>
    refine .inside ?_ (ih rfl)
    rw [Shape.children, hs]
    exact List.mem_append_left _ (List.mem_map_of_mem hp)

theorem Shape.hoisted_subset_children (s : Shape) : s.hoisted ⊆ s.children := by
  obtain ⟨name, repeated, required, kind⟩ := s
  cases kind <;> simp [Shape.hoisted, Kind.hoisted, Shape.children]

theorem Shape.Encloses.refers {s d : Shape} {target : String} (hd : s.Encloses d)
    (h : d.Refers target) : s.Refers target := by
  induction hd with
  | self => exact h
  | hoisted hh _ ih => exact .inside (Shape.hoisted_subset_children _ hh) (ih h)

/-- A declared shape, with the lists of hoisted shapes around it, the innermost first. -/
inductive Site (top : List Shape) : List (List Shape) → Shape → Prop
  | top {s : Shape} (hs : s ∈ top) : Site top [] s
  | hoisted {scopes : List (List Shape)} {d s : Shape} (hd : Site top scopes d)
      (hs : s ∈ d.hoisted) : Site top (d.hoisted :: scopes) s

theorem Site.encloses {top : List Shape} {scopes : List (List Shape)} {s : Shape}
    (h : Site top scopes s) : ∃ root ∈ top, root.Encloses s := by
  induction h with
  | top hs => exact ⟨_, hs, .self _⟩
  | hoisted _ hs ih =>
    obtain ⟨root, hroot, hd⟩ := ih
    exact ⟨root, hroot, hd.trans (.hoisted hs (.self _))⟩

end ApiBindings.Model

namespace ApiBindings.TypeScript
open Model (Shape Kind Property Site)

theorem within_kindType {target : String} {kind : Kind} (h : kind.Writes target) (name : String) :
    (TypeExpr.ofName target).Within (kindType name kind) := by
  induction h generalizing name with
  | reference => exact .self
  | intersection hm _ ih =>
    rw [kindType, memberTypes_eq_map]
    exact .intersectionOf (List.mem_map_of_mem hm) ((ih _).arrayIf _)
  | union hm _ ih =>
    rw [kindType, memberTypes_eq_map]
    exact .unionOf (List.mem_map_of_mem hm) ((ih _).arrayIf _)
  | object hp hh _ ih =>
    rw [kindType, objectMembers_eq_map]
    refine .object (List.mem_map_of_mem hp) (TypeExpr.Within.arrayIf ?_ _)
    rw [propertyType, hh]
    exact ih _

theorem shapeDeclaration_writes {target : String} {s : Shape} (h : s.kind.Writes target) :
    (shapeDeclaration s).Writes (.ofName target) := by
  have hkind := within_kindType h s.name
  unfold shapeDeclaration
  split
  · next properties hoisted hk =>
    rw [hk] at hkind
    exact hkind
  · next base items hk =>
    rw [hk] at h
    cases h
  · exact hkind.arrayIf _

theorem allDeclarations_eq_flatMap (shapes : List Shape) :
    allDeclarations shapes = shapes.flatMap declarations := by
  induction shapes with
  | nil => rfl
  | cons s rest ih => rw [allDeclarations, ih, List.flatMap_cons]

theorem Module.exported_declared (exported : List Exported) :
    Module.exported (exported.map .declared) = exported := by
  rw [Module.exported, List.filterMap_map]
  exact List.filterMap_some

theorem exported_schemasModule (shapes : List Shape) :
    (schemasModule shapes).exported = allDeclarations shapes := by
  rw [schemasModule, Module.exported_declared, allDeclarations_eq_flatMap]

theorem typeIn?_allDeclarations_eq_none_iff {shapes : List Shape} {name : String} :
    typeIn? (allDeclarations shapes) name = none ↔ name ∉ shapes.map Shape.name := by
  induction shapes with
  | nil => simp [allDeclarations, typeIn?]
  | cons s rest ih =>
    rw [allDeclarations, typeIn?_append, typeIn?_declarations, Option.or_eq_none_iff, ih,
      List.map_cons, List.mem_cons, not_or]
    simp [eq_comm]

/-- The blocks around the declaration of a shape. -/
def blocksOf (top : List Shape) (scopes : List (List Shape)) : List (List Exported) :=
  scopes.map allDeclarations ++ [allDeclarations top]

theorem mem_allDeclarations {shapes : List Shape} {s : Shape} (hs : s ∈ shapes) {e : Exported}
    (he : e ∈ declarations s) : e ∈ allDeclarations shapes := by
  rw [allDeclarations_eq_flatMap]
  exact List.mem_flatMap_of_mem hs he

theorem space_mem_declarations {s : Shape} (h : s.hoisted ≠ []) :
    { declaration := .space s.name (allDeclarations s.hoisted) } ∈ declarations s := by
  rw [declarations_eq, if_neg (by simpa using h)]
  exact .tail _ (.head _)

theorem stands_of_site {top : List Shape} {scopes : List (List Shape)} {s : Shape}
    (h : Site top scopes s) :
    ∀ e ∈ declarations s, Stands (allDeclarations top) (blocksOf top scopes) e.declaration := by
  induction h with
  | top hs =>
    intro e he
    exact .top (mem_allDeclarations hs he)
  | hoisted _ hs ih =>
    intro e he
    -- The namespace stands right after the declaration that hoists into it.
    have hspace := ih _ (space_mem_declarations (List.ne_nil_of_mem hs))
    exact .inside hspace (mem_allDeclarations hs he)

/-- A name means a top-level declaration just when it has no point and no namespace around it
declares the same name. -/
theorem binding?_eq_top_iff {top : List Shape} (hn : (top.map Shape.name).Nodup)
    (scopes : List (List Shape)) {target : String} (ht : target ∈ top.map Shape.name) :
    (∃ s ∈ top, s.name = target ∧ (TypeExpr.ofName target).binding? (blocksOf top scopes) =
        some (declaredType s, [allDeclarations top])) ↔
      '.' ∉ target.toList ∧ ∀ shapes ∈ scopes, target ∉ shapes.map Shape.name := by
  constructor
  · -- In both cases what is found would stand in more blocks than the module's.
    rintro ⟨s, -, -, hb⟩
    have hpoint : '.' ∉ target.toList := by
      intro hp
      obtain ⟨first, second, rest, hname⟩ := TypeExpr.ofName_of_point hp
      rw [hname] at hb
      have hlen := length_of_qualified_binding? hb
      simp at hlen
    refine ⟨hpoint, fun shapes hs hmem => ?_⟩
    rw [TypeExpr.ofName_of_no_point hpoint] at hb
    have hsome : (typeIn? (allDeclarations shapes) target).isSome := by
      rw [← Option.ne_none_iff_isSome, ne_eq, typeIn?_allDeclarations_eq_none_iff]
      exact not_not_intro hmem
    have hlen := length_lt_of_plainBinding? hb ⟨_, List.mem_map_of_mem hs, hsome⟩
    simp at hlen
  · rintro ⟨hpoint, hscopes⟩
    obtain ⟨s, hs, rfl⟩ := List.mem_map.mp ht
    refine ⟨s, hs, rfl, ?_⟩
    have hinner : ∀ block ∈ scopes.map allDeclarations, typeIn? block s.name = none := by
      intro block hb
      obtain ⟨shapes, hsh, rfl⟩ := List.mem_map.mp hb
      exact typeIn?_allDeclarations_eq_none_iff.mpr (hscopes shapes hsh)
    rw [TypeExpr.ofName_of_no_point hpoint, TypeExpr.binding?, blocksOf,
      plainBinding?_append_of_none hinner, plainBinding?, typeIn?_allDeclarations hn hs]

end ApiBindings.TypeScript

namespace ApiBindings.Model
open Contract (Document)
open TypeScript

/-- Every reference is written where its declaration's shape is declared. It means the top-level
declaration of its name just when the name has no point and no namespace around it declares the
same name. -/
theorem reference_binding_iff {doc : Document} {limit : Nat} {api : Api} {ws : List Warning}
    (h : (Api.resolve doc limit).Yields api ws) (hn : (api.schemas.map Shape.name).Nodup)
    {scopes : List (List Shape)} {s : Shape} (hs : Site api.schemas scopes s) {target : String}
    (ht : s.kind.Writes target) :
    let blocks := scopes.map allDeclarations ++ [(schemasModule api.schemas).exported]
    Stands (schemasModule api.schemas).exported blocks (shapeDeclaration s) ∧
      (shapeDeclaration s).Writes (.ofName target) ∧
      ((∃ found ∈ api.schemas, found.name = target ∧
          (TypeExpr.ofName target).binding? blocks =
            some (declaredType found, [(schemasModule api.schemas).exported])) ↔
        '.' ∉ target.toList ∧ ∀ shapes ∈ scopes, target ∉ shapes.map Shape.name) := by
  rw [exported_schemasModule]
  obtain ⟨root, hroot, hencloses⟩ := hs.encloses
  have hrefers := hencloses.refers (ht.refers rfl)
  have hdeclared : target ∈ api.schemas.map Shape.name := by
    obtain ⟨_, _, -, -, hclosed⟩ := ofParts_of_resolve h
    exact hclosed root (List.mem_append_left _ hroot) target hrefers
  have hhead : { declaration := shapeDeclaration s } ∈ declarations s := by
    rw [declarations_eq]
    exact .head _
  exact ⟨stands_of_site hs _ hhead, shapeDeclaration_writes ht,
    binding?_eq_top_iff hn scopes hdeclared⟩

/-- An order with an address of its own, and lines with references to the components `Address` and
`Carrier`. -/
def delivery : Document :=
  { components := some
      { schemas :=
          [("Address", .inline { type := some .string }),
           ("Carrier", .inline { type := some .string }),
           ("Order", .inline
            { properties := some
                [("address", .inline
                  { properties := some [("street", .inline { type := some .string })] }),
                 ("lines", .inline
                  { properties := some
                      [("ship", .ref ⟨"/components/schemas/Address"⟩),
                       ("by", .ref ⟨"/components/schemas/Carrier"⟩)] })] })] } }

theorem carrier_binding_iff :
    ∃ api scopes s, (Api.resolve delivery 8).Yields api [] ∧
      (api.schemas.map Shape.name).Nodup ∧ Site api.schemas scopes s ∧ scopes.length = 1 ∧
      s.kind.Writes "Carrier" ∧
      ∃ found ∈ api.schemas, found.name = "Carrier" ∧
        (TypeExpr.ofName "Carrier").binding?
            (scopes.map allDeclarations ++ [(schemasModule api.schemas).exported]) =
          some (declaredType found, [(schemasModule api.schemas).exported]) := by
  have h : (Api.resolve delivery 8).Yields _ _ := rfl
  have hn : ["Address", "Carrier", "Order"].Nodup := by decide
  refine ⟨_, _, _, h, hn, .hoisted (.top (.tail _ (.tail _ (.head _)))) (.tail _ (.head _)), rfl,
    .object (.tail _ (.head _)) rfl .reference, ?_⟩
  refine (reference_binding_iff h hn
    (.hoisted (.top (.tail _ (.tail _ (.head _)))) (.tail _ (.head _)))
    (.object (.tail _ (.head _)) rfl .reference)).2.2.mpr ⟨by decide, ?_⟩
  intro shapes hs
  obtain rfl := List.mem_singleton.mp hs
  decide

/-- There `Address` means the order's own address. -/
theorem address_captured :
    ∃ api scopes s, (Api.resolve delivery 8).Yields api [] ∧
      (api.schemas.map Shape.name).Nodup ∧ Site api.schemas scopes s ∧
      s.kind.Writes "Address" ∧
      ¬ ∃ found ∈ api.schemas, found.name = "Address" ∧
        (TypeExpr.ofName "Address").binding?
            (scopes.map allDeclarations ++ [(schemasModule api.schemas).exported]) =
          some (declaredType found, [(schemasModule api.schemas).exported]) := by
  have h : (Api.resolve delivery 8).Yields _ _ := rfl
  have hn : ["Address", "Carrier", "Order"].Nodup := by decide
  refine ⟨_, _, _, h, hn, .hoisted (.top (.tail _ (.tail _ (.head _)))) (.tail _ (.head _)),
    .object (.head _) rfl .reference, ?_⟩
  rintro ⟨found, -, -, hb⟩
  -- What is found stands in two blocks, that of the namespace and the module's.
  have hlen : some 2 = some 1 := congrArg (Option.map fun b : Binding => b.2.length) hb
  exact absurd hlen (by decide)

end ApiBindings.Model
