import ApiBindings.Proofs.Casing
import ApiBindings.Proofs.Designation
import ApiBindings.Proofs.Hoisting

namespace ApiBindings.Contract

mutual

/-- A schema that is declared where it is the value of a property: an object or an enumeration, a
list of such, or a composition that has something to declare inside. -/
inductive NeedsDeclaration : SchemaNode → Prop
  | enum {s : Schema} {items : List Json} (hf : s.form = .enum items) : NeedsDeclaration (.inline s)
  | object {s : Schema} {properties : List (String × SchemaNode)}
      (hf : s.form = .object properties) : NeedsDeclaration (.inline s)
  | array {s : Schema} {item : SchemaNode} (hf : s.form = .array (some item))
      (h : NeedsDeclaration item) : NeedsDeclaration (.inline s)
  | composition {s : Schema} {nodes : List SchemaNode} {node : SchemaNode}
      (hf : s.form = .allOf nodes ∨ s.form = .oneOf nodes) (hn : node ∈ nodes)
      (h : Hoists node) : NeedsDeclaration (.inline s)

/-- A schema with something to declare inside: an object with a property that needs it, also as a
member of a composition or as the item of a list. -/
inductive Hoists : SchemaNode → Prop
  | object {s : Schema} {properties : List (String × SchemaNode)} {entry : String × SchemaNode}
      (hf : s.form = .object properties) (he : entry ∈ properties)
      (h : NeedsDeclaration entry.2) : Hoists (.inline s)
  | array {s : Schema} {item : SchemaNode} (hf : s.form = .array (some item)) (h : Hoists item) :
      Hoists (.inline s)
  | composition {s : Schema} {nodes : List SchemaNode} {node : SchemaNode}
      (hf : s.form = .allOf nodes ∨ s.form = .oneOf nodes) (hn : node ∈ nodes)
      (h : Hoists node) : Hoists (.inline s)

end

theorem needsDeclaration_inline_iff {s : Schema} : NeedsDeclaration (.inline s) ↔
    match s.form with
    | .allOf nodes | .oneOf nodes => ∃ node ∈ nodes, Hoists node
    | .enum _ | .object _ => True
    | .array item => ∃ node ∈ item, NeedsDeclaration node
    | .scalar _ => False := by
  constructor
  · intro h
    cases h with
    | enum hf => rw [hf]; trivial
    | object hf => rw [hf]; trivial
    | array hf h => rw [hf]; exact ⟨_, rfl, h⟩
    | composition hf hn h => rcases hf with hf | hf <;> rw [hf] <;> exact ⟨_, hn, h⟩
  · intro h
    split at h
    · next nodes hf =>
      obtain ⟨node, hn, h⟩ := h
      exact .composition (.inl hf) hn h
    · next nodes hf =>
      obtain ⟨node, hn, h⟩ := h
      exact .composition (.inr hf) hn h
    · next items hf => exact .enum hf
    · next properties hf => exact .object hf
    · next item hf =>
      obtain ⟨node, rfl, h⟩ := h
      exact .array hf h
    · exact absurd h id

theorem hoists_inline_iff {s : Schema} : Hoists (.inline s) ↔
    match s.form with
    | .allOf nodes | .oneOf nodes => ∃ node ∈ nodes, Hoists node
    | .object properties => ∃ entry ∈ properties, NeedsDeclaration entry.2
    | .array item => ∃ node ∈ item, Hoists node
    | .enum _ | .scalar _ => False := by
  constructor
  · intro h
    cases h with
    | object hf he h => rw [hf]; exact ⟨_, he, h⟩
    | array hf h => rw [hf]; exact ⟨_, rfl, h⟩
    | composition hf hn h => rcases hf with hf | hf <;> rw [hf] <;> exact ⟨_, hn, h⟩
  · intro h
    split at h
    · next nodes hf =>
      obtain ⟨node, hn, h⟩ := h
      exact .composition (.inl hf) hn h
    · next nodes hf =>
      obtain ⟨node, hn, h⟩ := h
      exact .composition (.inr hf) hn h
    · next properties hf =>
      obtain ⟨entry, he, h⟩ := h
      exact .object hf he h
    · next item hf =>
      obtain ⟨node, rfl, h⟩ := h
      exact .array hf h
    · exact absurd h id
    · exact absurd h id

/-- The key is that of a property that needs a declaration, in an object that the meaning of the
node rests on. -/
def HoistedKey (node : SchemaNode) (key : String) : Prop :=
  ∃ s properties inner, Reaches node (.inline s) ∧ s.form = .object properties ∧
    (key, inner) ∈ properties ∧ NeedsDeclaration inner

theorem not_hoistedKey_ref {p : Pointer} {key : String} : ¬ HoistedKey (.ref p) key := by
  rintro ⟨s, properties, inner, hr, -⟩
  cases hr

/-- A hoisted key is in the object itself or inside a child. -/
theorem hoistedKey_inline_iff {s : Schema} {key : String} :
    HoistedKey (.inline s) key ↔
      (∃ properties inner, s.form = .object properties ∧ (key, inner) ∈ properties ∧
        NeedsDeclaration inner) ∨ ∃ inner ∈ s.form.children, HoistedKey inner key := by
  constructor
  · rintro ⟨t, properties, value, hr, hrest⟩
    cases hr with
    | self => exact .inl ⟨properties, value, hrest⟩
    | child hi hr => exact .inr ⟨_, hi, t, properties, value, hr, hrest⟩
  · rintro (⟨properties, value, hrest⟩ | ⟨inner, hi, t, properties, value, hr, hrest⟩)
    · exact ⟨s, properties, value, .self _, hrest⟩
    · exact ⟨t, properties, value, .child hi hr, hrest⟩

theorem hoistedKey_of_children {s : Schema} (nodes : List SchemaNode) {key : String}
    (hc : s.form.children = nodes) (ho : ∀ properties, s.form ≠ .object properties) :
    HoistedKey (.inline s) key ↔ ∃ inner ∈ nodes, HoistedKey inner key := by
  rw [hoistedKey_inline_iff, hc]
  constructor
  · rintro (⟨properties, _, hf, -⟩ | h)
    · exact absurd hf (ho properties)
    · exact h
  · exact .inr

theorem not_hoistedKey_of_no_children {s : Schema} {key : String} (hc : s.form.children = [])
    (ho : ∀ properties, s.form ≠ .object properties) : ¬ HoistedKey (.inline s) key := by
  rw [hoistedKey_of_children [] hc ho]
  simp

def Schema.IsBase (s : Schema) : Prop :=
  (∃ properties, s.form = .object properties) ∨ ∃ items, s.form = .enum items

/-- A list of objects or of literals that are described in place. As a component it is split. -/
def SplitList (node : SchemaNode) : Prop :=
  ∃ s t, node = .inline s ∧ s.form = .array (some (.inline t)) ∧ t.IsBase

theorem splitList_inline_iff {s : Schema} :
    SplitList (.inline s) ↔ ∃ t, s.form = .array (some (.inline t)) ∧ t.IsBase := by
  constructor
  · rintro ⟨_, t, he, h⟩
    cases he
    exact ⟨t, h⟩
  · rintro ⟨t, h⟩
    exact ⟨s, t, rfl, h⟩

end ApiBindings.Contract

namespace ApiBindings.Model
open Contract (Components Method RefOr Response Schema SchemaNode Form Reaches NeedsDeclaration
  Hoists HoistedKey SplitList needsDeclaration_inline_iff hoists_inline_iff hoistedKey_inline_iff
  hoistedKey_of_children not_hoistedKey_of_no_children not_hoistedKey_ref splitList_inline_iff)
open Resolving

/-- A declaration of the name comes with the shape: its own, or one in its namespace. -/
def Shape.Declares (s : Shape) (name : String) : Prop := ∃ d, s.Encloses d ∧ d.name = name

/-- A declaration of the name stands in the namespace of the shape, at any depth. -/
def Shape.DeclaresInside (s : Shape) (name : String) : Prop := ∃ h ∈ s.hoisted, h.Declares name

theorem Shape.declares_iff {s : Shape} {name : String} :
    s.Declares name ↔ s.name = name ∨ s.DeclaresInside name := by
  constructor
  · rintro ⟨d, hd, hname⟩
    cases hd with
    | self => exact .inl hname
    | hoisted hh hd => exact .inr ⟨_, hh, d, hd, hname⟩
  · rintro (hname | ⟨inner, hh, d, hd, hname⟩)
    · exact ⟨s, .self s, hname⟩
    · exact ⟨d, .hoisted hh hd, hname⟩

theorem Shape.declares_declaration {s : Shape} {name : String} :
    s.declaration.Declares name ↔ s.Declares name := by
  rw [Shape.declares_iff, Shape.declares_iff]
  rfl

theorem Shape.isHoistable_of_declaresInside {s : Shape} {name : String}
    (h : s.DeclaresInside name) : s.isHoistable = true := by
  by_contra hno
  obtain ⟨inner, hh, -⟩ := h
  rw [Shape.hoisted_eq_nil_of_not_isHoistable (Bool.not_eq_true _ ▸ hno)] at hh
  cases hh

/-- The namespace of an object declares what comes with the properties that need a declaration. -/
theorem declaresInside_objectOf_iff {name inner : String} {properties : List (String × Property)} :
    (objectOf name properties).DeclaresInside inner ↔
      ∃ p ∈ properties, p.2.shape.isHoistable = true ∧ p.2.shape.Declares inner := by
  have hhoisted : (objectOf name properties).hoisted = hoistedOf properties := rfl
  simp only [Shape.DeclaresInside, hhoisted, mem_hoistedOf_iff]
  constructor
  · rintro ⟨_, ⟨p, hp, hh, rfl⟩, hd⟩
    exact ⟨p, hp, hh, Shape.declares_declaration.mp hd⟩
  · rintro ⟨p, hp, hh, hd⟩
    exact ⟨_, ⟨p, hp, hh, rfl⟩, Shape.declares_declaration.mpr hd⟩

/-- What a node declares, against the shape that it resolves to. -/
structure DeclaresAs (name : String) (node : SchemaNode) (shape : Shape) : Prop where
  name_eq : shape.name = name
  needs_iff : shape.isHoistable = true ↔ NeedsDeclaration node
  hoists_iff : shape.hoisted ≠ [] ↔ Hoists node
  inside_iff : ∀ inner, shape.DeclaresInside inner ↔
    ∃ key, HoistedKey node key ∧ Text.pascalCase key = inner

theorem DeclaresAs.congr {name : String} {node : SchemaNode} {s t : Shape}
    (h : DeclaresAs name node s) (hn : t.name = s.name) (hk : t.kind = s.kind) :
    DeclaresAs name node t := by
  have hh : t.isHoistable = s.isHoistable := by rw [Shape.isHoistable, hk, Shape.isHoistable]
  have hi : t.hoisted = s.hoisted := congrArg Kind.hoisted hk
  constructor
  · rw [hn, h.name_eq]
  · rw [hh, h.needs_iff]
  · rw [hi, h.hoists_iff]
  · intro inner
    rw [Shape.DeclaresInside, hi]
    exact h.inside_iff inner

theorem declaresAs_leaf {name : String} {kind : Kind} {node : SchemaNode}
    (hneeds : Shape.isHoistable { name, kind } = true ↔ NeedsDeclaration node)
    (hh : kind.hoisted = []) (hno : ¬ Hoists node) (hkeys : ∀ key, ¬ HoistedKey node key) :
    DeclaresAs name node { name, kind } := by
  refine ⟨rfl, hneeds, ?_, fun inner => ?_⟩
  · simp [Shape.hoisted, hh, hno]
  · simp [Shape.DeclaresInside, Shape.hoisted, hh, hkeys]

/-- The members of a composition hand what they have hoisted up to it. -/
theorem declaresAs_composed {make : List Shape → List Shape → Kind}
    (hhoisted : ∀ kept hoisted, (make kept hoisted).hoisted = hoisted)
    (hneeds : ∀ name kept hoisted,
      Shape.isHoistable { name, kind := make kept hoisted } = !hoisted.isEmpty)
    {name : String} {s : Schema} {nodes : List SchemaNode} {results : List (Shape × List Warning)}
    (hform : s.form = .allOf nodes ∨ s.form = .oneOf nodes)
    (h : List.Forall₂ (fun node r => DeclaresAs name node r.1) nodes results) :
    DeclaresAs name (.inline s) (composed make name (results.map Prod.fst)) := by
  have hup : (composed make name (results.map Prod.fst)).hoisted =
      (results.map Prod.fst).flatMap Shape.hoisted := hhoisted _ _
  have hsome : (results.map Prod.fst).flatMap Shape.hoisted ≠ [] ↔ ∃ node ∈ nodes, Hoists node := by
    rw [exists_mem_iff_of_forall₂ (q := fun r => r.1.hoisted ≠ [])
      (h.imp fun _ _ hm => hm.hoists_iff.symm)]
    simp
  constructor
  · rfl
  · rw [composed, hneeds, Bool.not_eq_true', List.isEmpty_eq_false_iff, hsome,
      needsDeclaration_inline_iff]
    rcases hform with hf | hf <;> rw [hf]
  · rw [hup, hsome, hoists_inline_iff]
    rcases hform with hf | hf <;> rw [hf]
  · intro inner
    have hkeys : ∀ key, HoistedKey (.inline s) key ↔ ∃ node ∈ nodes, HoistedKey node key := by
      intro key
      apply hoistedKey_of_children
      · rcases hform with hf | hf <;> rw [hf] <;> rfl
      · rcases hform with hf | hf <;> simp [hf]
    have hinside : (composed make name (results.map Prod.fst)).DeclaresInside inner ↔
        ∃ r ∈ results, r.1.DeclaresInside inner := by
      unfold Shape.DeclaresInside
      rw [hup]
      simp only [List.mem_flatMap, List.mem_map]
      constructor
      · rintro ⟨d, ⟨_, ⟨r, hr, rfl⟩, hd⟩, hrest⟩
        exact ⟨r, hr, d, hd, hrest⟩
      · rintro ⟨r, hr, d, hd, hrest⟩
        exact ⟨d, ⟨_, ⟨r, hr, rfl⟩, hd⟩, hrest⟩
    rw [hinside, ← exists_mem_iff_of_forall₂ (h.imp fun _ _ hm => (hm.inside_iff inner).symm)]
    simp only [hkeys]
    constructor
    · rintro ⟨node, hn, key, hkey, he⟩
      exact ⟨key, ⟨node, hn, hkey⟩, he⟩
    · rintro ⟨key, ⟨node, hn, hkey⟩, he⟩
      exact ⟨node, hn, key, hkey, he⟩

/-- An object hoists the properties that need it. What stands inside of one that does not has
nothing to hoist. -/
theorem declaresAs_objectOf {name : String} {s : Schema} {properties : List (String × SchemaNode)}
    {results : List ((String × Property) × List Warning)} (hform : s.form = .object properties)
    (h : List.Forall₂ (fun entry r => ∃ shape, r.1 = resolvedProperty s entry shape ∧
      DeclaresAs (Text.pascalCase entry.1) entry.2 shape) properties results) :
    DeclaresAs name (.inline s) (objectOf name (results.map Prod.fst)) := by
  have hall : List.Forall₂ (fun entry r =>
      DeclaresAs (Text.pascalCase entry.1) entry.2 r.1.2.shape) properties results := by
    apply h.imp
    rintro entry r ⟨shape, hshape, hd⟩
    rw [hshape]
    exact hd.congr rfl rfl
  have hentry : ∀ inner, List.Forall₂ (fun entry r =>
      (NeedsDeclaration entry.2 ∧ Text.pascalCase entry.1 = inner ∨
        ∃ key, HoistedKey entry.2 key ∧ Text.pascalCase key = inner) ↔
      r.1.2.shape.isHoistable = true ∧ r.1.2.shape.Declares inner) properties results := by
    intro inner
    apply hall.imp
    intro entry r hd
    rw [← hd.needs_iff, ← hd.inside_iff, Shape.declares_iff, hd.name_eq]
    have hh : r.1.2.shape.DeclaresInside inner → r.1.2.shape.isHoistable = true :=
      Shape.isHoistable_of_declaresInside
    tauto
  constructor
  · rfl
  · rw [needsDeclaration_inline_iff, hform]
    exact iff_of_true rfl trivial
  · have hsome : hoistedOf (results.map Prod.fst) ≠ [] ↔
        ∃ r ∈ results, r.1.2.shape.isHoistable = true := by
      simp [List.eq_nil_iff_forall_not_mem, mem_hoistedOf_iff]
    rw [hoists_inline_iff, hform]
    exact hsome.trans (exists_mem_iff_of_forall₂ (hall.imp fun _ _ hd => hd.needs_iff.symm)).symm
  · intro inner
    have hinside : (objectOf name (results.map Prod.fst)).DeclaresInside inner ↔
        ∃ r ∈ results, r.1.2.shape.isHoistable = true ∧ r.1.2.shape.Declares inner := by
      rw [declaresInside_objectOf_iff]
      simp only [List.mem_map, exists_exists_and_eq_and]
    rw [hinside, ← exists_mem_iff_of_forall₂ (hentry inner)]
    simp only [hoistedKey_inline_iff, hform, Form.children, Form.object.injEq, List.mem_map]
    constructor
    · rintro ⟨entry, he, ⟨hneeds, hkey⟩ | ⟨key, hkey, hname⟩⟩
      · exact ⟨entry.1, .inl ⟨properties, entry.2, rfl, he, hneeds⟩, hkey⟩
      · exact ⟨key, .inr ⟨entry.2, ⟨entry, he, rfl⟩, hkey⟩, hname⟩
    · rintro ⟨key, ⟨_, node, rfl, he, hneeds⟩ | ⟨_, ⟨entry, he, rfl⟩, hkey⟩, hname⟩
      · exact ⟨(key, node), he, .inl ⟨hneeds, hname⟩⟩
      · exact ⟨entry, he, .inr ⟨key, hkey, hname⟩⟩

theorem declaresAs_array {name itemName : String} {s : Schema} {item : SchemaNode} {shape : Shape}
    (hform : s.form = .array (some item)) (h : DeclaresAs itemName item shape) :
    DeclaresAs name (.inline s) { shape with name, repeated := true } := by
  have hkeys : ∀ key, HoistedKey (.inline s) key ↔ HoistedKey item key := by
    intro key
    rw [hoistedKey_of_children [item] (by rw [hform]; rfl) (by simp [hform])]
    simp
  constructor
  · rfl
  · refine Iff.trans h.needs_iff ?_
    rw [needsDeclaration_inline_iff, hform]
    simp
  · refine Iff.trans h.hoists_iff ?_
    rw [hoists_inline_iff, hform]
    simp
  · intro inner
    simp only [hkeys]
    exact h.inside_iff inner

theorem resolveSchema_declaresAs {limit : Nat} {name : String} {node : SchemaNode} {shape : Shape}
    {ws : List Warning} (h : (resolveSchema name node limit).Yields shape ws) :
    DeclaresAs name node shape := by
  refine resolveNode_induction (P := fun name node shape _ => DeclaresAs name node shape)
    ?reference ?allOf ?oneOf ?enum ?array ?object ?scalar h
  case allOf =>
    intro name s nodes results hform hall
    exact declaresAs_composed (fun _ _ => rfl) (fun _ _ _ => rfl) (.inl hform) hall
  case oneOf =>
    intro name s nodes results hform hall
    exact declaresAs_composed (fun _ _ => rfl) (fun _ _ _ => rfl) (.inr hform) hall
  case object =>
    intro name s properties results hform hall
    exact declaresAs_objectOf hform hall
  case array =>
    intro name s item shape ws hform _ ih
    exact declaresAs_array hform ih
  case reference =>
    intro name p _
    apply declaresAs_leaf
    · exact iff_of_false Bool.false_ne_true fun h => nomatch h
    · rfl
    · exact fun h => nomatch h
    · exact fun _ => not_hoistedKey_ref
  case enum =>
    intro name s items base hform _
    apply declaresAs_leaf
    · rw [needsDeclaration_inline_iff, hform]
      exact iff_of_true rfl trivial
    · rfl
    · rw [hoists_inline_iff, hform]
      exact id
    · exact fun key => not_hoistedKey_of_no_children (by rw [hform]; rfl) (by simp [hform])
  case scalar =>
    intro name s type kind hform hkind
    have hleaf : Shape.isHoistable { name, kind } = false ∧ kind.hoisted = [] := by
      unfold primitive? at hkind
      split at hkind <;> cases hkind <;> exact ⟨rfl, rfl⟩
    apply declaresAs_leaf
    · rw [needsDeclaration_inline_iff, hform, hleaf.1]
      simp
    · exact hleaf.2
    · rw [hoists_inline_iff, hform]
      exact id
    · exact fun key => not_hoistedKey_of_no_children (by rw [hform]; rfl) (by simp [hform])

def Kind.IsBase (kind : Kind) : Prop :=
  (∃ properties hoisted, kind = .object properties hoisted) ∨ ∃ base items, kind = .enum base items

/-- Only lists are split, and what they are lists of is no list itself. -/
theorem resolveSchema_isSplit_iff {limit : Nat} {name : String} {node : SchemaNode} {shape : Shape}
    {ws : List Warning} (h : (resolveSchema name node limit).Yields shape ws) :
    shape.IsSplit ↔ SplitList node := by
  refine (resolveNode_induction (P := fun _ node shape _ =>
    (shape.repeated = false → (shape.kind.IsBase ↔ ∃ t, node = .inline t ∧ t.IsBase)) ∧
      (shape.IsSplit ↔ SplitList node)) ?reference ?allOf ?oneOf ?enum ?array ?object ?scalar h).2
  case array =>
    intro name s item shape ws hform hrepeated ih
    refine ⟨by simp, ?_⟩
    have hsplit : Shape.IsSplit { shape with name, repeated := true } ↔ shape.kind.IsBase := by
      simp [Shape.IsSplit, Kind.IsBase]
    rw [hsplit, ih.1 hrepeated, splitList_inline_iff, hform]
    simp
  case reference =>
    intro name p _
    simp [Kind.IsBase, Shape.IsSplit, SplitList]
  case allOf | oneOf =>
    intro name s nodes results hform _
    simp [Kind.IsBase, Shape.IsSplit, composed, splitList_inline_iff, Schema.IsBase, hform]
  case enum =>
    intro name s items base hform _
    simp [Kind.IsBase, Shape.IsSplit, splitList_inline_iff, Schema.IsBase, hform]
  case object =>
    intro name s properties results hform _
    simp [Kind.IsBase, Shape.IsSplit, objectOf, splitList_inline_iff, Schema.IsBase, hform]
  case scalar =>
    intro name s type kind hform hkind
    have hbase : ¬ kind.IsBase := by
      unfold primitive? at hkind
      split at hkind <;> cases hkind <;> simp [Kind.IsBase]
    simp [hbase, Shape.IsSplit, splitList_inline_iff, Schema.IsBase, hform]

/-- The name of an operation. None is without one in a contract that resolves. -/
def operationId (o : OperationEntry) : String :=
  o.2.2.2.operationId.getD ""

theorem nonempty?_eq_some {s : Option String} {t : String} (h : nonempty? s = some t) :
    s = some t := by
  obtain ⟨u, rfl, hu⟩ := Option.bind_eq_some_iff.mp h
  split at hu
  · cases hu
  · exact hu

theorem resolveOperation_id {components : Components} {limit : Nat}
    {o : OperationEntry} {r : List Shape × Operation} {ws : List Warning}
    (h : (resolveOperation components limit o.1 o.2.1 o.2.2.1 o.2.2.2).Yields r ws) :
    r.2.id = operationId o := by
  obtain ⟨id, _, _, hid, h, -⟩ := bind_yields_iff.mp h
  have hid : id = operationId o := by
    rw [operationId, nonempty?_eq_some (require_yields_iff.mp hid).1, Option.getD_some]
  obtain ⟨_, _, _, -, h, -⟩ := bind_yields_iff.mp h
  obtain ⟨_, _, _, -, h, -⟩ := bind_yields_iff.mp h
  obtain ⟨_, _, _, -, h, -⟩ := bind_yields_iff.mp h
  obtain ⟨_, _, _, -, h, -⟩ := bind_yields_iff.mp h
  dsimp only at h
  split at h
  · obtain ⟨_, _, _, -, h, -⟩ := bind_yields_iff.mp h
    obtain ⟨hr, -⟩ := pure_yields_iff.mp h
    cases hr
    exact hid
  · obtain ⟨_, _, _, -, h, -⟩ := bind_yields_iff.mp h
    obtain ⟨hr, -⟩ := pure_yields_iff.mp h
    cases hr
    exact hid

/-- The operation answers with JSON content whose schema needs a declaration. -/
def DeclaresResponse (components : Components) (method : Method)
    (responses : List (String × RefOr Response)) : Prop :=
  ∃ code place response node, chosenResponse? method responses = some (code, place) ∧
    code ≠ "204" ∧ Takes responsesSection components.responses place response ∧
    jsonSchema? response.content = some node ∧ NeedsDeclaration node

theorem Answers.declaresResponse_iff {components : Components} {limit : Nat} {id : String}
    {method : Method} {responses : List (String × RefOr Response)} {answer : Option Shape}
    (h : Answers components limit id method responses answer) :
    (∃ shape ∈ answer, shape.isHoistable = true) ↔
      DeclaresResponse components method responses := by
  constructor
  · rintro ⟨shape, ha, hh⟩
    rw [Option.mem_def] at ha
    subst ha
    cases h with
    | content hc hcode ht hn hs =>
      exact ⟨_, _, _, _, hc, hcode, ht, hn, (resolveSchema_declaresAs hs).needs_iff.mp hh⟩
  · rintro ⟨code, place, response, node, hc, hcode, ht, hn, hneeds⟩
    obtain ⟨response', node', shape, ws, ht', hn', hs, rfl⟩ := h.exists_content hc hcode
    obtain rfl := Takes.unique ht ht'
    cases hn.symm.trans hn'
    exact ⟨shape, rfl, (resolveSchema_declaresAs hs).needs_iff.mpr hneeds⟩

/-- An operation declares its envelope, and before it its response if that needs it. -/
theorem OperationParts.names_cases {components : Components} {limit : Nat}
    {entry : OperationEntry} {result : List Shape × Operation}
    (parts : OperationParts components limit entry result) :
    ¬ DeclaresResponse components entry.2.2.1 entry.2.2.2.responses ∧
        result.1.map Shape.name = [Text.pascalCase result.2.id ++ "Request"] ∨
      DeclaresResponse components entry.2.2.1 entry.2.2.2.responses ∧
        result.1.map Shape.name = [Text.pascalCase result.2.id ++ "Response",
          Text.pascalCase result.2.id ++ "Request"] := by
  rw [← parts.response.declaresResponse_iff, parts.declared_eq, List.map_append,
    List.map_singleton, objectOf, parts.request, Text.pascalCase_request]
  cases hr : result.2.response with
  | none => simp
  | some shape =>
    obtain ⟨node, ws, hy⟩ := parts.response_resolves hr
    have hname : shape.declaration.name = Text.pascalCase result.2.id ++ "Response" :=
      (resolveSchema_name hy).trans (Text.pascalCase_response _)
    cases hh : shape.isHoistable with
    | false => simp [hh]
    | true => simp [hh, hname]

end ApiBindings.Model
