import ApiBindings.Model.Schema
import ApiBindings.Proofs.Resolving

/-!
What a schema is taken for, which nodes its meaning rests on, and what a node resolves to. All later
statements about resolved schemas go by `resolveNode_induction`.
-/
namespace ApiBindings.Contract

inductive Form where
  | allOf (nodes : List SchemaNode)
  | oneOf (nodes : List SchemaNode)
  | enum (items : List Json)
  | array (item : Option SchemaNode)
  | object (properties : List (String × SchemaNode))
  | scalar (type : Option SchemaType)

/-- The first of the forms that applies. -/
def Schema.form (s : Schema) : Form :=
  match s.allOf, s.oneOf, s.enum with
  | some nodes, _, _ => .allOf nodes
  | none, some nodes, _ => .oneOf nodes
  | none, none, some items => .enum items
  | none, none, none =>
    match s.type, s.properties with
    | some .array, _ => .array s.items
    | some .object, properties => .object (properties.getD [])
    | none, some properties => .object properties
    | type, _ => .scalar type

def Form.children : Form → List SchemaNode
  | .allOf nodes => nodes
  | .oneOf nodes => nodes
  | .array item => item.toList
  | .object properties => properties.map Prod.snd
  | _ => []

theorem mem_children_cases {s : Schema} {node : SchemaNode} (h : node ∈ s.form.children) :
    (∃ nodes, s.allOf = some nodes ∧ node ∈ nodes) ∨
      (∃ nodes, s.oneOf = some nodes ∧ node ∈ nodes) ∨ s.items = some node ∨
      ∃ properties, s.properties = some properties ∧ node ∈ properties.map Prod.snd := by
  unfold Schema.form at h
  split at h
  · next hall => exact .inl ⟨_, hall, h⟩
  · next hone => exact .inr (.inl ⟨_, hone, h⟩)
  · cases h
  · split at h
    · exact .inr (.inr (.inl (Option.mem_toList.mp h)))
    · cases hp : s.properties with
      | none =>
        rw [hp] at h
        cases h
      | some properties =>
        rw [hp] at h
        exact .inr (.inr (.inr ⟨properties, rfl, h⟩))
    · next hp => exact .inr (.inr (.inr ⟨_, hp, h⟩))
    · cases h

theorem sizeOf_lt_of_mem_children {s : Schema} {node : SchemaNode} (h : node ∈ s.form.children) :
    sizeOf node < sizeOf s := by
  obtain ⟨type, description, default, properties, required, items, enum, allOf, oneOf⟩ := s
  rw [Schema.mk.sizeOf_spec]
  rcases mem_children_cases h with ⟨nodes, hs, hn⟩ | ⟨nodes, hs, hn⟩ | hs | ⟨entries, hs, hn⟩
  · cases hs
    have hlt := List.sizeOf_lt_of_mem hn
    rw [Option.some.sizeOf_spec]
    omega
  · cases hs
    have hlt := List.sizeOf_lt_of_mem hn
    rw [Option.some.sizeOf_spec nodes]
    omega
  · cases hs
    rw [Option.some.sizeOf_spec]
    omega
  · cases hs
    obtain ⟨⟨key, value⟩, he, rfl⟩ := List.mem_map.mp hn
    have hlt := List.sizeOf_lt_of_mem he
    rw [Prod.mk.sizeOf_spec] at hlt
    rw [Option.some.sizeOf_spec]
    dsimp only
    omega

/-- The nodes that the meaning of a node rests on: itself, and those inside it by its form. -/
inductive Reaches : SchemaNode → SchemaNode → Prop
  | self (node : SchemaNode) : Reaches node node
  | child {s : Schema} {inner node : SchemaNode} (hi : inner ∈ s.form.children)
      (h : Reaches inner node) : Reaches (.inline s) node

end ApiBindings.Contract

namespace ApiBindings.Model
open Contract (Schema SchemaNode SchemaType Form Pointer)
open Resolving

/-- A composition of members, whose hoisted shapes have moved up to it. -/
def composed (make : List Shape → List Shape → Kind) (name : String) (members : List Shape) :
    Shape :=
  { name
    kind := make (members.map fun m => { m with kind := m.kind.withoutHoisted })
      (members.flatMap Shape.hoisted) }

def objectOf (name : String) (properties : List (String × Property)) : Shape :=
  { name, kind := .object properties (hoistedOf properties) }

/-- The property that an entry of an object schema makes, once its node has resolved. -/
def resolvedProperty (s : Schema) (entry : String × SchemaNode) (shape : Shape) :
    String × Property :=
  (entry.1, Property.of shape (s.required.contains entry.1) (descriptionOf entry.2)
    (defaultOf entry.2))

theorem Shape.hoisted_eq_nil_of_not_isHoistable {s : Shape} (h : s.isHoistable = false) :
    s.hoisted = [] := by
  obtain ⟨name, repeated, required, kind⟩ := s
  cases kind <;> simp_all [Shape.isHoistable, Shape.hoisted, Kind.hoisted]

theorem mem_hoistedOf_iff {properties : List (String × Property)} {d : Shape} :
    d ∈ hoistedOf properties ↔
      ∃ p ∈ properties, p.2.shape.isHoistable = true ∧ p.2.shape.declaration = d := by
  simp [hoistedOf]

theorem declaration_mem_hoistedOf {properties : List (String × Property)}
    {entry : String × Property} (he : entry ∈ properties)
    (hh : entry.2.shape.isHoistable = true) : entry.2.shape.declaration ∈ hoistedOf properties :=
  mem_hoistedOf_iff.mpr ⟨entry, he, hh, rfl⟩

/-- What a schema of a form resolves to, given what the nodes inside it do. -/
def resolveForm (resolve : String → SchemaNode → Resolving Shape) (name : String) (s : Schema) :
    Form → Resolving Shape
  | .allOf nodes => do compose .intersection name (← each (resolve name) nodes)
  | .oneOf nodes => do compose .union name (← each (resolve name) nodes)
  | .enum items =>
    match enumBase? s.type items with
    | some base => pure { name, kind := .enum base items }
    | none => fail (.unresolvableSchema name)
  | .array (some item) => do listOf name (← resolve name item)
  | .array none => fail (.unresolvableSchema name)
  | .object properties => do
    let properties ← each (fun entry : String × SchemaNode => do
        let shape ← resolve (Text.pascalCase entry.1) entry.2
        return resolvedProperty s entry shape) properties
    warn (collisions name (hoistedOf properties))
    return objectOf name properties
  | .scalar type =>
    match primitive? type with
    | some kind => pure { name, kind }
    | none => fail (.unresolvableSchema name)

theorem resolveNode_inline (limit budget : Nat) (name : String) (s : Schema) :
    resolveNode limit (budget + 1) name (.inline s) =
      resolveForm (resolveNode limit budget) name s s.form := by
  rw [resolveNode]
  unfold Schema.form
  obtain ⟨type, description, default, properties, required, items, enum, allOf, oneOf⟩ := s
  cases allOf with
  | some nodes => rfl
  | none =>
    cases oneOf with
    | some nodes => rfl
    | none =>
      cases enum with
      | some literals => rfl
      | none =>
        cases type with
        | none => cases properties <;> rfl
        | some type => cases type <;> cases items <;> rfl

theorem compose_yields_iff {make : List Shape → List Shape → Kind} {name : String}
    {members : List Shape} {shape : Shape} {ws : List Warning} :
    (compose make name members).Yields shape ws ↔
      shape = composed make name members ∧
        ws = collisions name (members.flatMap Shape.hoisted) := by
  simp only [compose, bind_yields_iff, warn_yields_iff, pure_yields_iff]
  constructor
  · rintro ⟨_, _, _, rfl, ⟨rfl, rfl⟩, rfl⟩
    exact ⟨rfl, by simp⟩
  · rintro ⟨rfl, rfl⟩
    exact ⟨(), _, [], rfl, ⟨rfl, rfl⟩, by simp⟩

theorem listOf_yields_iff {name : String} {item shape : Shape} {ws : List Warning} :
    (listOf name item).Yields shape ws ↔
      item.repeated = false ∧ shape = { item with name, repeated := true } ∧ ws = [] := by
  unfold listOf
  split
  · next h => simp [h, not_fail_yields]
  · next h => simp [Bool.not_eq_true _ ▸ h, pure_yields_iff, eq_comm]

/-- What holds of every node by its form, given that it holds of the nodes inside, holds of every
node that resolves. -/
@[elab_as_elim]
theorem resolveNode_induction {P : String → SchemaNode → Shape → List Warning → Prop}
    {limit : Nat}
    (reference : ∀ (name : String) (p : Pointer), p.isIn schemasSection = true →
      P name (.ref p) { name, kind := .reference p.name } [])
    (allOf : ∀ (name : String) (s : Schema) (nodes : List SchemaNode)
      (results : List (Shape × List Warning)), s.form = .allOf nodes →
      List.Forall₂ (fun node r => P name node r.1 r.2) nodes results →
      P name (.inline s) (composed .intersection name (results.map Prod.fst))
        (results.flatMap Prod.snd ++
          collisions name ((results.map Prod.fst).flatMap Shape.hoisted)))
    (oneOf : ∀ (name : String) (s : Schema) (nodes : List SchemaNode)
      (results : List (Shape × List Warning)), s.form = .oneOf nodes →
      List.Forall₂ (fun node r => P name node r.1 r.2) nodes results →
      P name (.inline s) (composed .union name (results.map Prod.fst))
        (results.flatMap Prod.snd ++
          collisions name ((results.map Prod.fst).flatMap Shape.hoisted)))
    (enum : ∀ (name : String) (s : Schema) (items : List Json) (base : EnumBase),
      s.form = .enum items → enumBase? s.type items = some base →
      P name (.inline s) { name, kind := .enum base items } [])
    (array : ∀ (name : String) (s : Schema) (item : SchemaNode) (shape : Shape)
      (ws : List Warning), s.form = .array (some item) → shape.repeated = false →
      P name item shape ws → P name (.inline s) { shape with name, repeated := true } ws)
    (object : ∀ (name : String) (s : Schema) (properties : List (String × SchemaNode))
      (results : List ((String × Property) × List Warning)), s.form = .object properties →
      List.Forall₂ (fun entry r => ∃ shape, r.1 = resolvedProperty s entry shape ∧
        P (Text.pascalCase entry.1) entry.2 shape r.2) properties results →
      P name (.inline s) (objectOf name (results.map Prod.fst))
        (results.flatMap Prod.snd ++ collisions name (hoistedOf (results.map Prod.fst))))
    (scalar : ∀ (name : String) (s : Schema) (type : Option SchemaType) (kind : Kind),
      s.form = .scalar type → primitive? type = some kind →
      P name (.inline s) { name, kind } [])
    {budget : Nat} {name : String} {node : SchemaNode} {shape : Shape} {ws : List Warning}
    (h : (resolveNode limit budget name node).Yields shape ws) : P name node shape ws := by
  induction budget generalizing name node shape ws with
  | zero =>
    rw [resolveNode] at h
    exact absurd h not_fail_yields
  | succ budget ih =>
    cases node with
    | ref p =>
      rw [resolveNode] at h
      split at h
      · next hp =>
        obtain ⟨rfl, rfl⟩ := pure_yields_iff.mp h
        exact reference name p hp
      · exact absurd h not_fail_yields
    | inline s =>
      rw [resolveNode_inline] at h
      match hform : s.form with
      | .allOf nodes =>
        rw [hform] at h
        obtain ⟨_, _, _, hr, hc, rfl⟩ := bind_yields_iff.mp h
        obtain ⟨results, hall, rfl, rfl⟩ := each_yields_iff.mp hr
        obtain ⟨rfl, rfl⟩ := compose_yields_iff.mp hc
        exact allOf name s nodes results hform (hall.imp fun _ _ => ih)
      | .oneOf nodes =>
        rw [hform] at h
        obtain ⟨_, _, _, hr, hc, rfl⟩ := bind_yields_iff.mp h
        obtain ⟨results, hall, rfl, rfl⟩ := each_yields_iff.mp hr
        obtain ⟨rfl, rfl⟩ := compose_yields_iff.mp hc
        exact oneOf name s nodes results hform (hall.imp fun _ _ => ih)
      | .enum items =>
        simp only [hform, resolveForm] at h
        split at h
        · next base hb =>
          obtain ⟨rfl, rfl⟩ := pure_yields_iff.mp h
          exact enum name s items base hform hb
        · exact absurd h not_fail_yields
      | .array (some item) =>
        rw [hform] at h
        obtain ⟨inner, _, _, hi, hl, rfl⟩ := bind_yields_iff.mp h
        obtain ⟨hrep, rfl, rfl⟩ := listOf_yields_iff.mp hl
        rw [List.append_nil]
        exact array name s item inner _ hform hrep (ih hi)
      | .array none =>
        rw [hform] at h
        exact absurd h not_fail_yields
      | .object properties =>
        simp only [hform, resolveForm, bind_yields_iff, warn_yields_iff, pure_yields_iff] at h
        obtain ⟨_, _, _, hr, ⟨_, _, _, rfl, ⟨rfl, rfl⟩, rfl⟩, rfl⟩ := h
        obtain ⟨results, hall, rfl, rfl⟩ := each_yields_iff.mp hr
        rw [List.append_nil]
        refine object name s properties results hform (hall.imp fun entry r h => ?_)
        simp only [bind_yields_iff, pure_yields_iff] at h
        obtain ⟨inner, w, _, hi, ⟨hp, rfl⟩, hw⟩ := h
        rw [hw, List.append_nil]
        exact ⟨inner, hp.symm, ih hi⟩
      | .scalar type =>
        simp only [hform, resolveForm] at h
        split at h
        · next kind hk =>
          obtain ⟨rfl, rfl⟩ := pure_yields_iff.mp h
          exact scalar name s type kind hform hk
        · exact absurd h not_fail_yields

theorem resolveSchema_name {limit : Nat} {name : String} {node : SchemaNode} {shape : Shape}
    {ws : List Warning} (h : (resolveSchema name node limit).Yields shape ws) :
    shape.name = name := by
  refine resolveNode_induction (P := fun name _ shape _ => shape.name = name) ?_ ?_ ?_ ?_ ?_ ?_ ?_ h
  all_goals intros; rfl

end ApiBindings.Model
