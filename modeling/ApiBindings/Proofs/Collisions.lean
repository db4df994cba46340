import ApiBindings.Proofs.ReferenceClosure
import Mathlib.Data.List.Duplicate

/-!
Warnings of hoisted shapes with the same name, against what a schema resolves to. They are given out
while lists of hoisted shapes are still on their way up, and yet are exact: each stands for a list
in the result that holds the name more than once.
-/
namespace ApiBindings.Model
open Contract (SchemaNode)
open Resolving

theorem mem_repeatedNames_go_iff {seen names : List String} {name : String} :
    name ∈ repeatedNames.go seen names ↔
      seen.count name ≤ 1 ∧ 2 ≤ seen.count name + names.count name := by
  induction names generalizing seen with
  | nil =>
    simp only [repeatedNames.go, List.not_mem_nil, List.count_nil, false_iff]
    omega
  | cons n rest ih =>
    rw [repeatedNames.go]
    by_cases hn : n = name
    · subst hn
      split
      · next h =>
        rw [List.mem_cons, List.count_cons_self]
        simp only [h, true_or, true_iff]
        omega
      · next h =>
        rw [ih, List.count_cons_self, List.count_cons_self]
        omega
    · split
      · rw [List.mem_cons, ih, List.count_cons_of_ne hn, List.count_cons_of_ne hn]
        simp [Ne.symm hn]
      · rw [ih, List.count_cons_of_ne hn, List.count_cons_of_ne hn]

theorem mem_repeatedNames_iff {names : List String} {name : String} :
    name ∈ repeatedNames names ↔ List.Duplicate name names := by
  rw [repeatedNames, mem_repeatedNames_go_iff, List.duplicate_iff_two_le_count, List.count_nil]
  omega

theorem mem_collisions_iff {parent : String} {hoisted : List Shape} {w : Warning} :
    w ∈ collisions parent hoisted ↔
      parent = w.parent ∧ List.Duplicate w.name (hoisted.map Shape.name) := by
  rw [collisions, List.mem_map]
  constructor
  · rintro ⟨name, hm, rfl⟩
    exact ⟨rfl, mem_repeatedNames_iff.mp hm⟩
  · rintro ⟨rfl, hd⟩
    exact ⟨w.name, mem_repeatedNames_iff.mpr hd, rfl⟩

/-- Without a warning the hoisted shapes have different names. -/
theorem nodup_of_collisions_eq_nil {parent : String} {hoisted : List Shape}
    (h : collisions parent hoisted = []) : (hoisted.map Shape.name).Nodup := by
  rw [List.nodup_iff_forall_not_duplicate]
  intro name hd
  have hw : ⟨parent, name⟩ ∈ collisions parent hoisted := mem_collisions_iff.mpr ⟨rfl, hd⟩
  rw [h] at hw
  cases hw

/-- The warning is right for the shape: it hoists the name more than once. -/
def Shape.ClashesAs (s : Shape) (w : Warning) : Prop :=
  s.name = w.parent ∧ List.Duplicate w.name (s.hoisted.map Shape.name)

def Shape.Clashes (s : Shape) (w : Warning) : Prop := ∃ t ∈ s.walk, t.ClashesAs w

namespace Shape

variable {w : Warning}

theorem clashes_iff {s : Shape} :
    s.Clashes w ↔ s.ClashesAs w ∨ ∃ c ∈ s.children, c.Clashes w := by
  simp only [Clashes, s.walk_eq, List.mem_cons, List.mem_flatMap, exists_eq_or_imp]
  constructor
  · rintro (h | ⟨t, ⟨c, hc, ht⟩, h⟩)
    · exact .inl h
    · exact .inr ⟨c, hc, t, ht, h⟩
  · rintro (h | ⟨c, hc, t, ht, h⟩)
    · exact .inl h
    · exact .inr ⟨t, ⟨c, hc, ht⟩, h⟩

theorem not_clashesAs_of_hoisted_eq_nil {s : Shape} (h : s.hoisted = []) : ¬ s.ClashesAs w := by
  rintro ⟨-, hd⟩
  rw [h] at hd
  cases hd

theorem clashes_congr {s t : Shape} (hn : s.name = t.name) (hk : s.kind = t.kind) :
    s.Clashes w ↔ t.Clashes w := by
  have hh : s.hoisted = t.hoisted := congrArg Kind.hoisted hk
  rw [clashes_iff, clashes_iff, ClashesAs, ClashesAs, hn, hh, children_congr hk]

theorem clashes_declaration {s : Shape} : s.declaration.Clashes w ↔ s.Clashes w :=
  clashes_congr rfl rfl

theorem not_clashes_leaf {s : Shape} (h : s.children = []) : ¬ s.Clashes w := by
  have hh : s.hoisted = [] := (List.append_eq_nil_iff.mp (s.children_eq.symm.trans h)).2
  rw [clashes_iff, h]
  simp [not_clashesAs_of_hoisted_eq_nil hh]

theorem exists_children_clashes_iff {s : Shape} :
    (∃ c ∈ s.children, c.Clashes w) ↔
      Clashes { s with kind := s.kind.withoutHoisted } w ∨ ∃ c ∈ s.hoisted, c.Clashes w := by
  have hkept : ¬ ClashesAs { s with kind := s.kind.withoutHoisted } w := by
    apply not_clashesAs_of_hoisted_eq_nil
    obtain ⟨name, repeated, required, kind⟩ := s
    cases kind <;> rfl
  rw [s.children_eq, clashes_iff (s := { s with kind := s.kind.withoutHoisted })]
  simp only [List.mem_append, or_and_right, exists_or, hkept, false_or]

end Shape

/-- A composition clashes by all that its members hoist together, or inside one of them. What a
member hoists more than once by itself, the composition does too. -/
theorem clashes_composed_iff {make : List Shape → List Shape → Kind}
    (hchildren : ∀ name members hoisted,
      Shape.children { name, kind := make members hoisted } = members ++ hoisted)
    (hhoisted : ∀ members hoisted, (make members hoisted).hoisted = hoisted)
    {name : String} {members : List Shape} (hname : ∀ m ∈ members, m.name = name) {w : Warning} :
    (composed make name members).Clashes w ↔
      (∃ m ∈ members, m.Clashes w) ∨ w ∈ collisions name (members.flatMap Shape.hoisted) := by
  have hself : (composed make name members).ClashesAs w ↔
      w ∈ collisions name (members.flatMap Shape.hoisted) := by
    rw [mem_collisions_iff, Shape.ClashesAs, Shape.hoisted, composed, hhoisted]
  have hinside : (∃ c ∈ (composed make name members).children, c.Clashes w) ↔
      ∃ m ∈ members, ∃ c ∈ m.children, c.Clashes w := by
    rw [composed, hchildren]
    simp only [Shape.exists_children_clashes_iff, List.mem_append, List.mem_map, List.mem_flatMap]
    constructor
    · rintro ⟨_, ⟨m, hm, rfl⟩ | ⟨m, hm, hc⟩, h⟩
      · exact ⟨m, hm, .inl h⟩
      · exact ⟨m, hm, .inr ⟨_, hc, h⟩⟩
    · rintro ⟨m, hm, h | ⟨c, hc, h⟩⟩
      · exact ⟨_, .inl ⟨m, hm, rfl⟩, h⟩
      · exact ⟨c, .inr ⟨m, hm, hc⟩, h⟩
  rw [Shape.clashes_iff, hself, hinside, or_comm]
  constructor
  · rintro (⟨m, hm, h⟩ | h)
    · exact .inl ⟨m, hm, Shape.clashes_iff.mpr (.inr h)⟩
    · exact .inr h
  · rintro (⟨m, hm, h⟩ | h)
    · rcases Shape.clashes_iff.mp h with ⟨hp, hd⟩ | h
      · refine .inr (mem_collisions_iff.mpr ⟨(hname m hm).symm.trans hp, hd.mono_sublist ?_⟩)
        exact (List.sublist_flatten_of_mem (List.mem_map_of_mem hm)).map _
      · exact .inl ⟨m, hm, h⟩
    · exact .inr h

theorem clashes_objectOf_iff {name : String} {properties : List (String × Property)} {w : Warning} :
    (objectOf name properties).Clashes w ↔
      (∃ p ∈ properties, p.2.shape.Clashes w) ∨ w ∈ collisions name (hoistedOf properties) := by
  have hself : (objectOf name properties).ClashesAs w ↔
      w ∈ collisions name (hoistedOf properties) := mem_collisions_iff.symm
  have hchildren : (objectOf name properties).children =
      (properties.map fun p => p.2.shape) ++ hoistedOf properties := rfl
  rw [Shape.clashes_iff, hself, hchildren, or_comm]
  apply or_congr_left
  simp only [List.mem_append, List.mem_map, mem_hoistedOf_iff]
  constructor
  · rintro ⟨_, ⟨p, hp, rfl⟩ | ⟨p, hp, -, rfl⟩, h⟩
    · exact ⟨p, hp, h⟩
    · exact ⟨p, hp, Shape.clashes_declaration.mp h⟩
  · rintro ⟨p, hp, h⟩
    exact ⟨_, .inl ⟨p, hp, rfl⟩, h⟩

/-- The shape has the name, and the warnings are those that are right for it. -/
structure WarnsExactly (name : String) (shape : Shape) (ws : List Warning) : Prop where
  name_eq : shape.name = name
  mem_iff : ∀ w, w ∈ ws ↔ shape.Clashes w

theorem warnsExactly_leaf {name : String} {kind : Kind}
    (h : Shape.children { name, kind } = []) : WarnsExactly name { name, kind } [] :=
  ⟨rfl, fun w => by simp [Shape.not_clashes_leaf h]⟩

theorem mem_flatMap_warnings_iff {α : Type} {results : List (α × List Warning)} {w : Warning}
    {clashes : α → Prop} (h : ∀ r ∈ results, w ∈ r.2 ↔ clashes r.1) :
    w ∈ results.flatMap Prod.snd ↔ ∃ a ∈ results.map Prod.fst, clashes a := by
  simp only [List.mem_flatMap, List.mem_map]
  constructor
  · rintro ⟨r, hr, hw⟩
    exact ⟨r.1, ⟨r, hr, rfl⟩, (h r hr).mp hw⟩
  · rintro ⟨_, ⟨r, hr, rfl⟩, hc⟩
    exact ⟨r, hr, (h r hr).mpr hc⟩

theorem warnsExactly_composed {make : List Shape → List Shape → Kind}
    (hchildren : ∀ name members hoisted,
      Shape.children { name, kind := make members hoisted } = members ++ hoisted)
    (hhoisted : ∀ members hoisted, (make members hoisted).hoisted = hoisted)
    {name : String} {results : List (Shape × List Warning)}
    (h : ∀ r ∈ results, WarnsExactly name r.1 r.2) :
    WarnsExactly name (composed make name (results.map Prod.fst))
      (results.flatMap Prod.snd ++
        collisions name ((results.map Prod.fst).flatMap Shape.hoisted)) := by
  refine ⟨rfl, fun w => ?_⟩
  have hname : ∀ m ∈ results.map Prod.fst, m.name = name := by
    rw [List.forall_mem_map]
    exact fun r hr => (h r hr).name_eq
  have hmembers : w ∈ results.flatMap Prod.snd ↔ ∃ m ∈ results.map Prod.fst, m.Clashes w :=
    mem_flatMap_warnings_iff fun r hr => (h r hr).mem_iff w
  rw [List.mem_append, hmembers, clashes_composed_iff hchildren hhoisted hname]

theorem warnsExactly_objectOf {name : String} {results : List ((String × Property) × List Warning)}
    (h : ∀ r ∈ results, ∀ w, w ∈ r.2 ↔ r.1.2.shape.Clashes w) :
    WarnsExactly name (objectOf name (results.map Prod.fst))
      (results.flatMap Prod.snd ++ collisions name (hoistedOf (results.map Prod.fst))) := by
  refine ⟨rfl, fun w => ?_⟩
  have hproperties : w ∈ results.flatMap Prod.snd ↔
      ∃ p ∈ results.map Prod.fst, p.2.shape.Clashes w :=
    mem_flatMap_warnings_iff fun r hr => h r hr w
  rw [List.mem_append, hproperties, clashes_objectOf_iff]

theorem resolveSchema_warnsExactly {limit : Nat} {name : String} {node : SchemaNode} {shape : Shape}
    {ws : List Warning} (h : (resolveSchema name node limit).Yields shape ws) :
    WarnsExactly name shape ws := by
  refine resolveNode_induction (P := fun name _ shape ws => WarnsExactly name shape ws)
    ?reference ?allOf ?oneOf ?enum ?array ?object ?scalar h
  case reference => exact fun name p _ => warnsExactly_leaf rfl
  case enum => exact fun name s items base _ _ => warnsExactly_leaf rfl
  case scalar =>
    intro name s type kind _ hk
    apply warnsExactly_leaf
    unfold primitive? at hk
    split at hk <;> cases hk <;> rfl
  case allOf | oneOf =>
    intro name s nodes results _ hall
    apply warnsExactly_composed (fun _ _ _ => rfl) (fun _ _ => rfl)
    intro r hr
    exact (exists_left_of_forall₂ hall hr).choose_spec.2
  case array =>
    intro name s item shape ws _ _ ih
    refine ⟨rfl, fun w => ?_⟩
    rw [ih.mem_iff]
    exact Shape.clashes_congr ih.name_eq rfl
  case object =>
    intro name s properties results _ hall
    apply warnsExactly_objectOf
    intro r hr w
    obtain ⟨entry, -, shape, hshape, ih⟩ := exists_left_of_forall₂ hall hr
    rw [ih.mem_iff, hshape]
    exact Shape.clashes_congr rfl rfl

/-- A schema resolves without a warning just when no shape in the result hoists a name more than
once, and each warning that there is names such a shape and what it hoists. -/
theorem collision_warnings_exact {limit : Nat} {name : String} {node : SchemaNode} {shape : Shape}
    {ws : List Warning} (h : (resolveSchema name node limit).Yields shape ws) :
    (ws = [] ↔ ∀ s ∈ shape.walk, (s.hoisted.map Shape.name).Nodup) ∧
      ∀ parent inner, ⟨parent, inner⟩ ∈ ws ↔ ∃ s ∈ shape.walk, s.name = parent ∧
        List.Duplicate inner (s.hoisted.map Shape.name) := by
  have hexact := (resolveSchema_warnsExactly h).mem_iff
  constructor
  · rw [List.eq_nil_iff_forall_not_mem]
    simp only [hexact, List.nodup_iff_forall_not_duplicate]
    constructor
    · intro hno s hs inner hd
      exact hno ⟨s.name, inner⟩ ⟨s, hs, rfl, hd⟩
    · rintro hno w ⟨s, hs, -, hd⟩
      exact hno s hs w.name hd
  · exact fun parent inner => hexact ⟨parent, inner⟩

/-- A ticket whose state is one of two objects. Both have a kind, under keys that differ in their
case only, and one of them is a composition itself. -/
def ticket : SchemaNode := .inline
  { properties := some
      [("state", .inline
        { oneOf := some
            [.inline { properties := some [("kind", .inline { enum := some [.string "open"] })] },
             .inline
              { allOf := some
                  [.inline
                    { properties := some
                        [("Kind", .inline { enum := some [.string "done"] })] }] }] })] }

/-- Neither object hoists a name more than once, and the state that they make up does. -/
theorem ticket_warnings_exact :
    ∃ shape, (resolveSchema "Ticket" ticket 8).Yields shape [⟨"State", "Kind"⟩] ∧
      (¬ ∀ s ∈ shape.walk, (s.hoisted.map Shape.name).Nodup) ∧
      ∃ s ∈ shape.walk, s.name = "State" ∧ List.Duplicate "Kind" (s.hoisted.map Shape.name) := by
  have h : (resolveSchema "Ticket" ticket 8).Yields _ [⟨"State", "Kind"⟩] := rfl
  obtain ⟨hempty, hwarned⟩ := collision_warnings_exact h
  refine ⟨_, h, fun hall => ?_, (hwarned "State" "Kind").mp (.head _)⟩
  cases hempty.mpr hall

end ApiBindings.Model
