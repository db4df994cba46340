import ApiBindings.Proofs.BodyEntries
import ApiBindings.Proofs.OperationParts

namespace ApiBindings.Model
open Contract (Document Components SchemaNode)
open Resolving

/-- The shapes declared with a shape: itself and, inside its namespace, those declared with its
hoisted shapes. -/
inductive Shape.Encloses : Shape → Shape → Prop
  | self (s : Shape) : s.Encloses s
  | hoisted {s h d : Shape} (hh : h ∈ s.hoisted) (hd : h.Encloses d) : s.Encloses d

theorem Shape.Encloses.trans {s d e : Shape} (hd : s.Encloses d) (he : d.Encloses e) :
    s.Encloses e := by
  induction hd with
  | self => exact he
  | hoisted hh _ ih => exact .hoisted hh (ih he)

/-- The hoisted properties in the body of a shape stand in objects of its name, and the shape has
hoisted their declarations. -/
def Shape.HoistsBody (s : Shape) : Prop :=
  ∀ e ∈ s.body, e.property.shape.isHoistable = true →
    e.owner = s.name ∧ e.property.shape.declaration ∈ s.hoisted

/-- The same of all shapes declared with a shape. -/
def Shape.WellHoisted (s : Shape) : Prop := ∀ d, s.Encloses d → d.HoistsBody

theorem Shape.wellHoisted_iff {s : Shape} :
    s.WellHoisted ↔ s.HoistsBody ∧ ∀ h ∈ s.hoisted, h.WellHoisted := by
  constructor
  · intro hs
    exact ⟨hs s (.self s), fun h hh d hd => hs d (.hoisted hh hd)⟩
  · rintro ⟨hs, hh⟩ d hd
    cases hd with
    | self => exact hs
    | hoisted hm hd => exact hh _ hm d hd

theorem Shape.WellHoisted.congr {s t : Shape} (h : s.WellHoisted) (hn : t.name = s.name)
    (hk : t.kind = s.kind) : t.WellHoisted := by
  rw [Shape.wellHoisted_iff, Shape.HoistsBody, Shape.body, Shape.hoisted] at h ⊢
  rw [hn, hk]
  exact h

theorem Shape.WellHoisted.of_leaf {s : Shape} (hb : s.body = []) (hh : s.hoisted = []) :
    s.WellHoisted := by
  rw [Shape.wellHoisted_iff, Shape.HoistsBody, hb, hh]
  simp

end ApiBindings.Model
