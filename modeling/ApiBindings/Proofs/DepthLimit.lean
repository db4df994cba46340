import ApiBindings.Proofs.Pairwise
import ApiBindings.Proofs.SchemaForm
import Mathlib.Data.List.MinMax
import Mathlib.Order.Nat

namespace ApiBindings.Contract

/-- How many levels of nodes are below a node, by its form. -/
def height : SchemaNode → Nat
  | .ref _ => 0
  | .inline s => (s.form.children.attach.map fun c => height c.1 + 1).foldr max 0
termination_by node => sizeOf node
decreasing_by
  have hlt := sizeOf_lt_of_mem_children c.2
  rw [RefOr.inline.sizeOf_spec]
  omega

theorem height_ref (p : Pointer) : height (.ref p) = 0 := by
  rw [height]

theorem height_inline (s : Schema) :
    height (.inline s) = (s.form.children.map fun node => height node + 1).foldr max 0 := by
  rw [height, List.attach_map_val (f := fun node => height node + 1)]

theorem height_inline_le_iff {s : Schema} {n : Nat} :
    height (.inline s) ≤ n ↔ ∀ node ∈ s.form.children, height node < n := by
  rw [height_inline]
  constructor
  · intro h node hn
    have hmem := List.mem_map_of_mem (f := fun node => height node + 1) hn
    exact Nat.le_trans (List.le_max_of_le hmem (Nat.le_refl _)) h
  · intro h
    apply List.max_le_of_forall_le
    intro m hm
    obtain ⟨node, hn, rfl⟩ := List.mem_map.mp hm
    exact h node hn

end ApiBindings.Contract

namespace ApiBindings.Model
open Contract (Schema SchemaNode Form height height_ref height_inline height_inline_le_iff)

namespace Resolving

variable {α β : Type} {limit : Nat}

/-- The resolution stops because a node lies deeper than the limit. -/
def StoppedAt (limit : Nat) (m : Resolving α) : Prop :=
  ∃ name, m.FailsWith (.recursionLimit name limit)

/-- The resolution stops at the limit, or is the same as another one. -/
def StopsOrIs (limit : Nat) (m m' : Resolving α) : Prop := m.StoppedAt limit ∨ m = m'

theorem StopsOrIs.bind {m m' : Resolving α} {f f' : α → Resolving β}
    (hm : StopsOrIs limit m m') (hf : ∀ a, StopsOrIs limit (f a) (f' a)) :
    StopsOrIs limit (m >>= f) (m' >>= f') := by
  rcases hm with ⟨name, hm⟩ | rfl
  · exact .inl ⟨name, hm.bind f⟩
  · -- Both sides go on with the same value, so that the rest decides.
    rcases yields_or_failsWith m with ⟨a, ws, ha⟩ | ⟨e, he⟩
    · rcases hf a with ⟨name, hf⟩ | hf
      · exact .inl ⟨name, ha.bind_failsWith hf⟩
      · subst ha
        right
        simp only [Bind.bind, hf]
    · right
      exact (he.bind f).trans (he.bind f').symm

theorem StopsOrIs.each {f f' : α → Resolving β} {as : List α}
    (h : ∀ a ∈ as, StopsOrIs limit (f a) (f' a)) : StopsOrIs limit (each f as) (each f' as) := by
  induction as with
  | nil => exact .inr rfl
  | cons a as ih =>
    rw [List.forall_mem_cons] at h
    exact h.1.bind fun b => (ih h.2).bind fun bs => .inr rfl

theorem exists_yields_of_each {f : α → Resolving β} {as : List α} {bs : List β}
    {ws : List Warning} (h : (each f as).Yields bs ws) {a : α} (ha : a ∈ as) :
    ∃ b vs, (f a).Yields b vs := by
  obtain ⟨results, hall, -, -⟩ := each_yields_iff.mp h
  obtain ⟨r, -, hr⟩ := exists_right_of_forall₂ hall ha
  exact ⟨r.1, r.2, hr⟩

end Resolving

open Resolving

section Form

variable {limit : Nat} {resolve resolve' : String → SchemaNode → Resolving Shape} {name : String}
  {s : Schema} {form : Form}

/-- If resolving the nodes inside stops or goes as before, so does resolving the form. -/
theorem resolveForm_stopsOrIs
    (h : ∀ name, ∀ node ∈ form.children, StopsOrIs limit (resolve name node) (resolve' name node)) :
    StopsOrIs limit (resolveForm resolve name s form) (resolveForm resolve' name s form) := by
  cases form with
  | allOf nodes => exact (StopsOrIs.each (h name)).bind fun _ => .inr rfl
  | oneOf nodes => exact (StopsOrIs.each (h name)).bind fun _ => .inr rfl
  | enum items => exact .inr rfl
  | array item =>
    cases item with
    | none => exact .inr rfl
    | some item => exact (h name item (.head _)).bind fun _ => .inr rfl
  | object properties =>
    refine (StopsOrIs.each fun entry he => ?_).bind fun _ => .inr rfl
    exact (h _ entry.2 (List.mem_map_of_mem he)).bind fun _ => .inr rfl
  | scalar type => exact .inr rfl

/-- A form has no limit of its own: one that is exceeded is so at a node inside. -/
theorem exists_child_of_recursionLimit {inner : String}
    (h : (resolveForm resolve name s form).FailsWith (.recursionLimit inner limit)) :
    ∃ name', ∃ node ∈ form.children,
      (resolve name' node).FailsWith (.recursionLimit inner limit) := by
  cases form with
  | allOf nodes =>
    rcases bind_failsWith_iff.mp h with h | ⟨_, _, -, h⟩
    · exact ⟨name, exists_failsWith_of_each h⟩
    · cases h
  | oneOf nodes =>
    rcases bind_failsWith_iff.mp h with h | ⟨_, _, -, h⟩
    · exact ⟨name, exists_failsWith_of_each h⟩
    · cases h
  | enum items =>
    simp only [resolveForm] at h
    split at h <;> cases h
  | array item =>
    cases item with
    | none => cases h
    | some item =>
      rcases bind_failsWith_iff.mp h with h | ⟨shape, _, -, h⟩
      · exact ⟨name, item, .head _, h⟩
      · unfold listOf at h
        split at h <;> cases h
  | object properties =>
    rcases bind_failsWith_iff.mp h with h | ⟨_, _, -, h⟩
    · obtain ⟨entry, he, h⟩ := exists_failsWith_of_each h
      rcases bind_failsWith_iff.mp h with h | ⟨_, _, -, h⟩
      · exact ⟨_, entry.2, List.mem_map_of_mem he, h⟩
      · cases h
    · cases h
  | scalar type =>
    simp only [resolveForm] at h
    split at h <;> cases h

/-- A form resolves only if all nodes inside do. -/
theorem children_yield_of_resolveForm {shape : Shape} {ws : List Warning}
    (h : (resolveForm resolve name s form).Yields shape ws) {node : SchemaNode}
    (hn : node ∈ form.children) :
    ∃ name' inner vs, (resolve name' node).Yields inner vs := by
  cases form with
  | allOf nodes =>
    obtain ⟨_, _, _, h, -, -⟩ := bind_yields_iff.mp h
    exact ⟨name, exists_yields_of_each h hn⟩
  | oneOf nodes =>
    obtain ⟨_, _, _, h, -, -⟩ := bind_yields_iff.mp h
    exact ⟨name, exists_yields_of_each h hn⟩
  | array item =>
    cases item with
    | none => cases hn
    | some item =>
      obtain ⟨inner, _, _, h, -, -⟩ := bind_yields_iff.mp h
      rw [List.mem_singleton.mp hn]
      exact ⟨name, inner, _, h⟩
  | object properties =>
    obtain ⟨_, _, _, h, -, -⟩ := bind_yields_iff.mp h
    obtain ⟨entry, he, rfl⟩ := List.mem_map.mp hn
    obtain ⟨_, _, h⟩ := exists_yields_of_each h he
    obtain ⟨inner, _, _, h, -, -⟩ := bind_yields_iff.mp h
    exact ⟨_, inner, _, h⟩
  | enum items => cases hn
  | scalar type => cases hn

end Form

/-- With fewer levels left a node is resolved in the same way, or the limit stops it. -/
theorem resolveNode_stopsOrIs {limit budget : Nat} (larger : Nat) {more : Nat}
    (hle : budget ≤ more) (name : String) (node : SchemaNode) :
    StopsOrIs limit (resolveNode limit budget name node) (resolveNode larger more name node) := by
  induction budget generalizing more name node with
  | zero => exact .inl ⟨name, by rw [resolveNode]; rfl⟩
  | succ budget ih =>
    cases more with
    | zero => omega
    | succ more =>
      cases node with
      | ref p =>
        right
        rw [resolveNode, resolveNode]
      | inline s =>
        rw [resolveNode_inline, resolveNode_inline]
        exact resolveForm_stopsOrIs fun name node _ => ih (Nat.le_of_succ_le_succ hle) name node

/-- A node that is resolved is lower than the number of levels left. -/
theorem height_lt_of_resolveNode {limit budget : Nat} {name : String} {node : SchemaNode}
    {shape : Shape} {ws : List Warning}
    (h : (resolveNode limit budget name node).Yields shape ws) : height node < budget := by
  induction budget generalizing name node shape ws with
  | zero =>
    rw [resolveNode] at h
    exact absurd h not_fail_yields
  | succ budget ih =>
    cases node with
    | ref p =>
      rw [height_ref]
      exact Nat.succ_pos budget
    | inline s =>
      rw [resolveNode_inline] at h
      rw [Nat.lt_succ_iff, height_inline_le_iff]
      intro node hn
      obtain ⟨_, _, _, hy⟩ := children_yield_of_resolveForm h hn
      exact ih hy

theorem not_recursionLimit_of_height_lt {limit l budget : Nat} {name inner : String}
    {node : SchemaNode} (hlt : height node < budget) :
    ¬ (resolveNode limit budget name node).FailsWith (.recursionLimit inner l) := by
  induction budget generalizing name node with
  | zero => omega
  | succ budget ih =>
    intro h
    cases node with
    | ref p =>
      rw [resolveNode] at h
      split at h <;> cases h
    | inline s =>
      rw [resolveNode_inline] at h
      rw [Nat.lt_succ_iff, height_inline_le_iff] at hlt
      obtain ⟨_, node, hn, hf⟩ := exists_child_of_recursionLimit h
      exact ih (hlt node hn) hf

theorem resolveSchema_stopsOrIs {limit larger : Nat} (hle : limit ≤ larger) (name : String)
    (node : SchemaNode) :
    StopsOrIs limit (resolveSchema name node limit) (resolveSchema name node larger) :=
  resolveNode_stopsOrIs larger (Nat.succ_le_succ hle) name node

theorem resolveSchema_eq_of_height_le {limit far : Nat} {node : SchemaNode}
    (h : height node ≤ limit) (hfar : height node ≤ far) (name : String) :
    resolveSchema name node limit = resolveSchema name node far := by
  have hstop : ∀ l, height node ≤ l → ¬ StoppedAt l (resolveSchema name node l) := by
    rintro l hl ⟨inner, hs⟩
    exact not_recursionLimit_of_height_lt (Nat.lt_succ_of_le hl) hs
  -- The lower of the two limits stops nothing, so that it gives what the other one gives.
  rcases Nat.le_total limit far with hle | hle
  · exact (resolveSchema_stopsOrIs hle name node).resolve_left (hstop limit h)
  · exact ((resolveSchema_stopsOrIs hle name node).resolve_left (hstop far hfar)).symm

/-- The limit only ever adds its own error to what an unreachable limit gives: a node that resolves
does so exactly if its height is within the limit, a node that fails does so with the same error or
is stopped before, and what is not stopped stays the same under every larger limit. -/
theorem limit_adds_only_its_error (name : String) (node : SchemaNode) (limit far : Nat)
    (hfar : height node ≤ far) :
    (∀ inner l, ¬ (resolveSchema name node far).FailsWith (.recursionLimit inner l)) ∧
      (∀ shape ws, (resolveSchema name node far).Yields shape ws →
        (height node ≤ limit → (resolveSchema name node limit).Yields shape ws) ∧
        (limit < height node → (resolveSchema name node limit).StoppedAt limit)) ∧
      (∀ e, (resolveSchema name node far).FailsWith e →
        ((resolveSchema name node limit).FailsWith e ∨
          (resolveSchema name node limit).StoppedAt limit) ∧
        (height node ≤ limit → (resolveSchema name node limit).FailsWith e)) ∧
      (¬ (resolveSchema name node limit).StoppedAt limit → ∀ larger, limit ≤ larger →
        resolveSchema name node larger = resolveSchema name node limit) := by
  refine ⟨fun inner l => not_recursionLimit_of_height_lt (Nat.lt_succ_of_le hfar), ?_, ?_, ?_⟩
  · intro shape ws hy
    constructor
    · intro h
      rwa [resolveSchema_eq_of_height_le h hfar]
    · intro hlt
      have hle : limit ≤ far := by omega
      rcases resolveSchema_stopsOrIs hle name node with hs | he
      · exact hs
      · rw [← he] at hy
        have hh : height node < limit + 1 := height_lt_of_resolveNode hy
        omega
  · intro e he
    have hwithin : height node ≤ limit → (resolveSchema name node limit).FailsWith e := by
      intro h
      rwa [resolveSchema_eq_of_height_le h hfar]
    refine ⟨?_, hwithin⟩
    rcases Nat.le_total limit far with hle | hle
    · rcases resolveSchema_stopsOrIs hle name node with hs | hsame
      · exact .inr hs
      · exact .inl (hsame ▸ he)
    · exact .inl (hwithin (Nat.le_trans hfar hle))
  · intro hns larger hle
    exact ((resolveSchema_stopsOrIs hle name node).resolve_left hns).symm

def crate : SchemaNode :=
  let choice : SchemaNode := .inline { oneOf := some [.inline { type := some .string },
    .ref ⟨"/components/schemas/Label"⟩] }
  .inline { properties := some [("parts", .inline { type := some .array, items := some choice })] }

theorem crate_within_three_levels :
    height crate = 3 ∧ ∃ shape ws, (resolveSchema "Crate" crate defaultLimit).Yields shape ws ∧
      (resolveSchema "Crate" crate 3).Yields shape ws ∧
      (resolveSchema "Crate" crate 2).StoppedAt 2 := by
  have hh : height crate = 3 := by
    simp [crate, height_inline, height_ref, Schema.form, Form.children]
  have hfar : height crate ≤ defaultLimit := hh ▸ by decide
  have hy : (resolveSchema "Crate" crate defaultLimit).Yields _ _ := rfl
  have hthree := (limit_adds_only_its_error "Crate" crate 3 defaultLimit hfar).2.1 _ _ hy
  have htwo := (limit_adds_only_its_error "Crate" crate 2 defaultLimit hfar).2.1 _ _ hy
  exact ⟨hh, _, _, hy, hthree.1 (Nat.le_of_eq hh), htwo.2 (hh ▸ by decide)⟩

end ApiBindings.Model
