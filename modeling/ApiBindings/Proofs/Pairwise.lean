import Mathlib.Data.List.Forall2

namespace ApiBindings

variable {α β : Type} {r : α → β → Prop} {as : List α} {bs : List β}

theorem forall₂_mem (h : List.Forall₂ r as bs) :
    List.Forall₂ (fun a b => a ∈ as ∧ b ∈ bs ∧ r a b) as bs := by
  rw [List.forall₂_iff_zip] at h ⊢
  refine ⟨h.1, fun hz => ?_⟩
  have hm := List.of_mem_zip hz
  exact ⟨hm.1, hm.2, h.2 hz⟩

theorem exists_right_of_forall₂ (h : List.Forall₂ r as bs) {a : α} (ha : a ∈ as) :
    ∃ b ∈ bs, r a b := by
  induction h with
  | nil => simp at ha
  | cons hab _ ih =>
    rcases List.mem_cons.mp ha with rfl | ha
    · exact ⟨_, .head _, hab⟩
    · obtain ⟨b, hb, h⟩ := ih ha
      exact ⟨b, .tail _ hb, h⟩

theorem exists_left_of_forall₂ (h : List.Forall₂ r as bs) {b : β} (hb : b ∈ bs) :
    ∃ a ∈ as, r a b :=
  exists_right_of_forall₂ h.flip hb

theorem forall_mem_iff_of_forall₂ {p : α → Prop} {q : β → Prop}
    (h : List.Forall₂ (fun a b => p a ↔ q b) as bs) : (∀ a ∈ as, p a) ↔ ∀ b ∈ bs, q b := by
  induction h with
  | nil => simp
  | cons hab _ ih => simp [hab, ih]

theorem exists_mem_iff_of_forall₂ {p : α → Prop} {q : β → Prop}
    (h : List.Forall₂ (fun a b => p a ↔ q b) as bs) : (∃ a ∈ as, p a) ↔ ∃ b ∈ bs, q b := by
  induction h with
  | nil => simp
  | cons hab _ ih => simp [hab, ih]

theorem find?_rel (h : List.Forall₂ r as bs) {p : α → Bool} {q : β → Bool}
    (hpq : ∀ a b, r a b → p a = q b) : Option.Rel r (as.find? p) (bs.find? q) := by
  induction h with
  | nil => exact .none
  | @cons a b _ _ hab _ ih =>
    rw [List.find?_cons, List.find?_cons, hpq a b hab]
    cases q b with
    | true => exact .some hab
    | false => exact ih

theorem getElem?_rel (h : List.Forall₂ r as bs) (n : Nat) : Option.Rel r as[n]? bs[n]? := by
  induction h generalizing n with
  | nil => exact .none
  | cons hab _ ih =>
    cases n with
    | zero => exact .some hab
    | succ n => exact ih n

end ApiBindings
