import Mathlib.Data.List.TakeWhile

namespace ApiBindings

variable {α : Type} {p : α → Bool}

theorem takeWhile_dropWhile_append {front rest : List α} (hf : ∀ a ∈ front, p a = true)
    (hr : ∀ a ∈ rest.head?, p a = false) :
    (front ++ rest).takeWhile p = front ∧ (front ++ rest).dropWhile p = rest := by
  rw [List.takeWhile_append_of_pos hf, List.dropWhile_append_of_pos hf]
  cases rest with
  | nil => simp
  | cons a rest =>
    have ha : p a = false := hr a rfl
    simp [ha]

theorem eq_false_of_mem_head?_dropWhile {s : List α} {a : α} (h : a ∈ (s.dropWhile p).head?) :
    p a = false := by
  have hhead := List.head?_dropWhile_not p s
  rw [h] at hhead
  exact hhead

end ApiBindings
