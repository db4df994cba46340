import ApiBindings.Proofs.Names

namespace ApiBindings.Text

theorem isIdentifierPart_of_start {c : Char} (h : isIdentifierStart c = true) :
    isIdentifierPart c = true := by
  unfold isIdentifierStart at h
  unfold isIdentifierPart isIdentifierContinue
  split
  · next hc =>
    rw [if_pos hc] at h
    simp [Char.isAlphanum, h]
  · next hc =>
    rw [if_neg hc] at h
    simp [h]

theorem isIdentifierPart_of_isDigit {c : Char} (h : c.isDigit = true) :
    isIdentifierPart c = true := by
  have hc : c.toNat < 128 := Nat.lt_of_le_of_lt (Char.isDigit_iff_toNat.mp h).2 (by decide)
  simp [isIdentifierPart, isIdentifierContinue, hc, Char.isAlphanum, h]

theorem isIdentifierChars_cons {c : Char} {rest : List Char} :
    isIdentifierChars (c :: rest) = true ↔
      (c = '$' ∨ c = '_' ∨ isIdentifierStart c = true) ∧
        ∀ d ∈ rest, isIdentifierPart d = true := by
  simp [isIdentifierChars, or_assoc]

theorem forall_isIdentifierPart {cs : List Char} (h : isIdentifierChars cs = true) :
    ∀ c ∈ cs, isIdentifierPart c = true := by
  cases cs with
  | nil => simp
  | cons c rest =>
    rw [isIdentifierChars_cons] at h
    rw [List.forall_mem_cons]
    refine ⟨?_, h.2⟩
    rcases h.1 with rfl | rfl | hs
    · decide
    · decide
    · exact isIdentifierPart_of_start hs

/-- What an identifier is appended to is one, or empty. -/
theorem isIdentifier_append_iff {s ending : String} (he : isIdentifier ending = true) :
    isIdentifier (s ++ ending) = true ↔ s = "" ∨ isIdentifier s = true := by
  have hparts := forall_isIdentifierPart he
  unfold isIdentifier at he ⊢
  rw [String.toList_append]
  cases hs : s.toList with
  | nil =>
    have hempty : s = "" := String.toList_injective hs
    simp [hempty, he]
  | cons c rest =>
    have hne : s ≠ "" := by
      intro h
      rw [h] at hs
      cases hs
    rw [List.cons_append, isIdentifierChars_cons, isIdentifierChars_cons]
    simp only [hne, false_or, List.mem_append]
    grind

theorem isIdentifier_underscore_append {s : String}
    (h : ∀ c ∈ s.toList, isIdentifierPart c = true) : isIdentifier ("_" ++ s) = true := by
  rw [isIdentifier, String.toList_append]
  exact isIdentifierChars_cons.mpr ⟨.inr (.inl rfl), h⟩

theorem mem_intercalate {sep : Char} {pieces : List (List Char)} {c : Char}
    (h : c ∈ List.intercalate [sep] pieces) : c = sep ∨ ∃ piece ∈ pieces, c ∈ piece := by
  induction pieces with
  | nil => cases h
  | cons piece pieces ih =>
    cases pieces with
    | nil =>
      rw [List.intercalate_singleton] at h
      exact .inr ⟨piece, .head _, h⟩
    | cons next rest =>
      rw [List.intercalate_cons_cons, List.mem_append, List.mem_append, List.mem_singleton] at h
      rcases h with (h | h) | h
      · exact .inr ⟨piece, .head _, h⟩
      · exact .inl h
      · exact (ih h).imp id fun ⟨p, hp, hc⟩ => ⟨p, .tail _ hp, hc⟩

theorem isIdentifierPart_of_mem_identifierChars {cs : List Char} {c : Char}
    (h : c ∈ identifierChars cs) : isIdentifierPart c = true := by
  rcases mem_intercalate h with h | ⟨piece, hp, hc⟩
  · rw [h]
    decide
  · exact (mem_of_mem_splitBy (List.mem_filter.mp hp).1 c hc).2

end ApiBindings.Text
