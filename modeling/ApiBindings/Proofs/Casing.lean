import ApiBindings.Proofs.Names
import ApiBindings.TypeScript.Name

namespace ApiBindings.Text

theorem words_append {c : Char} (hc : isAlphanumeric c = false) (s t : List Char) :
    words (s ++ c :: t) = words s ++ words t := by
  rw [words, splitBy_append_cons hc, List.flatMap_append]
  rfl

/-- An ending that does not go on with the last word is capitalised by itself. -/
theorem pascalCase_append {c : Char} {rest : List Char} {ending : String}
    (he : ending.toList = c :: rest) (hc : isAlphanumeric c = false) (s : String) :
    pascalCase (s ++ ending) = pascalCase s ++ pascalCase ending := by
  have hending : words ending.toList = words rest := by
    rw [he]
    exact words_append hc [] rest
  have hall : words (s ++ ending).toList = words s.toList ++ words ending.toList := by
    rw [hending, String.toList_append, he, words_append hc]
  rw [pascalCase, hall, List.flatMap_append, String.ofList_append]
  rfl

theorem pascalCase_request (id : String) :
    pascalCase (id ++ "_request") = pascalCase id ++ "Request" := by
  have hending : pascalCase "_request" = "Request" := by decide +kernel
  rw [pascalCase_append (c := '_') rfl (by decide), hending]

theorem pascalCase_response (id : String) :
    pascalCase (id ++ "_response") = pascalCase id ++ "Response" := by
  have hending : pascalCase "_response" = "Response" := by decide +kernel
  rw [pascalCase_append (c := '_') rfl (by decide), hending]

/-- A word that is known to be in capitals has been started, so no word is empty. -/
theorem ne_nil_of_mem_cutWords {mode : WordCase} {current cs w : List Char}
    (hmode : mode = .upper → current ≠ []) (h : w ∈ cutWords mode current cs) : w ≠ [] := by
  fun_induction cutWords mode current cs with
  | case1 => cases h
  | case2 mode current c =>
    rw [List.mem_singleton.mp h]
    simp
  | case3 mode current c next rest hcut ih =>
    rcases List.mem_cons.mp h with h | h
    · simp [h]
    · exact ih (by simp) h
  | case4 mode current c next rest hcut hup ih =>
    rcases List.mem_cons.mp h with h | h
    · have hupper : mode = .upper := by
        simp only [Bool.and_eq_true, decide_eq_true_eq] at hup
        exact hup.1.1
      rw [h, ne_eq, List.reverse_eq_nil_iff]
      exact hmode hupper
    · exact ih (by simp) h
  | case5 mode current c next rest hcut hup ih =>
    exact ih (fun _ => List.cons_ne_nil _ _) h

theorem ne_nil_of_mem_words {cs w : List Char} (h : w ∈ words cs) : w ≠ [] := by
  obtain ⟨piece, -, hw⟩ := List.mem_flatMap.mp h
  apply ne_nil_of_mem_cutWords _ hw
  simp

theorem isUpper_ofNat {n : Nat} (h : 90 < n) : (Char.ofNat n).isUpper = false := by
  apply decide_eq_false
  intro hz
  have hcode : 65 ≤ (Char.ofNat n).toNat ∧ (Char.ofNat n).toNat ≤ 90 := hz
  have := toNat_ofNat_cases n
  omega

theorem isUpper_of_mem_lowercase {c d : Char} (h : d ∈ lowercase c) : d.isUpper = false := by
  have himages : ∀ r ∈ toLowerRuns, 90 < r.2.2.2 := by decide +kernel
  refine forall_mem_cased (S := fun _ => True) (P := fun d => d.isUpper = false) (by decide)
    (by decide) ?_ ?_ trivial d h
  · intro r hr c _ _ _ _ _
    exact isUpper_ofNat (by have := himages r hr; omega)
  · intro c _ hc
    rw [← Char.ofNat_toNat c]
    exact isUpper_ofNat (by omega)

theorem mapCase_ne_nil {long : List (Nat × List Nat)} {runs : List (Nat × Nat × Nat × Nat)}
    (hlong : ∀ e ∈ long, e.2 ≠ []) (c : Char) : mapCase long runs c ≠ [] := by
  unfold mapCase
  split
  · next codes h =>
    obtain ⟨before, after, heq, -⟩ := List.lookup_eq_some_iff.mp h
    have hmem : (c.toNat, codes) ∈ long := by
      rw [heq]
      exact List.mem_append_right _ (.head _)
    simpa using hlong _ hmem
  · exact List.cons_ne_nil _ _

theorem lowercase_ne_nil (c : Char) : lowercase c ≠ [] := by
  unfold lowercase
  split
  · exact List.cons_ne_nil _ _
  · exact mapCase_ne_nil (by decide) c

theorem uppercase_ne_nil (c : Char) : uppercase c ≠ [] := by
  unfold uppercase
  split
  · exact List.cons_ne_nil _ _
  · exact mapCase_ne_nil (by decide) c

theorem isUpper_of_mem_lowerWord {w : List Char} {d : Char} (h : d ∈ lowerWord w) :
    d.isUpper = false := by
  fun_induction lowerWord w with
  | case1 => cases h
  | case2 =>
    rw [List.mem_singleton.mp h]
    decide
  | case3 c hc => exact isUpper_of_mem_lowercase h
  | case4 c rest hr ih =>
    rcases List.mem_append.mp h with h | h
    · exact isUpper_of_mem_lowercase h
    · exact ih h

theorem lowerWord_ne_nil {w : List Char} (h : w ≠ []) : lowerWord w ≠ [] := by
  fun_cases lowerWord w with
  | case1 => exact absurd rfl h
  | case2 => exact List.cons_ne_nil _ _
  | case3 c hc => exact lowercase_ne_nil c
  | case4 c rest hr => simp [lowercase_ne_nil c]

theorem isUpper_head_camelCase {cs rest : List Char} {c : Char} (h : camelCase cs = c :: rest) :
    c.isUpper = false := by
  unfold camelCase at h
  split at h
  · cases h
  · next first others hw =>
    -- The first word is not empty, and neither is its lowercase form.
    have hfirst : first ∈ words cs := by
      rw [hw]
      exact .head _
    have hne : lowerWord first ≠ [] := lowerWord_ne_nil (ne_nil_of_mem_words hfirst)
    obtain ⟨head, tail, hl⟩ := List.exists_cons_of_ne_nil hne
    rw [hl, List.cons_append] at h
    cases h
    apply isUpper_of_mem_lowerWord (w := first)
    rw [hl]
    exact .head _

end ApiBindings.Text

namespace ApiBindings.TypeScript

theorem isUpper_head_functionName {id : String} {c : Char} {rest : List Char}
    (h : (functionName id).toList = c :: rest) : c.isUpper = false := by
  unfold functionName at h
  dsimp only at h
  split at h
  · rw [String.toList_append] at h
    cases h
    decide
  · rw [String.toList_ofList] at h
    exact Text.isUpper_head_camelCase h

end ApiBindings.TypeScript
