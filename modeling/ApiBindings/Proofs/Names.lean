import ApiBindings.Text.Words
import ApiBindings.TypeScript.Basic
import Mathlib.Data.List.Basic

namespace ApiBindings.Text

theorem splitBy_ne_nil {α : Type} (keep : α → Bool) (as : List α) : splitBy keep as ≠ [] := by
  cases as with
  | nil => simp [splitBy]
  | cons a rest =>
    rw [splitBy]
    split
    · simp
    · split <;> simp

theorem splitBy_cons_of_not_keep {α : Type} {keep : α → Bool} {a : α} (ha : keep a = false)
    (rest : List α) : splitBy keep (a :: rest) = [] :: splitBy keep rest := by
  obtain ⟨piece, pieces, h⟩ := List.exists_cons_of_ne_nil (splitBy_ne_nil keep rest)
  simp [splitBy, h, ha]

theorem splitBy_append_cons {α : Type} {keep : α → Bool} {a : α} (ha : keep a = false)
    (as bs : List α) : splitBy keep (as ++ a :: bs) = splitBy keep as ++ splitBy keep bs := by
  induction as with
  | nil => rw [List.nil_append, splitBy_cons_of_not_keep ha]; rfl
  | cons b as ih =>
    obtain ⟨piece, pieces, h⟩ := List.exists_cons_of_ne_nil (splitBy_ne_nil keep as)
    rw [List.cons_append, splitBy, splitBy, ih, h]
    cases keep b <;> rfl

theorem splitBy_of_forall {α : Type} {keep : α → Bool} {as : List α}
    (h : ∀ a ∈ as, keep a = true) : splitBy keep as = [as] := by
  induction as with
  | nil => rfl
  | cons a as ih => simp [splitBy, ih fun b hb => h b (by simp [hb]), h a]

theorem mem_of_mem_splitBy {α : Type} {keep : α → Bool} {as piece : List α}
    (h : piece ∈ splitBy keep as) : ∀ a ∈ piece, a ∈ as ∧ keep a = true := by
  induction as generalizing piece with
  | nil => simp_all [splitBy]
  | cons b as ih =>
    obtain ⟨first, pieces, hp⟩ := List.exists_cons_of_ne_nil (splitBy_ne_nil keep as)
    rw [splitBy, hp] at h
    have hrest : ∀ q ∈ first :: pieces, ∀ a ∈ q, a ∈ b :: as ∧ keep a = true := by
      intro q hq a ha
      have := ih (hp ▸ hq) a ha
      exact ⟨.tail _ this.1, this.2⟩
    cases hb : keep b <;> simp only [hb, if_true, Bool.false_eq_true, if_false] at h
    · rcases List.mem_cons.mp h with rfl | h
      · simp
      · exact hrest piece h
    · rcases List.mem_cons.mp h with rfl | h
      · intro a ha
        rcases List.mem_cons.mp ha with rfl | ha
        · exact ⟨.head _, hb⟩
        · exact hrest first (.head _) a ha
      · exact hrest piece (.tail _ h)

theorem intercalate_splitBy (sep : Char) (cs : List Char) :
    List.intercalate [sep] (splitBy (· != sep) cs) = cs := by
  induction cs with
  | nil => rfl
  | cons c cs ih =>
    obtain ⟨piece, pieces, h⟩ := List.exists_cons_of_ne_nil (splitBy_ne_nil (· != sep) cs)
    rw [splitBy, h]
    rw [h] at ih
    by_cases hc : c = sep
    · subst hc
      simp only [bne_self_eq_false, Bool.false_eq_true, if_false]
      rw [List.intercalate_cons_cons, ih]
      rfl
    · simp only [bne_iff_ne, ne_eq, hc, not_false_eq_true, if_true]
      cases pieces with
      | nil => simpa using ih
      | cons q qs =>
        rw [List.intercalate_cons_cons] at ih ⊢
        rw [← ih]
        rfl

theorem toNat_ofNat_cases (n : Nat) : (Char.ofNat n).toNat = n ∨ (Char.ofNat n).toNat = 0 := by
  unfold Char.ofNat
  by_cases hv : n.isValidChar
  · rw [dif_pos hv]
    exact .inl rfl
  · rw [dif_neg hv]
    exact .inr rfl

theorem ofNat_ne_point {n : Nat} (h : 46 < n) : Char.ofNat n ≠ '.' := by
  intro he
  have hn : (Char.ofNat n).toNat = 46 := congrArg Char.toNat he
  have := toNat_ofNat_cases n
  omega

/-- What characters of a class become by a case mapping that is decided directly for ASCII, and by
tables beyond it: the image in ASCII, a long image, the image in a run, or the character itself. -/
theorem forall_mem_cased {S P : Char → Prop} {ascii : Char → Char} {long : List (Nat × List Nat)}
    {runs : List (Nat × Nat × Nat × Nat)}
    (hascii : ∀ n < 128, S (Char.ofNat n) → P (ascii (Char.ofNat n)))
    (hlong : ∀ e ∈ long, ∀ n ∈ e.2, P (Char.ofNat n))
    (hruns : ∀ r ∈ runs, ∀ c, S c → ¬ c.toNat < 128 → r.1 ≤ c.toNat → c.toNat ≤ r.2.1 →
      (c.toNat - r.1) % r.2.2.1 = 0 → P (Char.ofNat (r.2.2.2 + (c.toNat - r.1))))
    (hself : ∀ c, S c → ¬ c.toNat < 128 → P c) {c : Char} (hc : S c) :
    ∀ d ∈ if c.toNat < 128 then [ascii c] else mapCase long runs c, P d := by
  intro d hd
  split at hd
  · next hn =>
    rw [← Char.ofNat_toNat c] at hc hd
    rw [List.mem_singleton.mp hd]
    exact hascii _ hn hc
  · next hn =>
    unfold mapCase at hd
    split at hd
    · next codes h =>
      obtain ⟨l₁, l₂, hl, -⟩ := List.lookup_eq_some_iff.mp h
      obtain ⟨n, hn, rfl⟩ := List.mem_map.mp hd
      exact hlong (c.toNat, codes) (by simp [hl]) n hn
    · rw [List.mem_singleton] at hd
      subst hd
      cases h : imageInRuns runs c.toNat with
      | none => exact hself c hc hn
      | some n =>
        obtain ⟨⟨first, last, stride, image⟩, hr, he⟩ := List.exists_of_findSome?_eq_some h
        simp only [Option.ite_none_right_eq_some, Option.some.injEq, Bool.and_eq_true,
          decide_eq_true_eq, beq_iff_eq] at he
        obtain ⟨⟨⟨hfirst, hlast⟩, hstride⟩, rfl⟩ := he
        exact hruns _ hr c hc hn hfirst hlast hstride

theorem ne_point_of_isAlphanumeric {c : Char} (hc : isAlphanumeric c = true) : c ≠ '.' := by
  rintro rfl
  exact absurd hc (by decide)

theorem point_not_mem_cased {ascii : Char → Char} {long : List (Nat × List Nat)}
    {runs : List (Nat × Nat × Nat × Nat)}
    (hascii : ∀ n < 128, isAlphanumeric (Char.ofNat n) = true → ascii (Char.ofNat n) ≠ '.')
    (hlong : ∀ e ∈ long, ∀ n ∈ e.2, 46 < n) (hruns : ∀ r ∈ runs, 46 < r.2.2.2) {c : Char}
    (hc : isAlphanumeric c = true) :
    '.' ∉ if c.toNat < 128 then [ascii c] else mapCase long runs c := by
  intro h
  refine forall_mem_cased (S := fun c => isAlphanumeric c = true) (P := (· ≠ '.')) hascii ?_ ?_ ?_
    hc _ h rfl
  · exact fun e he n hn => ofNat_ne_point (hlong e he n hn)
  · intro r hr c _ _ _ _ _
    exact ofNat_ne_point (Nat.lt_of_lt_of_le (hruns r hr) (Nat.le_add_right _ _))
  · exact fun c hc _ => ne_point_of_isAlphanumeric hc

theorem point_not_mem_lowercase {c : Char} (hc : isAlphanumeric c = true) :
    '.' ∉ lowercase c :=
  point_not_mem_cased (by decide) (by decide +kernel) (by decide +kernel) hc

theorem point_not_mem_uppercase {c : Char} (hc : isAlphanumeric c = true) :
    '.' ∉ uppercase c :=
  point_not_mem_cased (by decide) (by decide +kernel) (by decide +kernel) hc

theorem point_not_mem_lowerWord {w : List Char} (hw : ∀ c ∈ w, isAlphanumeric c = true) :
    '.' ∉ lowerWord w := by
  fun_induction lowerWord w with
  | case1 => simp
  | case2 => decide
  | case3 c hc => exact point_not_mem_lowercase (hw c (by simp))
  | case4 c rest hr ih =>
    rw [List.mem_append, not_or]
    exact ⟨point_not_mem_lowercase (hw c (by simp)), ih fun d hd => hw d (by simp [hd])⟩

theorem point_not_mem_capitalWord {w : List Char} (hw : ∀ c ∈ w, isAlphanumeric c = true) :
    '.' ∉ capitalWord w := by
  cases w with
  | nil => simp [capitalWord]
  | cons c rest =>
    rw [capitalWord, List.mem_append, not_or]
    exact ⟨point_not_mem_uppercase (hw c (by simp)),
      point_not_mem_lowerWord fun d hd => hw d (by simp [hd])⟩

theorem mem_of_mem_cutWords {mode : WordCase} {current cs w : List Char}
    (h : w ∈ cutWords mode current cs) : ∀ c ∈ w, c ∈ current ∨ c ∈ cs := by
  fun_induction cutWords mode current cs with
  | case1 => simp at h
  | case2 => simp_all
  | case3 mode current c next rest hcut ih =>
    rcases List.mem_cons.mp h with rfl | h
    · intro d hd
      simp only [List.mem_reverse, List.mem_cons] at hd ⊢
      tauto
    · intro d hd
      rcases ih h d hd with h | h
      · simp at h
      · exact .inr (.tail _ h)
  | case4 mode current c next rest hcut hup ih =>
    rcases List.mem_cons.mp h with rfl | h
    · simp_all
    · intro d hd
      rcases ih h d hd with h | h
      · simp_all
      · exact .inr (.tail _ h)
  | case5 mode current c next rest hcut hup ih =>
    intro d hd
    rcases ih h d hd with h | h
    · simp only [List.mem_cons] at h ⊢
      tauto
    · exact .inr (.tail _ h)

theorem mem_of_mem_words {cs w : List Char} (h : w ∈ words cs) :
    ∀ c ∈ w, c ∈ cs ∧ isAlphanumeric c = true := by
  intro c hc
  obtain ⟨piece, hp, hw⟩ := List.mem_flatMap.mp h
  rcases mem_of_mem_cutWords hw c hc with h | h
  · simp at h
  · exact mem_of_mem_splitBy hp c h

theorem point_not_mem_pascalCase (s : String) : '.' ∉ (pascalCase s).toList := by
  rw [pascalCase, String.toList_ofList]
  intro h
  obtain ⟨w, hw, hc⟩ := List.mem_flatMap.mp h
  exact point_not_mem_capitalWord (fun c hc => (mem_of_mem_words hw c hc).2) hc

end ApiBindings.Text

namespace ApiBindings.TypeScript.TypeExpr

theorem ofName_of_no_point {name : String} (h : '.' ∉ name.toList) :
    ofName name = .named [name] := by
  rw [ofName, Text.splitBy_of_forall]
  · simp
  · intro c hc
    simpa using fun hp : c = '.' => h (hp ▸ hc)

theorem ofName_of_point {name : String} (h : '.' ∈ name.toList) :
    ∃ first second rest, ofName name = .named (first :: second :: rest) := by
  obtain ⟨before, after, hsplit⟩ := List.append_of_mem h
  obtain ⟨p, ps, hp⟩ := List.exists_cons_of_ne_nil (Text.splitBy_ne_nil (· != '.') before)
  obtain ⟨q, qs, hq⟩ := List.exists_cons_of_ne_nil (Text.splitBy_ne_nil (· != '.') after)
  rw [ofName, hsplit, Text.splitBy_append_cons (by decide), hp, hq]
  cases ps with
  | nil => exact ⟨_, _, _, rfl⟩
  | cons r rs => exact ⟨_, _, _, rfl⟩

theorem ofName_qualified (scope : String) {name : String} (h : '.' ∉ name.toList) :
    ∃ path, path ≠ [] ∧ ".".intercalate path = scope ∧
      ofName (scope ++ "." ++ name) = .named (path ++ [name]) := by
  refine ⟨(Text.splitBy (· != '.') scope.toList).map String.ofList, ?_, ?_, ?_⟩
  · simpa using Text.splitBy_ne_nil _ _
  · apply String.toList_injective
    rw [String.toList_intercalate, List.map_map]
    simpa [Function.comp_def] using Text.intercalate_splitBy '.' scope.toList
  · have hn : Text.splitBy (· != '.') name.toList = [name.toList] :=
      Text.splitBy_of_forall fun c hc => by simpa using fun hp : c = '.' => h (hp ▸ hc)
    have hp : (scope ++ "." ++ name).toList = scope.toList ++ '.' :: name.toList := by simp
    rw [ofName, hp, Text.splitBy_append_cons (by decide), hn]
    simp

end ApiBindings.TypeScript.TypeExpr
