import ApiBindings.Proofs.LiteralText

namespace ApiBindings.Number

def IsSign (cs : List Char) : Prop := cs = [] ∨ cs = ['+'] ∨ cs = ['-']

def AreDigits (cs : List Char) : Prop := ∀ c ∈ cs, c.isDigit = true

def IsNumberWord (cs : List Char) : Prop :=
  cs.map Char.toLower ∈ ["inf".toList, "infinity".toList, "nan".toList]

instance : DecidablePred IsNumberWord := fun _ => inferInstanceAs (Decidable (_ ∈ _))

/-- The end of a spelling: nothing, or the mark of the exponent and its digits. -/
inductive ExponentText : List Char → Prop
  | absent : ExponentText []
  | marked {mark : Char} {sign digits : List Char} (hm : mark = 'e' ∨ mark = 'E')
      (hs : IsSign sign) (hd : AreDigits digits) (hne : digits ≠ []) :
      ExponentText (mark :: (sign ++ digits))

/-- A spelling with digits, without its sign. A point has a digit on one side at least. -/
inductive MagnitudeText : List Char → Prop
  | whole {digits tail : List Char} (hd : AreDigits digits) (hne : digits ≠ [])
      (ht : ExponentText tail) : MagnitudeText (digits ++ tail)
  | fraction {whole fraction tail : List Char} (hw : AreDigits whole) (hf : AreDigits fraction)
      (hne : whole ≠ [] ∨ fraction ≠ []) (ht : ExponentText tail) :
      MagnitudeText (whole ++ '.' :: (fraction ++ tail))

inductive NumberText : List Char → Prop
  | word {sign word : List Char} (hs : IsSign sign) (hw : IsNumberWord word) :
      NumberText (sign ++ word)
  | magnitude {sign body : List Char} (hs : IsSign sign) (hb : MagnitudeText body) :
      NumberText (sign ++ body)

theorem splitSign_eq (cs : List Char) : ∃ sign, IsSign sign ∧ cs = sign ++ (splitSign cs).2 := by
  unfold splitSign
  split
  · exact ⟨['-'], .inr (.inr rfl), rfl⟩
  · exact ⟨['+'], .inr (.inl rfl), rfl⟩
  · exact ⟨[], .inl rfl, rfl⟩

theorem splitSign_append {sign rest : List Char} (hs : IsSign sign)
    (hr : ∀ c ∈ rest.head?, c ≠ '+' ∧ c ≠ '-') : (splitSign (sign ++ rest)).2 = rest := by
  rcases hs with rfl | rfl | rfl
  · rw [List.nil_append]
    unfold splitSign
    split
    · exact absurd rfl (hr _ rfl).2
    · exact absurd rfl (hr _ rfl).1
    · rfl
  · rfl
  · rfl

theorem ne_sign_of_isDigit {c : Char} (h : c.isDigit = true) : c ≠ '+' ∧ c ≠ '-' := by
  constructor
  · rintro rfl
    exact absurd h (by decide)
  · rintro rfl
    exact absurd h (by decide)

theorem exists_digits (cs : List Char) : ∃ digits rest, cs = digits ++ rest ∧ AreDigits digits ∧
    ∀ c ∈ rest.head?, c.isDigit = false :=
  ⟨cs.takeWhile Char.isDigit, cs.dropWhile Char.isDigit,
    List.takeWhile_append_dropWhile.symm, fun _ => List.mem_takeWhile_imp,
    fun _ => eq_false_of_mem_head?_dropWhile⟩

theorem exponentPart?_cons_isSome_iff {mark : Char} {rest : List Char} :
    (exponentPart? (mark :: rest)).isSome = true ↔
      (mark = 'e' ∨ mark = 'E') ∧ AreDigits (splitSign rest).2 ∧ (splitSign rest).2 ≠ [] := by
  rw [exponentPart?]
  obtain ⟨negative, ds⟩ := splitSign rest
  cases ds with
  | nil => simp
  | cons d ds =>
    by_cases hm : mark = 'e' ∨ mark = 'E'
    · by_cases hd : AreDigits (d :: ds)
      · simp_all [AreDigits]
      · simp_all [AreDigits]
    · simp_all

theorem exponentPart?_isSome_iff {cs : List Char} :
    (exponentPart? cs).isSome = true ↔ ExponentText cs := by
  constructor
  · intro h
    cases cs with
    | nil => exact .absent
    | cons mark rest =>
      obtain ⟨hm, hd, hne⟩ := exponentPart?_cons_isSome_iff.mp h
      obtain ⟨sign, hs, hrest⟩ := splitSign_eq rest
      rw [hrest]
      exact .marked hm hs hd hne
  · intro h
    cases h with
    | absent => rfl
    | @marked mark sign digits hm hs hd hne =>
      have hsplit : (splitSign (sign ++ digits)).2 = digits :=
        splitSign_append hs fun c hc => ne_sign_of_isDigit (hd c (List.mem_of_mem_head? hc))
      rw [exponentPart?_cons_isSome_iff, hsplit]
      exact ⟨hm, hd, hne⟩

theorem ExponentText.head {cs : List Char} (h : ExponentText cs) {c : Char} (hc : c ∈ cs.head?) :
    c = 'e' ∨ c = 'E' := by
  cases h with
  | absent => cases hc
  | marked hm =>
    cases hc
    exact hm

theorem ExponentText.not_digit {cs : List Char} (h : ExponentText cs) :
    ∀ c ∈ cs.head?, c.isDigit = false := by
  intro c hc
  rcases h.head hc with rfl | rfl <;> rfl

theorem magnitude?_isSome_iff (negative : Bool) {cs : List Char} :
    (magnitude? negative cs).isSome = true ↔ MagnitudeText cs := by
  constructor
  · intro h
    obtain ⟨whole, rest, rfl, hw, hr⟩ := exists_digits cs
    by_cases hp : '.' ∈ rest.head?
    · obtain ⟨after, rfl⟩ := List.head?_eq_some_iff.mp hp
      obtain ⟨fraction, tail, rfl, hf, ht⟩ := exists_digits after
      rw [magnitude?_append_fraction negative hw hf ht] at h
      split at h
      · cases h
      · next hne =>
        rw [Option.isSome_map, exponentPart?_isSome_iff] at h
        exact .fraction hw hf (not_and_or.mp hne) h
    · rw [magnitude?_append_whole negative hw hr hp] at h
      split at h
      · cases h
      · next hne =>
        rw [Option.isSome_map, exponentPart?_isSome_iff] at h
        exact .whole hw hne h
  · intro h
    cases h with
    | whole hd hne ht =>
      have hp : '.' ∉ _ := fun hc => absurd (ht.head hc) (by decide)
      rw [magnitude?_append_whole negative hd ht.not_digit hp, if_neg hne, Option.isSome_map,
        exponentPart?_isSome_iff]
      exact ht
    | fraction hw hf hne ht =>
      rw [magnitude?_append_fraction negative hw hf ht.not_digit, if_neg (not_and_or.mpr hne),
        Option.isSome_map, exponentPart?_isSome_iff]
      exact ht

theorem parse?_isSome_iff_unsigned {cs : List Char} :
    (FloatText.parse? cs).isSome = true ↔
      IsNumberWord (splitSign cs).2 ∨ MagnitudeText (splitSign cs).2 := by
  rw [FloatText.parse?]
  obtain ⟨negative, rest⟩ := splitSign cs
  have hword (w : String) :
      String.ofList (rest.map Char.toLower) = w ↔ rest.map Char.toLower = w.toList := by
    rw [← String.toList_inj, String.toList_ofList]
  simp only [← magnitude?_isSome_iff negative, hword, IsNumberWord, List.mem_cons,
    List.not_mem_nil, or_false, Bool.or_eq_true, decide_eq_true_eq]
  split
  · next h => simp only [Option.isSome_some, true_iff]; tauto
  · next h =>
    split
    · next hn => simp [hn]
    · next hn => rw [Option.isSome_map]; tauto

theorem IsNumberWord.head_ne_sign {cs : List Char} (h : IsNumberWord cs) :
    ∀ c ∈ cs.head?, c ≠ '+' ∧ c ≠ '-' := by
  cases cs with
  | nil => simp
  | cons c cs =>
    rintro _ ⟨⟩
    constructor
    · rintro rfl
      simp [IsNumberWord] at h
    · rintro rfl
      simp [IsNumberWord] at h

theorem MagnitudeText.head_ne_sign {cs : List Char} (h : MagnitudeText cs) :
    ∀ c ∈ cs.head?, c ≠ '+' ∧ c ≠ '-' := by
  intro c hc
  cases h with
  | @whole digits tail hd hne ht =>
    rw [List.head?_append_of_ne_nil _ hne] at hc
    exact ne_sign_of_isDigit (hd c (List.mem_of_mem_head? hc))
  | @fraction whole fraction tail hw hf hne ht =>
    cases whole with
    | nil =>
      cases hc
      decide
    | cons d ds =>
      cases hc
      exact ne_sign_of_isDigit (hw _ (.head _))

/-- The reader of floating-point numbers takes the texts of the grammar and no others. -/
theorem parse?_isSome_iff {cs : List Char} :
    (FloatText.parse? cs).isSome = true ↔ NumberText cs := by
  rw [parse?_isSome_iff_unsigned]
  constructor
  · intro h
    obtain ⟨sign, hs, hcs⟩ := splitSign_eq cs
    rw [hcs]
    rcases h with hw | hb
    · exact .word hs hw
    · exact .magnitude hs hb
  · intro h
    cases h with
    | word hs hw =>
      rw [splitSign_append hs hw.head_ne_sign]
      exact .inl hw
    | magnitude hs hb =>
      rw [splitSign_append hs hb.head_ne_sign]
      exact .inr hb

theorem IsSign.underscore_not_mem {cs : List Char} (h : IsSign cs) : '_' ∉ cs := by
  rcases h with rfl | rfl | rfl <;> simp

theorem AreDigits.underscore_not_mem {cs : List Char} (h : AreDigits cs) : '_' ∉ cs := by
  intro hm
  exact absurd (h _ hm) (by decide)

theorem ExponentText.underscore_not_mem {cs : List Char} (h : ExponentText cs) : '_' ∉ cs := by
  cases h with
  | absent => simp
  | @marked mark sign digits hm hs hd _ =>
    have hmark : '_' ≠ mark := by
      rintro rfl
      exact absurd hm (by decide)
    simp only [List.mem_cons, List.mem_append, not_or]
    exact ⟨hmark, hs.underscore_not_mem, hd.underscore_not_mem⟩

/-- Digits are not grouped: no spelling has an underscore in it. -/
theorem NumberText.underscore_not_mem {cs : List Char} (h : NumberText cs) : '_' ∉ cs := by
  cases h with
  | word hs hw =>
    rw [List.mem_append, not_or]
    refine ⟨hs.underscore_not_mem, fun hm => ?_⟩
    have hlower := List.mem_map_of_mem (f := Char.toLower) hm
    simp only [IsNumberWord, List.mem_cons, List.not_mem_nil, or_false] at hw
    rcases hw with hw | hw | hw <;> rw [hw] at hlower <;> revert hlower <;> decide
  | magnitude hs hb =>
    rw [List.mem_append, not_or]
    refine ⟨hs.underscore_not_mem, ?_⟩
    cases hb with
    | whole hd _ ht =>
      rw [List.mem_append, not_or]
      exact ⟨hd.underscore_not_mem, ht.underscore_not_mem⟩
    | fraction hw hf _ ht =>
      simp only [List.mem_append, List.mem_cons, not_or]
      exact ⟨hw.underscore_not_mem, by decide, hf.underscore_not_mem, ht.underscore_not_mem⟩

end ApiBindings.Number
