import ApiBindings.Proofs.EnumMembers
import ApiBindings.Proofs.Identifiers
import ApiBindings.Proofs.NumberGrammar

namespace ApiBindings.TypeScript
open Model (EnumBase)
open Number (NumberText AreDigits)

/-- The text is in the form that numbers have when they are written as texts. No member may have
such a name, not even in quotes. -/
inductive NumericName : List Char → Prop
  | notANumber : NumericName "NaN".toList
  | infinite {sign : List Char} (hs : sign = [] ∨ sign = ['-']) :
      NumericName (sign ++ "Infinity".toList)
  | finite {sign whole fraction exponent : List Char} (hs : sign = [] ∨ sign = ['-'])
      (hw : AreDigits whole ∧ whole ≠ [])
      (hf : fraction = [] ∨ ∃ ds, fraction = '.' :: ds ∧ AreDigits ds ∧ ds ≠ [])
      (he : exponent = [] ∨ ∃ mark ds, exponent = 'e' :: mark :: ds ∧ (mark = '+' ∨ mark = '-') ∧
        AreDigits ds ∧ ds ≠ []) :
      NumericName (sign ++ (whole ++ (fraction ++ exponent)))

theorem NumericName.numberText {cs : List Char} (h : NumericName cs) : NumberText cs := by
  have hsign {sign : List Char} (hs : sign = [] ∨ sign = ['-']) : Number.IsSign sign :=
    hs.imp id .inr
  cases h with
  | notANumber => exact NumberText.word (.inl rfl : Number.IsSign []) (by decide)
  | infinite hs => exact .word (hsign hs) (by decide)
  | @finite sign whole fraction exponent hs hw hf he =>
    have hexponent : Number.ExponentText exponent := by
      rcases he with rfl | ⟨mark, ds, rfl, hm, hd, hne⟩
      · exact .absent
      · have hmark : Number.IsSign [mark] := by
          rcases hm with rfl | rfl
          · exact .inr (.inl rfl)
          · exact .inr (.inr rfl)
        exact .marked (.inl rfl) hmark hd hne
    refine .magnitude (hsign hs) ?_
    rcases hf with rfl | ⟨ds, rfl, hd, -⟩
    · exact .whole hw.1 hw.2 hexponent
    · exact .fraction hw.1 hd (.inl hw.2) hexponent

def MemberName.IsLegal : MemberName → Prop
  | .bare text => Text.isIdentifier text = true
  | .quoted text => Text.isIdentifier text = false ∧ ¬ NumberText text.toList ∧
      ¬ NumericName text.toList

theorem isLegal_quoted {text : String} (hi : Text.isIdentifier text = false)
    (hn : ¬ NumberText text.toList) : (MemberName.quoted text).IsLegal :=
  ⟨hi, hn, fun h => hn h.numberText⟩

theorem isIdentifier_spelledNumber (text : List Char) :
    Text.isIdentifier ("_" ++ String.ofList (spelledNumber text)) = true := by
  apply Text.isIdentifier_underscore_append
  rw [String.toList_ofList]
  intro c hc
  unfold spelledNumber at hc
  split at hc
  · rcases List.mem_append.mp hc with hc | hc
    · have hneg : ∀ c ∈ "neg".toList, Text.isIdentifierPart c = true := by simp; decide
      exact hneg c hc
    · exact Text.isIdentifierPart_of_mem_identifierChars hc
  · exact Text.isIdentifierPart_of_mem_identifierChars hc

theorem isIdentifier_numberedEnding (count : Nat) :
    Text.isIdentifier ("_" ++ toString count) = true := by
  apply Text.isIdentifier_underscore_append
  rw [Nat.toString_eq_ofList_toDigits, String.toList_ofList]
  exact fun c hc => Text.isIdentifierPart_of_isDigit (Number.isDigit_of_mem_toDigits hc)

/-- A literal's own name is legal, whatever the literal is. -/
theorem memberName_isLegal {enumName : String} (hname : Text.isIdentifier enumName = true)
    (base : EnumBase) (item : Json) : (memberName enumName base item).IsLegal := by
  unfold memberName
  cases base with
  | number =>
    dsimp only [MemberName.IsLegal]
    rw [String.append_assoc, Text.isIdentifier_append_iff (isIdentifier_spelledNumber _)]
    exact .inr hname
  | string =>
    dsimp only
    split
    · next hi => exact hi
    · next hi =>
      split
      · exact isIdentifier_spelledNumber _
      · next hn =>
        apply isLegal_quoted
        · exact Bool.not_eq_true _ ▸ hi
        · rwa [readsAsNumber, Number.parse?_isSome_iff] at hn

/-- A suffix makes an identifier of an identifier and of nothing else, the empty text apart, and
never a number. -/
theorem MemberName.IsLegal.suffixed {name : MemberName} (h : name.IsLegal) (hne : name.text ≠ "")
    (count : Nat) : (name.renamed (suffixed name.text count)).IsLegal := by
  have hiff (text : String) : Text.isIdentifier (TypeScript.suffixed text count) = true ↔
      text = "" ∨ Text.isIdentifier text = true := by
    rw [TypeScript.suffixed, String.append_assoc,
      Text.isIdentifier_append_iff (isIdentifier_numberedEnding count)]
  cases name with
  | bare text => exact (hiff text).mpr (.inr h)
  | quoted text =>
    apply isLegal_quoted
    · rw [← Bool.not_eq_true, MemberName.text, hiff, not_or, Bool.not_eq_true]
      exact ⟨hne, h.1⟩
    · intro hn
      apply hn.underscore_not_mem
      simp [TypeScript.suffixed]

theorem literalText_eq_empty_iff {item : Json} : literalText item = "" ↔ item = .string "" := by
  have hrender (j : Json) : j.render ≠ "" := by
    obtain ⟨c, rest, hj, -⟩ := j.chars_eq_cons
    rw [Json.render, hj]
    simp
  cases item with
  | string s => simp [literalText]
  | _ => simp [literalText, hrender]

theorem eq_empty_of_memberName {enumName : String} {base : EnumBase} {item : Json}
    (h : (memberName enumName base item).text = "") : item = .string "" := by
  unfold memberName at h
  cases base with
  | number => simp [MemberName.text] at h
  | string =>
    dsimp only at h
    split at h
    · exact literalText_eq_empty_iff.mp h
    · split at h
      · simp [MemberName.text] at h
      · exact literalText_eq_empty_iff.mp h

theorem freshName_isLegal {taken : List String} {own : MemberName} (h : own.IsLegal)
    (hempty : own.text = "" → "" ∉ taken) : (freshName taken own).IsLegal := by
  have hnamed := NamedBeside.of_freshName taken own
  by_cases htaken : own.text ∈ taken
  · obtain ⟨k, -, hk, -⟩ := hnamed.numbered htaken
    rw [hk]
    apply h.suffixed
    intro he
    exact hempty he (he ▸ htaken)
  · rwa [hnamed.kept htaken]

theorem eq_empty_of_freshName {taken : List String} {own : MemberName}
    (h : (freshName taken own).text = "") : own.text = "" := by
  have hnamed := NamedBeside.of_freshName taken own
  by_cases htaken : own.text ∈ taken
  · obtain ⟨k, -, hk, -⟩ := hnamed.numbered htaken
    rw [hk, MemberName.text_renamed] at h
    simp [suffixed] at h
  · rwa [hnamed.kept htaken] at h

/-- All members of literals that differ have legal names, as long as the empty text is not taken
before the literal that it is. -/
theorem isLegal_of_mem_enumMembers {enumName : String} (hname : Text.isIdentifier enumName = true)
    (base : EnumBase) {taken : List String} {items : List Json} (hitems : items.Nodup)
    (hempty : .string "" ∈ items → "" ∉ taken) :
    ∀ m ∈ enumMembers enumName base taken items, m.1.IsLegal := by
  induction items generalizing taken with
  | nil => simp [enumMembers]
  | cons item rest ih =>
    obtain ⟨hnew, hrest⟩ := List.nodup_cons.mp hitems
    rw [enumMembers, List.forall_mem_cons]
    constructor
    · apply freshName_isLegal (memberName_isLegal hname base item)
      intro he
      exact hempty (eq_empty_of_memberName he ▸ .head _)
    · apply ih hrest
      intro hmem
      rw [List.mem_cons, not_or]
      refine ⟨fun he => ?_, hempty (.tail _ hmem)⟩
      -- Another literal with this name would be the empty text once more.
      have hitem := eq_empty_of_memberName (eq_empty_of_freshName he.symm)
      exact hnew (hitem ▸ hmem)

/-- An enumeration whose own name is an identifier has one member for each literal, with legal names
only: what is not in quotes is an identifier, a suffix included, and what is in quotes is neither an
identifier nor a number. -/
theorem enum_member_names_legal {name : String} (hname : Text.isIdentifier name = true)
    (base : EnumBase) (items : List Json) :
    ∃ members, enumDeclaration name base items = .enum name members ∧
      members.map Prod.snd = (distinctLiterals items).map initializer ∧
      ∀ m ∈ members, m.1.IsLegal := by
  refine ⟨_, rfl, enumMembers_literals .., isLegal_of_mem_enumMembers hname base ?_ ?_⟩
  · rw [distinctLiterals_eq_eraseDups]
    exact nodup_eraseDups items
  · simp

def markItems : List Json :=
  [.string "", .string "[1]", .array [.number (.whole 1)], .string "-1.5e3", .string "+inf"]

/-- The list takes a suffix inside its quotes, and the numbers are spelt as identifiers. -/
theorem mark_member_names_legal :
    Text.isIdentifier "Mark" = true ∧
    ∃ members, enumDeclaration "Mark" .string markItems = .enum "Mark" members ∧
      members.map Prod.fst = [.quoted "", .quoted "[1]", .quoted "[1]_2", .bare "_neg1_5e3",
        .bare "_inf"] ∧
      ∀ m ∈ members, m.1.IsLegal := by
  have hname : Text.isIdentifier "Mark" = true := by decide
  refine ⟨hname, ?_⟩
  obtain ⟨members, hdeclared, -, hlegal⟩ := enum_member_names_legal hname .string markItems
  refine ⟨members, hdeclared, ?_, hlegal⟩
  cases hdeclared
  decide +kernel

end ApiBindings.TypeScript
