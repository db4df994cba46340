import ApiBindings.Proofs.Casing
import ApiBindings.Proofs.Identifiers

/-!
Names of functions as bindings of strict module code. The name is an identifier for every operation
id, since cleaning, cutting into words and case mapping all stay within the characters of
identifiers, and one underscore mends whatever is left. It is a name that module code forbids
exactly for the three words that the table of keywords lacks.
-/
namespace ApiBindings.Text

/-- Ranges of identifier characters that hold all images of case mapping. Looking up images in
these, and not in all ranges, keeps the evaluation of the tables short. -/
def casedRanges : List (Nat × Nat) :=
  [(0x300, 0x36F), (0xC0, 0xD6), (0xD8, 0xF6), (0xF8, 0x2C1), (0x370, 0x374), (0x376, 0x377),
   (0x37B, 0x37D), (0x37F, 0x37F), (0x386, 0x386), (0x388, 0x38A), (0x38C, 0x38C),
   (0x38E, 0x3A1), (0x3A3, 0x3F5), (0x3F7, 0x481), (0x48A, 0x52F), (0x531, 0x556),
   (0x560, 0x588), (0x10A0, 0x10C5), (0x10C7, 0x10C7), (0x10CD, 0x10CD), (0x10D0, 0x10FA),
   (0x10FC, 0x1248), (0x13A0, 0x13F5), (0x13F8, 0x13FD), (0x1C80, 0x1C8A), (0x1C90, 0x1CBA),
   (0x1CBD, 0x1CBF), (0x1D00, 0x1DBF), (0x1E00, 0x1F15), (0x1F18, 0x1F1D), (0x1F20, 0x1F45),
   (0x1F48, 0x1F4D), (0x1F50, 0x1F57), (0x1F59, 0x1F59), (0x1F5B, 0x1F5B), (0x1F5D, 0x1F5D),
   (0x1F5F, 0x1F7D), (0x1F80, 0x1FB4), (0x1FB6, 0x1FBC), (0x1FC2, 0x1FC4), (0x1FC6, 0x1FCC),
   (0x1FD0, 0x1FD3), (0x1FD6, 0x1FDB), (0x1FE0, 0x1FEC), (0x1FF2, 0x1FF4), (0x1FF6, 0x1FFC),
   (0x212A, 0x2139), (0x214E, 0x214E), (0x2160, 0x2188), (0x2C00, 0x2CE4), (0x2CEB, 0x2CEE),
   (0x2CF2, 0x2CF3), (0x2D00, 0x2D25), (0x2D27, 0x2D27), (0x2D2D, 0x2D2D), (0xA640, 0xA66E),
   (0xA67F, 0xA69D), (0xA722, 0xA788), (0xA78B, 0xA7DC), (0xA7F1, 0xA801), (0xAB30, 0xAB5A),
   (0xAB70, 0xABE2), (0xFF21, 0xFF3A), (0xFF41, 0xFF5A), (0x10400, 0x1049D), (0x104B0, 0x104D3),
   (0x104D8, 0x104FB), (0x10570, 0x1057A), (0x1057C, 0x1058A), (0x1058C, 0x10592),
   (0x10594, 0x10595), (0x10597, 0x105A1), (0x105A3, 0x105B1), (0x105B3, 0x105B9),
   (0x105BB, 0x105BC), (0x10C80, 0x10CB2), (0x10CC0, 0x10CF2), (0x10D4A, 0x10D65),
   (0x10D6F, 0x10D85), (0x118A0, 0x118DF), (0x16E40, 0x16E7F), (0x16EA0, 0x16EB8),
   (0x16EBB, 0x16ED3), (0x1E900, 0x1E943)]

def coverCodes (ranges : List (Nat × Nat)) (first last : Nat) : Bool :=
  ranges.any fun s => s.1.ble first && last.ble s.2

def missCodes (ranges : List (Nat × Nat)) (first last : Nat) : Bool :=
  ranges.all fun s => last.blt s.1 || s.2.blt first

def imageIdentifies (n : Nat) : Bool :=
  n.blt 128 && isIdentifierPart (Char.ofNat n) || coverCodes casedRanges n n

/-- A run of the case tables that keeps the characters of identifiers: its images lie in one range,
each of them is such a character by itself, or none of its sources is. -/
def runKeepsIdentifiers : Nat × Nat × Nat × Nat → Bool
  | (first, last, stride, image) =>
    coverCodes casedRanges image (image + (last - first)) ||
      ((List.range (last - first + 1)).all fun k => k % stride != 0 || imageIdentifies (image + k))
      || missCodes (identifierOnlyContinueRanges ++ identifierStartRanges) first last

/-- Do the tables of a case mapping keep the characters of identifiers? -/
def tablesKeepIdentifiers (long : List (Nat × List Nat)) (runs : List (Nat × Nat × Nat × Nat)) :
    Bool :=
  (long.all fun e => e.2.all imageIdentifies) && runs.all runKeepsIdentifiers

/-- All that is checked of the tables. The ranges of images are ranges of identifier characters,
beyond ASCII and without surrogates; both mappings keep to them; and no image in uppercase is a
small letter of ASCII. -/
theorem case_tables_checked :
    casedRanges.Sublist (identifierOnlyContinueRanges ++ identifierStartRanges) ∧
      (∀ s ∈ casedRanges, 128 ≤ s.1 ∧ (s.2 < 0xD800 ∨ 0xDFFF < s.1 ∧ s.2 < 0x110000)) ∧
      tablesKeepIdentifiers toLowerLong toLowerRuns = true ∧
      tablesKeepIdentifiers toUpperLong toUpperRuns = true ∧
      (∀ e ∈ toUpperLong, ∀ n ∈ e.2, n < 97 ∨ 122 < n) ∧
      ∀ r ∈ toUpperRuns, r.2.2.2 + (r.2.1 - r.1) < 97 ∨ 122 < r.2.2.2 := by
  decide +kernel

theorem isIdentifierPart_iff {c : Char} (hascii : ¬ c.toNat < 128) :
    isIdentifierPart c = true ↔ ∃ s ∈ identifierOnlyContinueRanges ++ identifierStartRanges,
      s.1 ≤ c.toNat ∧ c.toNat ≤ s.2 := by
  have hdollar : c ≠ '$' := by
    rintro rfl
    exact hascii (by decide)
  rw [isIdentifierPart, isIdentifierContinue, if_neg hascii, beq_eq_false_iff_ne.mpr hdollar,
    Bool.false_or, Bool.or_comm, inRanges, inRanges, ← List.any_append, List.any_eq_true]
  simp only [Bool.and_eq_true, decide_eq_true_eq]

theorem isIdentifierPart_of_coverCodes {first last n : Nat}
    (h : coverCodes casedRanges first last = true) (hfirst : first ≤ n) (hlast : n ≤ last) :
    isIdentifierPart (Char.ofNat n) = true := by
  obtain ⟨s, hs, hcover⟩ := List.any_eq_true.mp h
  rw [Bool.and_eq_true, Nat.ble_eq, Nat.ble_eq] at hcover
  obtain ⟨hranges, hall, -⟩ := case_tables_checked
  obtain ⟨hascii, hvalid⟩ := hall s hs
  have hchar : n.isValidChar := by
    unfold Nat.isValidChar
    omega
  have hn : (Char.ofNat n).toNat = n := by
    rw [Char.ofNat, dif_pos hchar]
    rfl
  rw [isIdentifierPart_iff (by omega), hn]
  exact ⟨s, hranges.subset hs, by omega⟩

theorem isIdentifierPart_of_imageIdentifies {n : Nat} (h : imageIdentifies n = true) :
    isIdentifierPart (Char.ofNat n) = true := by
  rw [imageIdentifies, Bool.or_eq_true, Bool.and_eq_true] at h
  rcases h with h | h
  · exact h.2
  · exact isIdentifierPart_of_coverCodes h (Nat.le_refl n) (Nat.le_refl n)

theorem not_isIdentifierPart_of_missCodes {first last : Nat} {c : Char}
    (h : missCodes (identifierOnlyContinueRanges ++ identifierStartRanges) first last = true)
    (hascii : ¬ c.toNat < 128) (hfirst : first ≤ c.toNat) (hlast : c.toNat ≤ last) :
    ¬ isIdentifierPart c = true := by
  rw [isIdentifierPart_iff hascii]
  rintro ⟨s, hs, hin⟩
  have hmiss := List.all_eq_true.mp h s hs
  rw [Bool.or_eq_true, Nat.blt_eq, Nat.blt_eq] at hmiss
  omega

theorem isIdentifierPart_of_mem_cased {ascii : Char → Char} {long : List (Nat × List Nat)}
    {runs : List (Nat × Nat × Nat × Nat)}
    (hascii : ∀ n < 128, isIdentifierPart (Char.ofNat n) = true →
      isIdentifierPart (ascii (Char.ofNat n)) = true)
    (htables : tablesKeepIdentifiers long runs = true) {c d : Char} (hc : isIdentifierPart c = true)
    (h : d ∈ if c.toNat < 128 then [ascii c] else mapCase long runs c) :
    isIdentifierPart d = true := by
  obtain ⟨hlong, hruns⟩ := Bool.and_eq_true_iff.mp htables
  refine forall_mem_cased (S := fun c => isIdentifierPart c = true)
    (P := fun d => isIdentifierPart d = true) hascii ?_ ?_ (fun _ hc _ => hc) hc d h
  · intro e he n hn
    exact isIdentifierPart_of_imageIdentifies
      (List.all_eq_true.mp (List.all_eq_true.mp hlong e he) n hn)
  · rintro ⟨first, last, stride, image⟩ hr c hc hn hfirst hlast hstride
    have hkeeps := List.all_eq_true.mp hruns _ hr
    simp only [runKeepsIdentifiers, Bool.or_eq_true] at hkeeps
    rcases hkeeps with (hcover | hevery) | hmiss
    · exact isIdentifierPart_of_coverCodes hcover (Nat.le_add_right _ _)
        (Nat.add_le_add_left (Nat.sub_le_sub_right hlast _) _)
    · have himage := List.all_eq_true.mp hevery (c.toNat - first)
        (List.mem_range.mpr (by dsimp only at hlast; omega))
      exact isIdentifierPart_of_imageIdentifies (by simpa [hstride] using himage)
    · exact absurd hc (not_isIdentifierPart_of_missCodes hmiss hn hfirst hlast)

theorem isIdentifierPart_of_mem_lowercase {c d : Char} (hc : isIdentifierPart c = true)
    (h : d ∈ lowercase c) : isIdentifierPart d = true :=
  isIdentifierPart_of_mem_cased (by decide) case_tables_checked.2.2.1 hc h

theorem isIdentifierPart_of_mem_uppercase {c d : Char} (hc : isIdentifierPart c = true)
    (h : d ∈ uppercase c) : isIdentifierPart d = true :=
  isIdentifierPart_of_mem_cased (by decide) case_tables_checked.2.2.2.1 hc h

theorem isIdentifierPart_of_mem_lowerWord {w : List Char}
    (hw : ∀ c ∈ w, isIdentifierPart c = true) {d : Char} (h : d ∈ lowerWord w) :
    isIdentifierPart d = true := by
  fun_induction lowerWord w with
  | case1 => cases h
  | case2 =>
    rw [List.mem_singleton.mp h]
    decide
  | case3 c hc => exact isIdentifierPart_of_mem_lowercase (hw c (.head _)) h
  | case4 c rest hr ih =>
    rw [List.forall_mem_cons] at hw
    rcases List.mem_append.mp h with h | h
    · exact isIdentifierPart_of_mem_lowercase hw.1 h
    · exact ih hw.2 h

theorem isIdentifierPart_of_mem_capitalWord {w : List Char}
    (hw : ∀ c ∈ w, isIdentifierPart c = true) {d : Char} (h : d ∈ capitalWord w) :
    isIdentifierPart d = true := by
  cases w with
  | nil => cases h
  | cons c rest =>
    rw [List.forall_mem_cons] at hw
    rcases List.mem_append.mp h with h | h
    · exact isIdentifierPart_of_mem_uppercase hw.1 h
    · exact isIdentifierPart_of_mem_lowerWord hw.2 h

theorem isIdentifierPart_of_mem_camelCase {cs : List Char}
    (hcs : ∀ c ∈ cs, isIdentifierPart c = true) {d : Char} (h : d ∈ camelCase cs) :
    isIdentifierPart d = true := by
  have hwords : ∀ w ∈ words cs, ∀ c ∈ w, isIdentifierPart c = true :=
    fun w hw c hc => hcs c (mem_of_mem_words hw c hc).1
  unfold camelCase at h
  split at h
  · cases h
  · next first others heq =>
    rw [heq, List.forall_mem_cons] at hwords
    rcases List.mem_append.mp h with h | h
    · exact isIdentifierPart_of_mem_lowerWord hwords.1 h
    · obtain ⟨w, hw, hd⟩ := List.mem_flatMap.mp h
      exact isIdentifierPart_of_mem_capitalWord (hwords.2 w hw) hd

theorem isLower_ofNat {n : Nat} (h : n < 97 ∨ 122 < n) : (Char.ofNat n).isLower = false := by
  rw [Bool.eq_false_iff]
  intro hz
  obtain ⟨ha, hz⟩ := Bool.and_eq_true_iff.mp hz
  have hfirst : 97 ≤ (Char.ofNat n).toNat := of_decide_eq_true ha
  have hlast : (Char.ofNat n).toNat ≤ 122 := of_decide_eq_true hz
  have := toNat_ofNat_cases n
  omega

theorem isLower_of_mem_uppercase {c d : Char} (h : d ∈ uppercase c) : d.isLower = false := by
  obtain ⟨-, -, -, -, hlong, hruns⟩ := case_tables_checked
  refine forall_mem_cased (S := fun _ => True) (P := fun d => d.isLower = false) (by decide)
    ?_ ?_ ?_ trivial d h
  · exact fun e he n hn => isLower_ofNat (hlong e he n hn)
  · intro r hr c _ _ _ hlast _
    exact isLower_ofNat (by have := hruns r hr; omega)
  · intro c _ hc
    rw [← Char.ofNat_toNat c]
    exact isLower_ofNat (by omega)

/-- A text in lowercase letters is the spelling of one word: every further word would start with
another character. -/
theorem camelCase_eq_iff {cs text : List Char} (hne : text ≠ [])
    (htext : ∀ c ∈ text, c.isLower = true) :
    camelCase cs = text ↔ ∃ w, words cs = [w] ∧ lowerWord w = text := by
  constructor
  · intro h
    unfold camelCase at h
    split at h
    · exact absurd h.symm hne
    · next first others hw =>
      cases others with
      | nil => exact ⟨first, hw, by simpa using h⟩
      | cons second rest =>
        have hsecond : second ∈ words cs := by simp [hw]
        obtain ⟨c, tail, rfl⟩ := List.exists_cons_of_ne_nil (ne_nil_of_mem_words hsecond)
        obtain ⟨d, hd⟩ := List.exists_mem_of_ne_nil _ (uppercase_ne_nil c)
        have hmem : d ∈ text := by
          rw [← h, List.flatMap_cons, capitalWord]
          simp [hd]
        have hupper := isLower_of_mem_uppercase hd
        rw [htext d hmem] at hupper
        cases hupper
  · rintro ⟨w, hw, rfl⟩
    simp [camelCase, hw]

end ApiBindings.Text

namespace ApiBindings.TypeScript

open Text

/-- The words that module code reserves: those that all code does, strict code and modules. -/
def moduleReservedWords : List String :=
  ["break", "case", "catch", "class", "const", "continue", "debugger", "default", "delete", "do",
   "else", "enum", "export", "extends", "false", "finally", "for", "function", "if", "import",
   "in", "instanceof", "new", "null", "return", "super", "switch", "this", "throw", "true", "try",
   "typeof", "var", "void", "while", "with",
   "implements", "interface", "let", "package", "private", "protected", "public", "static",
   "yield",
   "await"]

def restrictedIdentifiers : List String := ["arguments", "eval"]

/-- Can a function be declared under this name in strict module code? -/
def IsBindingName (name : String) : Prop :=
  isIdentifier name = true ∧ name ∉ moduleReservedWords ++ restrictedIdentifiers

instance : DecidablePred IsBindingName := fun _ => inferInstanceAs (Decidable (_ ∧ _))

/-- The words that no function may be named after and that are not among the keywords. -/
def unlistedWords : List String := ["await", "arguments", "eval"]

theorem forbidden_eq :
    moduleReservedWords ++ restrictedIdentifiers = keywords ++ unlistedWords := rfl

theorem underscore_append_not_mem_forbidden (s : String) :
    "_" ++ s ∉ moduleReservedWords ++ restrictedIdentifiers := by
  have hfirst : ∀ w ∈ moduleReservedWords ++ restrictedIdentifiers, w.toList.head? ≠ some '_' := by
    decide
  intro h
  apply hfirst _ h
  rw [String.toList_append]
  rfl

def plainName (id : String) : String := String.ofList (camelCase (identifierChars id.toList))

theorem functionName_eq (id : String) :
    functionName id =
      if keywords.contains (plainName id) || !isIdentifier (plainName id) then "_" ++ plainName id
      else plainName id := rfl

theorem functionName_of_mended {id : String}
    (h : plainName id ∈ keywords ∨ isIdentifier (plainName id) = false) :
    functionName id = "_" ++ plainName id := by
  rw [functionName_eq, if_pos]
  simpa using h

theorem functionName_of_plain {id : String} (hkeyword : plainName id ∉ keywords)
    (hname : isIdentifier (plainName id) = true) : functionName id = plainName id := by
  rw [functionName_eq, if_neg]
  simpa using ⟨hkeyword, hname⟩

theorem isIdentifier_mended (id : String) : isIdentifier ("_" ++ plainName id) = true := by
  apply isIdentifier_underscore_append
  intro c hc
  rw [plainName, String.toList_ofList] at hc
  exact isIdentifierPart_of_mem_camelCase (fun _ => isIdentifierPart_of_mem_identifierChars) hc

theorem isIdentifier_functionName (id : String) : isIdentifier (functionName id) = true := by
  by_cases h : plainName id ∈ keywords ∨ isIdentifier (plainName id) = false
  · rw [functionName_of_mended h]
    exact isIdentifier_mended id
  · rw [not_or, Bool.not_eq_false] at h
    rw [functionName_of_plain h.1 h.2]
    exact h.2

/-- Mending clears every forbidden word but those that are not looked up. -/
theorem functionName_mem_forbidden_iff (id : String) :
    functionName id ∈ moduleReservedWords ++ restrictedIdentifiers ↔
      plainName id ∈ unlistedWords := by
  have hplain : ∀ w ∈ unlistedWords, w ∉ keywords ∧ isIdentifier w = true := by decide
  constructor
  · intro h
    by_cases hmend : plainName id ∈ keywords ∨ isIdentifier (plainName id) = false
    · rw [functionName_of_mended hmend] at h
      exact absurd h (underscore_append_not_mem_forbidden _)
    · rw [not_or, Bool.not_eq_false] at hmend
      rw [functionName_of_plain hmend.1 hmend.2] at h
      rw [forbidden_eq, List.mem_append] at h
      exact h.resolve_left hmend.1
  · intro h
    obtain ⟨hkeyword, hname⟩ := hplain _ h
    rw [functionName_of_plain hkeyword hname, forbidden_eq]
    exact List.mem_append_right _ h

theorem plainName_mem_unlistedWords_iff (id : String) :
    plainName id ∈ unlistedWords ↔
      ∃ w, words (identifierChars id.toList) = [w] ∧
        String.ofList (lowerWord w) ∈ unlistedWords := by
  have hlower : ∀ s ∈ unlistedWords, s.toList ≠ [] ∧ s.toList.all Char.isLower = true := by decide
  constructor
  · intro h
    obtain ⟨hne, hall⟩ := hlower _ h
    obtain ⟨w, hw, heq⟩ :=
      (camelCase_eq_iff hne (List.all_eq_true.mp hall)).mp String.toList_ofList.symm
    refine ⟨w, hw, ?_⟩
    rw [heq, String.ofList_toList]
    exact h
  · rintro ⟨w, hw, hmem⟩
    obtain ⟨hne, hall⟩ := hlower _ hmem
    rw [String.toList_ofList] at hne hall
    rw [plainName, (camelCase_eq_iff hne (List.all_eq_true.mp hall)).mpr ⟨w, hw, rfl⟩]
    exact hmem

/-- The name of every function is an identifier and not empty. Strict module code can bind it unless
the operation id is a single word that reads `await`, `arguments` or `eval` in lowercase. -/
theorem functionName_binds_iff (id : String) :
    functionName id ≠ "" ∧ isIdentifier (functionName id) = true ∧
      (IsBindingName (functionName id) ↔
        ¬ ∃ w, words (identifierChars id.toList) = [w] ∧
          String.ofList (lowerWord w) ∈ ["await", "arguments", "eval"]) := by
  have hname := isIdentifier_functionName id
  refine ⟨?_, hname, ?_⟩
  · intro h
    rw [h] at hname
    cases hname
  · rw [IsBindingName, functionName_mem_forbidden_iff, plainName_mem_unlistedWords_iff]
    exact and_iff_right hname

/-- An operation that is called `await` or `Eval` gets a function that no module can declare. -/
theorem await_not_bindable :
    functionName "await" = "await" ∧ ¬ IsBindingName (functionName "await") ∧
      functionName "Eval" = "eval" ∧ ¬ IsBindingName (functionName "Eval") := by
  decide +kernel

end ApiBindings.TypeScript
