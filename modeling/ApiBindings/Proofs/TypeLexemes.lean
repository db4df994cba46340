import ApiBindings.Proofs.Identifiers
import ApiBindings.Proofs.JsonText
import ApiBindings.Proofs.NumberGrammar
import ApiBindings.Proofs.TypeReading

namespace ApiBindings.Text

theorem splitBy_intercalate {parts : List (List Char)} (hne : parts ≠ [])
    (h : ∀ part ∈ parts, '.' ∉ part) :
    splitBy (· != '.') (List.intercalate ['.'] parts) = parts := by
  induction parts with
  | nil => exact absurd rfl hne
  | cons part parts ih =>
    have hpart : splitBy (· != '.') part = [part] := by
      apply splitBy_of_forall
      intro c hc
      rw [bne_iff_ne]
      rintro rfl
      exact h part (.head _) hc
    cases parts with
    | nil => rw [List.intercalate_singleton, hpart]
    | cons next rest =>
      rw [List.intercalate_cons_cons, List.append_assoc, List.singleton_append,
        splitBy_append_cons (by decide), hpart,
        ih (List.cons_ne_nil _ _) fun p hp => h p (.tail _ hp)]
      rfl

end ApiBindings.Text

namespace ApiBindings.Number

theorem MagnitudeText.head {cs : List Char} (h : MagnitudeText cs) :
    ∀ c ∈ cs.head?, c.isDigit = true ∨ c = '.' := by
  intro c hc
  cases h with
  | @whole digits tail hd hne _ =>
    rw [List.head?_append_of_ne_nil _ hne] at hc
    exact .inl (hd c (List.mem_of_mem_head? hc))
  | @fraction whole fraction tail hw _ _ _ =>
    cases whole with
    | nil =>
      cases hc
      exact .inr rfl
    | cons d ds =>
      cases hc
      exact .inl (hw _ (.head _))

end ApiBindings.Number

namespace ApiBindings.TypeScript
open Text (isIdentifier isIdentifierChars isIdentifierPart)

/-- What follows does not go on with a word or a number. -/
def Delimited (rest : List Char) : Prop := ∀ c ∈ rest.head?, isRunPart c = false

theorem delimited_nil : Delimited [] := by
  rintro c ⟨⟩

theorem delimited_cons {c : Char} (h : isRunPart c = false) (rest : List Char) :
    Delimited (c :: rest) := by
  rintro _ ⟨⟩
  exact h

theorem readFrom_blank (stage : Stage) (rest : List Char) :
    readFrom stage (' ' :: rest) = readFrom stage rest := readFrom_skip rfl stage

theorem readFrom_newline (stage : Stage) (rest : List Char) :
    readFrom stage ('\n' :: rest) = readFrom stage rest := readFrom_skip rfl stage

theorem readFrom_indent (stage : Stage) (level : Nat) (rest : List Char) :
    readFrom stage ((indent level).toList ++ rest) = readFrom stage rest := by
  rw [indent, String.toList_ofList]
  generalize 2 * level = n
  induction n with
  | zero => rfl
  | succ n ih => rw [List.replicate_succ, List.cons_append, readFrom_blank, ih]

theorem lexeme?_comment {cs body rest : List Char} (h : readComment? cs = some (body, rest)) :
    lexeme? cs = some (none, rest) := by
  unfold readComment? at h
  split at h
  · next after =>
    change (untilEndMark? after).map _ = _
    rw [h]
    rfl
  · cases h

theorem readFrom_comment (stage : Stage) (text : String) (rest : List Char) :
    readFrom stage ((ownComment text).toList ++ rest) = readFrom stage rest := by
  rw [ownComment, readFrom_skip (lexeme?_comment (readComment?_leading text rest)), readFrom_blank]

theorem readFrom_leadText (stage : Stage) (comment : Option String) (rest : List Char) :
    readFrom stage ((leadText ownComment comment).toList ++ rest) = readFrom stage rest := by
  cases comment with
  | none => rfl
  | some text => exact readFrom_comment stage text rest

theorem isRunPart_of_isMark {c : Char} (h : isMark c = true) : isRunPart c = false := by
  simp [isMark] at h
  rcases h with rfl | rfl | rfl | rfl | rfl | rfl | rfl | rfl | rfl | rfl | rfl <;> rfl

theorem lexeme?_mark {c : Char} (h : isMark c = true) (rest : List Char) :
    lexeme? (c :: rest) = some (some (.mark c), rest) := by
  have hblank : (c == ' ' || c == '\n') = false := by
    rw [← Bool.not_eq_true, Bool.or_eq_true, beq_iff_eq, beq_iff_eq]
    rintro (rfl | rfl) <;> exact absurd h (by decide)
  rw [lexeme?, hblank, h]
  rfl

theorem readFrom_mark {c : Char} (h : isMark c = true) (stage : Stage) (rest : List Char) :
    readFrom stage (c :: rest) = (step stage (.mark c)).bind fun next => readFrom next rest :=
  readFrom_token (lexeme?_mark h rest) stage

section StringLiterals

theorem hexDigit?_digitChar : ∀ n < 16, Yaml.hexDigit? (Nat.digitChar n) = some n := by decide

theorem readEscape?_hexPair (c : Char) (h : c.toNat < 0x20) (rest : List Char) :
    readEscape? ('x' :: hexPair c.toNat ++ rest) = some (c, rest) := by
  have hhigh := hexDigit?_digitChar (c.toNat / 16) (by omega)
  have hlow := hexDigit?_digitChar (c.toNat % 16) (by omega)
  have hc : c.toNat / 16 * 16 + c.toNat % 16 = c.toNat := by omega
  simp [readEscape?, hexPair, Yaml.hexNumber?, hhigh, hlow, hc]

theorem escapedChar_cases {quote : Char} (hq : quote = '"' ∨ quote = '\'') (c : Char)
    (next : Option Char) : (∃ tail, escapedChar quote c next = '\\' :: tail) ∨
      escapedChar quote c next = [c] ∧ c ≠ quote ∧ c ≠ '\\' ∧ c ≠ '\n' ∧ c ≠ '\r' := by
  unfold escapedChar
  split
  · split <;> exact .inl ⟨_, rfl⟩
  iterate 5 exact .inl ⟨_, rfl⟩
  · rcases hq with rfl | rfl <;> exact .inr (by decide)
  iterate 4 exact .inl ⟨_, rfl⟩
  · next hn hr _ _ hb _ _ _ =>
    split
    · exact .inl ⟨_, rfl⟩
    split
    · exact .inl ⟨_, rfl⟩
    · next hne _ => exact .inr ⟨rfl, hne, hb, hn, hr⟩

/-- A character is read as it was written, unless a digit goes on with the escape of zero. -/
theorem readChar?_escapedChar {quote : Char} (hq : quote = '"' ∨ quote = '\'') (c : Char)
    {next : Option Char} {rest : List Char}
    (hnext : rest.head?.any Char.isDigit = true → next.any Char.isDigit = true) :
    readChar? (escapedChar quote c next ++ rest) = some (c, rest) := by
  unfold escapedChar
  split
  · split
    · exact readEscape?_hexPair '\x00' (by decide) rest
    · next hdigit => exact if_neg fun h => hdigit (hnext h)
  iterate 10 rfl
  · next hn hr _ _ hb _ _ _ =>
    split
    · next hc =>
      subst hc
      rcases hq with rfl | rfl <;> rfl
    split
    · next hlt => exact readEscape?_hexPair c hlt rest
    · rw [List.singleton_append, readChar?, if_neg hb, if_neg (by simpa using ⟨hn, hr⟩)]

theorem head?_escapedChars_ne {quote : Char} (hq : quote = '"' ∨ quote = '\'') (c : Char)
    (cs rest : List Char) : (escapedChars quote (c :: cs) ++ rest).head? ≠ some quote := by
  rw [escapedChars]
  rcases escapedChar_cases hq c cs.head? with ⟨tail, he⟩ | ⟨he, hne, -⟩
  · rcases hq with rfl | rfl <;> simp [he]
  · simpa [he] using hne

theorem any_isDigit_of_escapedChars {quote : Char} (hq : quote = '"' ∨ quote = '\'')
    {cs rest : List Char}
    (h : (escapedChars quote cs ++ quote :: rest).head?.any Char.isDigit = true) :
    cs.head?.any Char.isDigit = true := by
  cases cs with
  | nil => rcases hq with rfl | rfl <;> exact absurd h (by simp [escapedChars])
  | cons c cs =>
    rw [escapedChars] at h
    rcases escapedChar_cases hq c cs.head? with ⟨tail, he⟩ | ⟨he, -⟩
    · simp [he] at h
    · simpa [he] using h

/-- A string literal is read as the text it was written for, to its last quote. -/
theorem readLiteral?_escapedChars {quote : Char} (hq : quote = '"' ∨ quote = '\'')
    (cs rest : List Char) :
    readLiteral? quote (escapedChars quote cs ++ quote :: rest) = some (cs, rest) := by
  induction cs with
  | nil =>
    rw [escapedChars, List.nil_append, readLiteral?, List.head?_cons, if_pos rfl, List.tail_cons]
  | cons c cs ih =>
    have hchar : readChar? (escapedChars quote (c :: cs) ++ quote :: rest) =
        some (c, escapedChars quote cs ++ quote :: rest) := by
      rw [escapedChars, List.append_assoc]
      exact readChar?_escapedChar hq c (any_isDigit_of_escapedChars hq)
    rw [readLiteral?, if_neg (head?_escapedChars_ne hq c cs _)]
    grind

theorem quoteFor_eq (cs : List Char) : quoteFor cs = '"' ∨ quoteFor cs = '\'' := by
  unfold quoteFor
  split
  · exact .inr rfl
  · exact .inl rfl

theorem readFrom_stringLiteral (stage : Stage) (value : String) (rest : List Char) :
    readFrom stage ((stringLiteral value).toList ++ rest) =
      (step stage (.string value)).bind fun next => readFrom next rest := by
  have hquote := quoteFor_eq value.toList
  have hread := readLiteral?_escapedChars hquote value.toList rest
  have hlexeme : lexeme? ((stringLiteral value).toList ++ rest) =
      some (some (.string value), rest) := by
    rw [stringLiteral, String.toList_ofList, literalChars]
    generalize quoteFor value.toList = quote at hquote hread ⊢
    rw [List.cons_append, List.cons_append, List.append_assoc, List.singleton_append]
    rcases hquote with rfl | rfl
    · change (readLiteral? _ _).map _ = _
      rw [hread]
      simp
    · change (readLiteral? _ _).map _ = _
      rw [hread]
      simp
  exact readFrom_token hlexeme stage

end StringLiterals

section Runs

theorem isRunPart_of_isIdentifierPart {c : Char} (h : isIdentifierPart c = true) :
    isRunPart c = true := by
  simp [isRunPart, h]

theorem isRunPart_of_isNumeralChar {c : Char} (h : isNumeralChar c = true) :
    isRunPart c = true := by
  simp only [isNumeralChar, Bool.or_eq_true, beq_iff_eq] at h
  rcases h with (((h | rfl) | rfl) | rfl) | rfl
  · exact isRunPart_of_isIdentifierPart (Text.isIdentifierPart_of_isDigit h)
  all_goals decide

theorem beq_eq_false_of_isRunPart {c d : Char} (hc : isRunPart c = true)
    (hd : isRunPart d = false) : (c == d) = false := by
  rw [beq_eq_false_iff_ne]
  rintro rfl
  rw [hc] at hd
  cases hd

theorem lexeme?_run {run rest : List Char} (hne : run ≠ []) (hrun : ∀ c ∈ run, isRunPart c = true)
    (hrest : Delimited rest) : lexeme? (run ++ rest) = some (some (runToken run), rest) := by
  obtain ⟨htake, hdrop⟩ := takeWhile_dropWhile_append hrun hrest
  obtain ⟨c, cs, rfl⟩ := List.exists_cons_of_ne_nil hne
  have hc := hrun c (.head _)
  have hmark : isMark c = false := by
    rw [← Bool.not_eq_true]
    intro hm
    rw [isRunPart_of_isMark hm] at hc
    cases hc
  rw [List.cons_append] at htake hdrop ⊢
  have hne {d : Char} (hd : isRunPart d = false) : (c == d) = false :=
    beq_eq_false_of_isRunPart hc hd
  rw [lexeme?, hne (d := ' ') rfl, hne (d := '\n') rfl, hmark, hne (d := '/') rfl,
    hne (d := '"') rfl, hne (d := '\'') rfl, hc, htake, hdrop]
  rfl

/-- A number is written as a spelling with digits, behind a minus if it is negative. -/
theorem exists_magnitudeText_chars (n : Numeral) : ∃ negative body,
    n.chars = (if negative = true then '-' :: body else body) ∧ Number.MagnitudeText body := by
  cases n with
  | whole z =>
    refine ⟨decide (z < 0), Nat.toDigits 10 z.natAbs, ?_, ?_⟩
    · rw [whole_chars_eq]
      by_cases hz : z < 0 <;> simp [hz]
    · rw [← List.append_nil (Nat.toDigits 10 z.natAbs)]
      exact .whole (fun c => Number.isDigit_of_mem_toDigits) Nat.toDigits_ne_nil .absent
  | float x =>
    obtain ⟨body, d, he, hd, -⟩ := x.toChars_eq
    exact ⟨x.negative, body, he, (Number.magnitude?_isSome_iff false).mp (by rw [hd]; rfl)⟩

theorem withoutMinus_of_head {cs : List Char} (h : ∀ c ∈ cs.head?, c ≠ '-') :
    withoutMinus cs = cs := by
  unfold withoutMinus
  split
  · exact absurd rfl (h _ rfl)
  · rfl

theorem runToken_chars (n : Numeral) : runToken n.chars = .number n.chars := by
  obtain ⟨negative, body, he, hbody⟩ := exists_magnitudeText_chars n
  have hhead : ∀ c ∈ body.head?, c ≠ '-' := by
    rintro c hc rfl
    exact absurd (hbody.head '-' hc) (by decide)
  have hminus : withoutMinus n.chars = body := by
    rw [he]
    cases negative with
    | false => exact withoutMinus_of_head hhead
    | true => rfl
  rw [runToken, hminus, (Number.magnitude?_isSome_iff false).mpr hbody, if_pos rfl]

theorem readFrom_number (n : Numeral) (stage : Stage) {rest : List Char}
    (hrest : Delimited rest) :
    readFrom stage (n.chars ++ rest) =
      (step stage (.number n.chars)).bind fun next => readFrom next rest := by
  have hlexeme := lexeme?_run n.chars_ne_nil
    (fun c hc => isRunPart_of_isNumeralChar (isNumeralChar_of_mem_chars hc)) hrest
  rw [runToken_chars] at hlexeme
  exact readFrom_token hlexeme stage

theorem not_start_of_isDigit {c : Char} (h : c.isDigit = true ∨ c = '.' ∨ c = '-') :
    ¬ (c = '$' ∨ c = '_' ∨ Text.isIdentifierStart c = true) := by
  rcases h with h | rfl | rfl
  · have hlt : c.toNat < 58 := Nat.lt_succ_of_le (Char.isDigit_iff_toNat.mp h).2
    have hdigits : ∀ n < 58, (Char.ofNat n).isDigit = true → ¬ (Char.ofNat n = '$' ∨
        Char.ofNat n = '_' ∨ Text.isIdentifierStart (Char.ofNat n) = true) := by decide
    rw [← Char.ofNat_toNat c] at h ⊢
    exact hdigits _ hlt h
  · decide
  · decide

theorem magnitude?_identifier {part rest : List Char} (h : isIdentifierChars part = true) :
    (Number.magnitude? false (withoutMinus (part ++ rest))).isSome = false := by
  cases part with
  | nil => cases h
  | cons c part =>
    have hstart := (Text.isIdentifierChars_cons.mp h).1
    have hminus : withoutMinus (c :: part ++ rest) = c :: part ++ rest := by
      apply withoutMinus_of_head
      rintro _ ⟨⟩ rfl
      exact not_start_of_isDigit (.inr (.inr rfl)) hstart
    rw [hminus, ← Bool.not_eq_true, Number.magnitude?_isSome_iff]
    intro hm
    rcases hm.head c rfl with hd | hp
    · exact not_start_of_isDigit (.inl hd) hstart
    · exact not_start_of_isDigit (.inr (.inl hp)) hstart

theorem lexeme?_intercalate {part : List Char} {parts : List (List Char)}
    (h : ∀ p ∈ part :: parts, isIdentifierChars p = true) {rest : List Char}
    (hrest : Delimited rest) : lexeme? (List.intercalate ['.'] (part :: parts) ++ rest) =
      some (some (.word ((part :: parts).map String.ofList)), rest) := by
  have hpart := h part (.head _)
  have hsplit : ∃ tail, List.intercalate ['.'] (part :: parts) = part ++ tail := by
    cases parts with
    | nil => exact ⟨[], by rw [List.intercalate_singleton, List.append_nil]⟩
    | cons => exact ⟨_, by rw [List.intercalate_cons_cons, List.append_assoc]⟩
  have hpoint : ∀ p ∈ part :: parts, '.' ∉ p := fun p hp hc =>
    absurd (Text.forall_isIdentifierPart (h p hp) '.' hc) (by decide)
  have hrun : ∀ c ∈ List.intercalate ['.'] (part :: parts), isRunPart c = true := by
    intro c hc
    rcases Text.mem_intercalate hc with rfl | ⟨p, hp, hc⟩
    · decide
    · exact isRunPart_of_isIdentifierPart (Text.forall_isIdentifierPart (h p hp) c hc)
  obtain ⟨tail, htail⟩ := hsplit
  have hne : List.intercalate ['.'] (part :: parts) ≠ [] := by
    rw [htail]
    cases part with
    | nil => cases hpart
    | cons => exact List.cons_ne_nil _ _
  have htoken : runToken (List.intercalate ['.'] (part :: parts)) =
      .word ((part :: parts).map String.ofList) := by
    rw [runToken, if_neg, Text.splitBy_intercalate (List.cons_ne_nil _ _) hpoint]
    rw [htail, magnitude?_identifier hpart]
    exact Bool.false_ne_true
  rw [lexeme?_run hne hrun hrest, htoken]

/-- A name is read as its parts, if they are identifiers. -/
theorem readFrom_word {path : List String} (hne : path ≠ [])
    (h : ∀ part ∈ path, isIdentifier part = true) (stage : Stage) {rest : List Char}
    (hrest : Delimited rest) :
    readFrom stage ((".".intercalate path).toList ++ rest) =
      (step stage (.word path)).bind fun next => readFrom next rest := by
  obtain ⟨part, parts, rfl⟩ := List.exists_cons_of_ne_nil hne
  have hchars : ∀ p ∈ (part :: parts).map String.toList, isIdentifierChars p = true :=
    List.forall_mem_map.mpr h
  have hlexeme := lexeme?_intercalate hchars hrest
  rw [← List.map_cons, List.map_map] at hlexeme
  rw [String.toList_intercalate]
  exact readFrom_token (by simpa using hlexeme) stage

end Runs

end ApiBindings.TypeScript
