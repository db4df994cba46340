import ApiBindings.Contract.Pointer
import ApiBindings.Proofs.Spans
import Mathlib.Data.List.Basic
import Mathlib.Data.List.Induction

namespace ApiBindings.Contract.Pointer

theorem escape_cons (c : Char) (token : List Char) :
    escape (c :: token) = escape [c] ++ escape token := by
  simp only [escape, List.flatMap_cons, List.flatMap_nil, List.append_nil]

theorem escape_plain {c : Char} (hc : c ≠ '~') (hs : c ≠ '/') : escape [c] = [c] := by
  simp [escape, hc, hs]

section Unescape

variable {digit char : Char}

theorem replacePair_cons {c : Char} (hc : c ≠ '~') (rest : List Char) :
    replacePair digit char (c :: rest) = c :: replacePair digit char rest := by
  rw [replacePair]
  exact fun _ _ h => absurd h hc

theorem replacePair_pair (rest : List Char) :
    replacePair digit char ('~' :: digit :: rest) = char :: replacePair digit char rest := by
  rw [replacePair, if_pos rfl]

theorem replacePair_other {d : Char} (hd : d ≠ digit) (ht : d ≠ '~') (rest : List Char) :
    replacePair digit char ('~' :: d :: rest) = '~' :: d :: replacePair digit char rest := by
  rw [replacePair, if_neg hd, replacePair_cons ht]

theorem unescape_cons {c : Char} (hc : c ≠ '~') (rest : List Char) :
    unescape (c :: rest) = c :: unescape rest := by
  rw [unescape, replacePair_cons hc, replacePair_cons hc, unescape]

-- The replacement of `~1` passes over both characters of `~0`.
theorem unescape_tilde (rest : List Char) :
    unescape ('~' :: '0' :: rest) = '~' :: unescape rest := by
  rw [unescape, replacePair_other (by decide) (by decide), replacePair_pair, unescape]

theorem unescape_slash (rest : List Char) :
    unescape ('~' :: '1' :: rest) = '/' :: unescape rest := by
  rw [unescape, replacePair_pair, replacePair_cons (by decide), unescape]

end Unescape

theorem escapesAreValid_cons {c : Char} (hc : c ≠ '~') (rest : List Char) :
    escapesAreValid (c :: rest) = escapesAreValid rest := by
  rw [escapesAreValid]
  · simp [hc]
  · exact fun _ h => absurd h hc
  · exact fun _ h => absurd h hc

theorem unescape_escape (token : List Char) : unescape (escape token) = token := by
  induction token with
  | nil => rfl
  | cons c rest ih =>
    rw [escape_cons]
    by_cases hc : c = '~'
    · subst hc
      exact (unescape_tilde _).trans (congrArg _ ih)
    · by_cases hs : c = '/'
      · subst hs
        exact (unescape_slash _).trans (congrArg _ ih)
      · rw [escape_plain hc hs, List.singleton_append, unescape_cons hc, ih]

theorem slash_not_mem_escape (token : List Char) : '/' ∉ escape token := by
  induction token with
  | nil => exact List.not_mem_nil
  | cons c rest ih =>
    rw [escape_cons, List.mem_append, not_or]
    refine ⟨?_, ih⟩
    by_cases hc : c = '~'
    · subst hc
      decide
    · by_cases hs : c = '/'
      · subst hs
        decide
      · rw [escape_plain hc hs, List.mem_singleton]
        exact Ne.symm hs

theorem escape_unescape {token : List Char} (hv : escapesAreValid token = true)
    (hs : '/' ∉ token) : escape (unescape token) = token := by
  fun_induction escapesAreValid token with
  | case1 => rfl
  | case2 rest ih =>
    have hrest : '/' ∉ rest := fun h => hs (.tail _ (.tail _ h))
    rw [unescape_tilde, escape_cons, ih hv hrest]
    rfl
  | case3 rest ih =>
    have hrest : '/' ∉ rest := fun h => hs (.tail _ (.tail _ h))
    rw [unescape_slash, escape_cons, ih hv hrest]
    rfl
  | case4 c rest h0 h1 ih =>
    rw [Bool.and_eq_true, bne_iff_ne] at hv
    rw [List.mem_cons, not_or] at hs
    rw [unescape_cons hv.1, escape_cons, escape_plain hv.1 (Ne.symm hs.1), ih hv.2 hs.2]
    rfl

theorem escapesAreValid_append {front : List Char} (hf : '~' ∉ front) (rest : List Char) :
    escapesAreValid (front ++ rest) = escapesAreValid rest := by
  induction front with
  | nil => rfl
  | cons c front ih =>
    rw [List.mem_cons, not_or] at hf
    rw [List.cons_append, escapesAreValid_cons (Ne.symm hf.1), ih hf.2]

theorem afterLast_append {front token : List Char} (ht : '/' ∉ token) :
    afterLast '/' (front ++ '/' :: token) = token := by
  have hall : ∀ c ∈ token.reverse, (c != '/') = true := by
    intro c hc
    rw [List.mem_reverse] at hc
    rw [bne_iff_ne]
    exact fun h => ht (h ▸ hc)
  rw [afterLast, List.reverse_append, List.reverse_cons, List.append_assoc,
    List.takeWhile_append_of_pos hall]
  simp

def TildesEscape (s : List Char) : Prop :=
  ∀ front back, s = front ++ '~' :: back → back.head? = some '0' ∨ back.head? = some '1'

theorem tildesEscape_cons {c : Char} (hc : c ≠ '~') (rest : List Char) :
    TildesEscape (c :: rest) ↔ TildesEscape rest := by
  constructor
  · intro h front back hs
    exact h (c :: front) back (congrArg _ hs)
  · intro h front back hs
    cases front with
    | nil => exact absurd (List.cons.inj hs).1 hc
    | cons a front => exact h front back (List.cons.inj hs).2

theorem tildesEscape_pair {d : Char} (hd : d = '0' ∨ d = '1') (rest : List Char) :
    TildesEscape ('~' :: d :: rest) ↔ TildesEscape rest := by
  have hne : d ≠ '~' := by
    rintro rfl
    revert hd
    decide
  rw [← tildesEscape_cons hne rest]
  constructor
  · intro h front back hs
    exact h ('~' :: front) back (congrArg _ hs)
  · intro h front back hs
    cases front with
    | nil =>
      rw [← (List.cons.inj hs).2]
      exact hd.imp (congrArg _) (congrArg _)
    | cons a front => exact h front back (List.cons.inj hs).2

theorem escapesAreValid_iff (s : List Char) : escapesAreValid s = true ↔ TildesEscape s := by
  fun_induction escapesAreValid s with
  | case1 => exact iff_of_true rfl fun front back hs => by simp at hs
  | case2 rest ih => rw [ih, tildesEscape_pair (.inl rfl)]
  | case3 rest ih => rw [ih, tildesEscape_pair (.inr rfl)]
  | case4 c rest h0 h1 ih =>
    rw [Bool.and_eq_true, bne_iff_ne, ih]
    constructor
    · exact fun h => (tildesEscape_cons h.1 rest).mpr h.2
    · intro h
      have hc : c ≠ '~' := by
        rintro rfl
        cases rest with
        | nil => simpa using h [] [] rfl
        | cons d rest =>
          rcases h [] (d :: rest) rfl with hd | hd
          · exact h0 rest rfl (congrArg (· :: rest) (Option.some.inj hd))
          · exact h1 rest rfl (congrArg (· :: rest) (Option.some.inj hd))
      exact ⟨hc, (tildesEscape_cons hc rest).mp h⟩

/-- The text of the pointer with the given tokens. -/
def spell (tokens : List String) : List Char :=
  tokens.flatMap fun token => '/' :: escape token.toList

theorem spell_cons (token : String) (tokens : List String) :
    spell (token :: tokens) = '/' :: (escape token.toList ++ spell tokens) := List.flatMap_cons

theorem spell_concat (tokens : List String) (token : String) :
    spell (tokens ++ [token]) = spell tokens ++ '/' :: escape token.toList := by
  rw [spell, List.flatMap_append, List.flatMap_singleton, spell]

theorem head?_spell {tokens : List String} : ∀ c ∈ (spell tokens).head?, c = '/' := by
  intro c hc
  cases tokens with
  | nil => cases hc
  | cons token tokens =>
    cases hc
    rfl

theorem tildesEscape_escape_append (token rest : List Char) :
    TildesEscape (escape token ++ rest) ↔ TildesEscape rest := by
  induction token with
  | nil => rfl
  | cons c token ih =>
    rw [escape_cons, List.append_assoc, ← ih]
    by_cases hc : c = '~'
    · subst hc
      exact tildesEscape_pair (.inl rfl) _
    · by_cases hs : c = '/'
      · subst hs
        exact tildesEscape_pair (.inr rfl) _
      · rw [escape_plain hc hs]
        exact tildesEscape_cons hc _

theorem tildesEscape_spell (tokens : List String) : TildesEscape (spell tokens) := by
  induction tokens with
  | nil => exact (escapesAreValid_iff []).mp rfl
  | cons token tokens ih =>
    rw [spell_cons, tildesEscape_cons (by decide), tildesEscape_escape_append]
    exact ih

theorem TildesEscape.of_append {token rest : List Char} (h : TildesEscape (token ++ rest))
    (hr : ∀ c ∈ rest.head?, c = '/') : TildesEscape token := by
  intro front back hs
  have hhead := h front (back ++ rest) (by rw [hs, List.append_assoc, List.cons_append])
  cases back with
  | nil =>
    rcases hhead with hc | hc
    · exact absurd (hr '0' hc) (by decide)
    · exact absurd (hr '1' hc) (by decide)
  | cons c back => exact hhead

/-- A valid pointer is made of tokens: up to the next slash it is what its first token is escaped
to. -/
theorem exists_spell {s : List Char} (hs : ∀ c ∈ s.head?, c = '/') (ht : TildesEscape s) :
    ∃ tokens, s = spell tokens := by
  induction hn : s.length using Nat.strongRecOn generalizing s with
  | _ n ih =>
    cases s with
    | nil => exact ⟨[], rfl⟩
    | cons c r =>
      obtain rfl : c = '/' := hs c rfl
      rw [tildesEscape_cons (by decide)] at ht
      have hsplit := List.takeWhile_append_dropWhile (p := (· != '/')) (l := r)
      have hnext : ∀ c ∈ (r.dropWhile (· != '/')).head?, c = '/' := by
        intro c hc
        simpa using eq_false_of_mem_head?_dropWhile hc
      have hslash : '/' ∉ r.takeWhile (· != '/') := by
        intro hm
        exact absurd (List.mem_takeWhile_imp hm) (by decide)
      have hvalid : TildesEscape (r.takeWhile (· != '/')) := by
        rw [← hsplit] at ht
        exact ht.of_append hnext
      have htoken := escape_unescape ((escapesAreValid_iff _).mpr hvalid) hslash
      have hrest : TildesEscape (r.dropWhile (· != '/')) := by
        rwa [← hsplit, ← htoken, tildesEscape_escape_append] at ht
      have hlt : (r.dropWhile (· != '/')).length < n := by
        have hle := congrArg List.length hsplit
        rw [List.length_append] at hle
        rw [List.length_cons] at hn
        omega
      obtain ⟨tokens, htokens⟩ := ih _ hlt hnext hrest rfl
      refine ⟨String.ofList (unescape (r.takeWhile (· != '/'))) :: tokens, ?_⟩
      rw [spell_cons, String.toList_ofList, htoken, ← htokens, hsplit]

theorem spell_injective : Function.Injective spell := by
  intro tokens others h
  induction tokens using List.reverseRecOn generalizing others with
  | nil =>
    cases others with
    | nil => rfl
    | cons token others => cases h
  | append_singleton tokens token ih =>
    rcases List.eq_nil_or_concat others with rfl | ⟨others, other, rfl⟩
    · rw [spell_concat] at h
      exact absurd h (by simp [spell])
    · rw [List.concat_eq_append] at h ⊢
      rw [spell_concat, spell_concat] at h
      -- The text after the last slash is that of the last token.
      have hlast := congrArg (afterLast '/') h
      rw [afterLast_append (slash_not_mem_escape _),
        afterLast_append (slash_not_mem_escape _)] at hlast
      have htoken := congrArg unescape hlast
      rw [unescape_escape, unescape_escape, String.toList_inj] at htoken
      rw [hlast, List.append_left_inj] at h
      rw [ih h, htoken]

theorem name_spell {p : Pointer} {tokens : List String} (h : p.text.toList = spell tokens) :
    p.name = tokens.getLast?.getD "" := by
  rw [name, h]
  rcases List.eq_nil_or_concat tokens with rfl | ⟨front, token, rfl⟩
  · rfl
  · rw [List.concat_eq_append, spell_concat, afterLast_append (slash_not_mem_escape _),
      unescape_escape, String.ofList_toList, List.getLast?_concat]
    rfl

def Trims (s core : List Char) : Prop :=
  ∃ before after, s = before ++ (core ++ after) ∧ (∀ c ∈ before, c ≤ ' ') ∧
    (∀ c ∈ after, c ≤ ' ') ∧ (∀ c ∈ core.head?, ¬c ≤ ' ') ∧ ∀ c ∈ core.getLast?, ¬c ≤ ' '

/-- The part of a text before its first tab or line break. -/
def Cuts (s text : List Char) : Prop :=
  ∃ rest, s = text ++ rest ∧ (∀ c ∈ text, c ≠ '\t' ∧ c ≠ '\n' ∧ c ≠ '\r') ∧
    ∀ c ∈ rest.head?, c = '\t' ∨ c = '\n' ∨ c = '\r'

theorem isTrimmed_iff {c : Char} : isTrimmed c = true ↔ c ≤ ' ' := decide_eq_true_iff

theorem isTrimmed_eq_false_iff {c : Char} : isTrimmed c = false ↔ ¬c ≤ ' ' :=
  decide_eq_false_iff_not

theorem trims_trim (s : List Char) : Trims s (trim s) := by
  have hfront := List.takeWhile_append_dropWhile (p := isTrimmed) (l := s)
  have hback := List.takeWhile_append_dropWhile (p := isTrimmed)
    (l := (s.dropWhile isTrimmed).reverse)
  have hcore : s.dropWhile isTrimmed =
      trim s ++ ((s.dropWhile isTrimmed).reverse.takeWhile isTrimmed).reverse := by
    rw [trim, ← List.reverse_append, hback, List.reverse_reverse]
  refine ⟨s.takeWhile isTrimmed, ((s.dropWhile isTrimmed).reverse.takeWhile isTrimmed).reverse,
    ?_, ?_, ?_, ?_, ?_⟩
  · rw [← hcore, hfront]
  · exact fun c hc => isTrimmed_iff.mp (List.mem_takeWhile_imp hc)
  · exact fun c hc => isTrimmed_iff.mp (List.mem_takeWhile_imp (List.mem_reverse.mp hc))
  · intro c hc
    apply isTrimmed_eq_false_iff.mp
    apply eq_false_of_mem_head?_dropWhile (s := s)
    rw [hcore]
    exact List.mem_head?_append_of_mem_head? hc
  · intro c hc
    rw [trim, List.getLast?_reverse] at hc
    exact isTrimmed_eq_false_iff.mp (eq_false_of_mem_head?_dropWhile hc)

theorem Trims.trim_eq {s core : List Char} (h : Trims s core) : trim s = core := by
  obtain ⟨before, after, rfl, hbefore, hafter, hhead, hlast⟩ := h
  have hblanks {blanks : List Char} (hb : ∀ c ∈ blanks, c ≤ ' ') :
      ∀ c ∈ blanks, isTrimmed c = true := fun c hc => isTrimmed_iff.mpr (hb c hc)
  by_cases hnil : core = []
  · subst hnil
    have hall : ∀ c ∈ before ++ after, isTrimmed c = true :=
      hblanks (List.forall_mem_append.mpr ⟨hbefore, hafter⟩)
    rw [trim, List.nil_append, List.dropWhile_eq_nil_iff.mpr hall]
    rfl
  · have hstart : ∀ c ∈ (core ++ after).head?, isTrimmed c = false := by
      intro c hc
      rw [List.head?_append_of_ne_nil _ hnil] at hc
      exact isTrimmed_eq_false_iff.mpr (hhead c hc)
    have hend : ∀ c ∈ core.reverse.head?, isTrimmed c = false := by
      intro c hc
      rw [List.head?_reverse] at hc
      exact isTrimmed_eq_false_iff.mpr (hlast c hc)
    have hrev : ∀ c ∈ after.reverse, isTrimmed c = true :=
      fun c hc => hblanks hafter c (List.mem_reverse.mp hc)
    rw [trim, (takeWhile_dropWhile_append (hblanks hbefore) hstart).2, List.reverse_append,
      (takeWhile_dropWhile_append hrev hend).2, List.reverse_reverse]

theorem isKept_iff {c : Char} : isKept c = true ↔ c ≠ '\t' ∧ c ≠ '\n' ∧ c ≠ '\r' := by
  simp [isKept, and_assoc]

theorem isKept_eq_false_iff {c : Char} : isKept c = false ↔ c = '\t' ∨ c = '\n' ∨ c = '\r' := by
  rw [← Bool.not_eq_true, isKept_iff]
  tauto

theorem takeWhile_isKept_iff {s text : List Char} : s.takeWhile isKept = text ↔ Cuts s text := by
  constructor
  · rintro rfl
    refine ⟨s.dropWhile isKept, List.takeWhile_append_dropWhile.symm, ?_, ?_⟩
    · exact fun c hc => isKept_iff.mp (List.mem_takeWhile_imp hc)
    · exact fun c hc => isKept_eq_false_iff.mp (eq_false_of_mem_head?_dropWhile hc)
  · rintro ⟨rest, rfl, htext, hrest⟩
    have hkept : ∀ c ∈ text, isKept c = true := fun c hc => isKept_iff.mpr (htext c hc)
    have hnext : ∀ c ∈ rest.head?, isKept c = false :=
      fun c hc => isKept_eq_false_iff.mpr (hrest c hc)
    exact (takeWhile_dropWhile_append hkept hnext).1

theorem isValid_of_parse {written : String} {p : Pointer} (h : parse written = .ok p) :
    isValid p.text.toList = true := by
  unfold parse at h
  split at h
  · dsimp only at h
    split at h
    · next hv =>
      cases h
      rw [String.toList_ofList]
      exact hv
    · cases h
  · cases h

theorem isValid_iff {s : List Char} :
    isValid s = true ↔ (∀ c ∈ s.head?, c = '/') ∧ TildesEscape s := by
  rw [isValid, Bool.and_eq_true, escapesAreValid_iff]
  cases s <;> simp

theorem not_isValid_iff {s : List Char} :
    ¬isValid s = true ↔ s ≠ [] ∧ s.head? ≠ some '/' ∨ ¬TildesEscape s := by
  rw [isValid_iff, not_and_or]
  cases s <;> simp

theorem parse_of_trims {written : String} {core : List Char} (ht : Trims written.toList core)
    (hc : core.head? ≠ some '#') : parse written = .error .notSameDocument := by
  rw [parse, ht.trim_eq]
  split
  · exact absurd rfl hc
  · rfl

theorem parse_of_cuts {written : String} {rest text : List Char}
    (ht : Trims written.toList ('#' :: rest)) (hc : Cuts rest text) :
    parse written = if isValid text then .ok ⟨String.ofList text⟩
      else .error (.malformed (String.ofList text)) := by
  obtain rfl := takeWhile_isKept_iff.mpr hc
  rw [parse, ht.trim_eq]
  rfl

/-- A reference is refused if it has no `#` in front, if what follows up to a tab or a line break
has something before its first slash, or if a `~` in it starts no escape. -/
theorem parse_eq_error_iff (written : String) :
    (∃ e, parse written = .error e) ↔ ∃ core, Trims written.toList core ∧
      (core.head? ≠ some '#' ∨ ∃ text, Cuts core.tail text ∧
        (text ≠ [] ∧ text.head? ≠ some '/' ∨ ¬TildesEscape text)) := by
  simp only [← not_isValid_iff]
  constructor
  · rintro ⟨e, he⟩
    refine ⟨_, trims_trim _, or_iff_not_imp_left.mpr fun hc => ?_⟩
    have hcons := List.eq_cons_of_mem_head? (not_not.mp hc)
    have hcut := takeWhile_isKept_iff.mp (rfl : (trim written.toList).tail.takeWhile isKept = _)
    refine ⟨_, hcut, fun hvalid => ?_⟩
    rw [parse_of_cuts (hcons ▸ trims_trim _) hcut, if_pos hvalid] at he
    cases he
  · rintro ⟨core, ht, hbad⟩
    by_cases hc : core.head? = some '#'
    · obtain ⟨text, hcut, hinvalid⟩ := hbad.resolve_left (not_not_intro hc)
      rw [List.eq_cons_of_mem_head? hc] at ht
      exact ⟨_, (parse_of_cuts ht hcut).trans (if_neg hinvalid)⟩
    · exact ⟨_, parse_of_trims ht hc⟩

theorem mem_escape {c : Char} {token : List Char} (h : c ∈ escape token) :
    c ∈ token ∨ c ∈ ['~', '0', '1'] := by
  obtain ⟨d, hd, hc⟩ := List.mem_flatMap.mp h
  by_cases hdt : d = '~'
  · rw [if_pos hdt] at hc
    exact .inr ((by simp : ['~', '0'] ⊆ ['~', '0', '1']) hc)
  · by_cases hds : d = '/'
    · rw [if_neg hdt, if_pos hds] at hc
      exact .inr ((by simp : ['~', '1'] ⊆ ['~', '0', '1']) hc)
    · rw [if_neg hdt, if_neg hds, List.mem_singleton] at hc
      exact .inl (hc ▸ hd)

/-- Tokens that hold no tab or line break are written so that they are read back, unless the last
character would be trimmed. -/
theorem parse_spell {tokens : List String}
    (hkept : ∀ token ∈ tokens, ∀ c ∈ token.toList, c ≠ '\t' ∧ c ≠ '\n' ∧ c ≠ '\r')
    (hlast : ∀ c ∈ ('#' :: spell tokens).getLast?, ¬c ≤ ' ') :
    parse (String.ofList ('#' :: spell tokens)) = .ok ⟨String.ofList (spell tokens)⟩ := by
  have ht : Trims (String.ofList ('#' :: spell tokens)).toList ('#' :: spell tokens) := by
    refine ⟨[], [], ?_, by simp, by simp, ?_, hlast⟩
    · rw [String.toList_ofList, List.append_nil, List.nil_append]
    · intro c hc
      cases hc
      decide
  have hcut : Cuts (spell tokens) (spell tokens) := by
    refine ⟨[], (List.append_nil _).symm, ?_, by simp⟩
    intro c hc
    obtain ⟨token, ht, hc⟩ := List.mem_flatMap.mp hc
    have hplain : ∀ c ∈ ['/', '~', '0', '1'], c ≠ '\t' ∧ c ≠ '\n' ∧ c ≠ '\r' := by simp
    rcases List.mem_cons.mp hc with rfl | hc
    · exact hplain _ (.head _)
    · rcases mem_escape hc with hc | hc
      · exact hkept token ht c hc
      · exact hplain c (.tail _ hc)
  rw [parse_of_cuts ht hcut, if_pos (isValid_iff.mpr ⟨head?_spell, tildesEscape_spell tokens⟩)]

/-- References and lists of tokens correspond. Tokens that can stand in a reference are read back,
the last one as its name; every pointer that is read has the text of one list of tokens; and what is
refused is exactly what is no such text after a `#`. -/
theorem parse_reads_tokens :
    (∀ tokens : List String,
      (∀ token ∈ tokens, ∀ c ∈ token.toList, c ≠ '\t' ∧ c ≠ '\n' ∧ c ≠ '\r') →
      (∀ c ∈ ('#' :: spell tokens).getLast?, ¬c ≤ ' ') →
      ∃ p, parse (String.ofList ('#' :: spell tokens)) = .ok p ∧ p.text.toList = spell tokens ∧
        p.name = tokens.getLast?.getD "") ∧
    (∀ written p, parse written = .ok p →
      ∃ tokens, p.text.toList = spell tokens ∧ p.name = tokens.getLast?.getD "" ∧
        ∀ others, p.text.toList = spell others → others = tokens) ∧
    ∀ written, (∃ e, parse written = .error e) ↔ ∃ core, Trims written.toList core ∧
      (core.head? ≠ some '#' ∨ ∃ text, Cuts core.tail text ∧
        (text ≠ [] ∧ text.head? ≠ some '/' ∨ ¬TildesEscape text)) := by
  refine ⟨?_, ?_, parse_eq_error_iff⟩
  · intro tokens hkept hlast
    have htext : (⟨String.ofList (spell tokens)⟩ : Pointer).text.toList = spell tokens :=
      String.toList_ofList
    exact ⟨_, parse_spell hkept hlast, htext, name_spell htext⟩
  · intro written p hp
    obtain ⟨hslash, htildes⟩ := isValid_iff.mp (isValid_of_parse hp)
    obtain ⟨tokens, htokens⟩ := exists_spell hslash htildes
    refine ⟨tokens, htokens, name_spell htokens, ?_⟩
    intro others hothers
    exact spell_injective (hothers.symm.trans htokens)

/-- A token of tildes, digits and slashes is read back, and a tilde before another digit is refused
after the blanks around it were trimmed. -/
theorem tilde_token_read :
    (∃ p, parse "#/schemas/~01~1~00" = .ok p ∧ p.name = "~1/~0") ∧
      ∃ e, parse " #/a~2\n" = .error e := by
  obtain ⟨hread, -, hrefused⟩ := parse_reads_tokens
  constructor
  · obtain ⟨p, hp, -, hname⟩ := hread ["schemas", "~1/~0"] (by simp)
      (by simp [spell, escape])
    exact ⟨p, hp, hname⟩
  · apply (hrefused _).mpr
    have htrims : Trims " #/a~2\n".toList "#/a~2".toList :=
      ⟨[' '], ['\n'], by decide, by simp, by simp, by simp, by simp⟩
    have hcuts : Cuts "/a~2".toList "/a~2".toList := ⟨[], by decide, by simp, by simp⟩
    refine ⟨_, htrims, .inr ⟨_, hcuts, .inr fun h => ?_⟩⟩
    have hdigit := h "/a".toList "2".toList (by decide)
    revert hdigit
    decide

end ApiBindings.Contract.Pointer
