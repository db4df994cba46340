import ApiBindings.Proofs.PathGrammar

namespace ApiBindings.Contract.PathTemplate

/-- Does the place between two parts of a text stand inside a run of literal characters? -/
def CutsRun (front back : List Char) : Prop :=
  (∃ c ∈ front.getLast?, isLiteralChar c = true) ∧ ∃ c ∈ back.head?, isLiteralChar c = true

theorem cutsRun_append {front : List Char} (hne : front ≠ []) (before back : List Char) :
    CutsRun (before ++ front) back ↔ CutsRun front back := by
  rw [CutsRun, CutsRun, List.getLast?_append_of_ne_nil _ hne]

theorem CutsRun.append_left {front back : List Char} (h : CutsRun front back)
    (before : List Char) : CutsRun (before ++ front) back := by
  have hne : front ≠ [] := by
    rintro rfl
    obtain ⟨⟨c, hc, -⟩, -⟩ := h
    cases hc
  exact (cutsRun_append hne before back).mpr h

section Bytes

theorem foldl_utf8Size (s : List Char) (n : Nat) :
    s.foldl (fun n c => n + c.utf8Size) n = n + utf8Length s := by
  induction s generalizing n with
  | nil => rfl
  | cons c s ih =>
    rw [utf8Length, List.foldl_cons, List.foldl_cons, ih, ih]
    omega

theorem utf8Length_cons (c : Char) (s : List Char) :
    utf8Length (c :: s) = c.utf8Size + utf8Length s := by
  rw [utf8Length, List.foldl_cons, foldl_utf8Size, Nat.zero_add]

theorem utf8Length_pos {s : List Char} (h : s ≠ []) : 0 < utf8Length s := by
  obtain ⟨c, rest, rfl⟩ := List.exists_cons_of_ne_nil h
  have hc := c.utf8Size_pos
  rw [utf8Length_cons]
  omega

theorem utf8Length_append (s t : List Char) :
    utf8Length (s ++ t) = utf8Length s + utf8Length t := by
  rw [utf8Length, List.foldl_append, foldl_utf8Size, foldl_utf8Size, Nat.zero_add]

theorem utf8ByteSize_ofList (s : List Char) : (String.ofList s).utf8ByteSize = utf8Length s := by
  induction s with
  | nil => rfl
  | cons c s ih =>
    rw [String.ofList_cons, String.utf8ByteSize_append, ih, utf8Length_cons]
    simp

theorem utf8Length_toList (s : String) : utf8Length s.toList = s.utf8ByteSize := by
  rw [← utf8ByteSize_ofList, String.ofList_toList]

end Bytes

section Reading

variable {segment : List Piece} {rest : List Char}

theorem Piece.getLast_chars (p : Piece) :
    (∃ c ∈ p.chars.getLast?, isLiteralChar c = true) ↔ p.name? = none := by
  cases p with
  | param name hne hchars =>
    rw [chars, List.getLast?_concat]
    simp [name?, isLiteralChar]
  | run chars text hne hchars htext =>
    refine iff_of_true ⟨chars.getLast hne, List.getLast?_eq_getLast_of_ne_nil hne, ?_⟩ rfl
    exact hchars _ (List.getLast_mem hne)

theorem Piece.cutsRun_iff (p : Piece) :
    CutsRun p.chars rest ↔ p.name? = none ∧ ¬NoLiteralNext rest := by
  rw [CutsRun, p.getLast_chars]
  simp [NoLiteralNext]

theorem segmentChars_ne_nil (hne : segment ≠ []) : segmentChars segment ≠ [] := by
  obtain ⟨p, pieces, rfl⟩ := List.exists_cons_of_ne_nil hne
  obtain ⟨c, tail, hp, -⟩ := p.head_chars
  rw [segmentChars_cons, hp]
  exact List.cons_ne_nil _ _

/-- The fragments of a segment are read before those of the text after it, unless that text makes
its last run longer. -/
theorem fragments_segmentChars_append (hs : Separated segment)
    (hcut : ¬CutsRun (segmentChars segment) rest) :
    fragments (segmentChars segment ++ rest) =
      (segment.map Piece.fragment ++ (fragments rest).1, (fragments rest).2) := by
  induction segment with
  | nil => rfl
  | cons p segment ih =>
    have hlast (hnil : segment = []) (hrun : p.name? = none) : NoLiteralNext rest := by
      by_contra hnext
      apply hcut
      rw [hnil, segmentChars_cons, segmentChars, List.flatMap_nil, List.append_nil]
      exact p.cutsRun_iff.mpr ⟨hrun, hnext⟩
    have hrest : ¬CutsRun (segmentChars segment) rest :=
      fun h => hcut (segmentChars_cons p segment ▸ h.append_left p.chars)
    have hnext (hrun : p.name? = none) : NoLiteralNext (segmentChars segment ++ rest) :=
      hs.noLiteralNext (fun hnil => hlast hnil hrun) hrun
    rw [segmentChars_cons, List.append_assoc, fragments_of_some (fragment?_piece p hnext),
      ih hs.tail hrest]
    rfl

/-- What is left of a text is not the rest of a run of which fragments were made. -/
theorem not_cutsRun_fragments {s front : List Char} (hs : s = front ++ (fragments s).2)
    (hne : front ≠ []) : ¬CutsRun front (fragments s).2 := by
  induction s using fragments.induct generalizing front with
  | case1 s h =>
    rw [fragments_of_none h] at hs
    exact absurd (List.self_eq_append_left.mp hs) hne
  | case2 s f rest h ih =>
    obtain ⟨p, -, rfl, hnext⟩ := exists_piece_of_fragment? h
    rw [fragments_of_some h] at hs ⊢
    obtain ⟨segment, -, -, hrest⟩ := exists_segment_of_fragments rest
    obtain rfl : front = p.chars ++ segmentChars segment := by
      apply List.append_cancel_right
      rw [List.append_assoc, ← hrest]
      exact hs.symm
    by_cases hnil : segmentChars segment = []
    · rw [hnil, List.nil_append] at hrest
      rw [hnil, List.append_nil, ← hrest, p.cutsRun_iff]
      exact fun hcut => hcut.2 (hnext hcut.1)
    · rw [cutsRun_append hnil]
      exact ih hrest hnil

theorem spell_ne_nil {segments : List (List Piece)} (h : Readable segments) :
    spell segments ≠ [] := by
  cases h <;> exact List.cons_ne_nil _ _

theorem fragments_suffix (s : List Char) : (fragments s).2 <:+ s := by
  obtain ⟨segment, -, -, hs⟩ := exists_segment_of_fragments s
  exact ⟨segmentChars segment, hs.symm⟩

theorem longest?_suffix {s after : List Char} {template : PathTemplate}
    (h : longest? s = some (template, after)) : after <:+ s := by
  obtain ⟨segments, -, -, hs⟩ := exists_readable_of_longest? h
  exact ⟨spell segments, hs.symm⟩

theorem longest?_slash_suffix (r : List Char) :
    ∃ template after, longest? ('/' :: r) = some (template, after) ∧ after <:+ (fragments r).2 := by
  rw [longest?_slash]
  by_cases hnil : (fragments r).1 = []
  · obtain ⟨segment, -, hf, hs⟩ := exists_segment_of_fragments r
    rw [hnil] at hf
    rw [List.map_eq_nil_iff.mp hf.symm, segmentChars, List.flatMap_nil, List.nil_append] at hs
    rw [if_pos hnil]
    exact ⟨[[]], r, rfl, hs ▸ List.suffix_refl r⟩
  · rw [if_neg hnil]
    cases hl : longest? (fragments r).2 with
    | none => exact ⟨_, _, rfl, List.suffix_refl _⟩
    | some found => exact ⟨_, _, rfl, longest?_suffix hl⟩

theorem longest?_eq_none_iff (s : List Char) : longest? s = none ↔ s.head? ≠ some '/' := by
  cases s with
  | nil => simp [longest?_nil]
  | cons c r =>
    by_cases hc : c = '/'
    · obtain ⟨template, after, hl, -⟩ := longest?_slash_suffix r
      rw [hc, hl]
      simp
    · rw [longest?.eq_def]
      split
      · next hs => exact absurd (List.cons.inj hs).1 hc
      · simpa using hc

/-- Segments at the front of a text are read, unless their last run is cut off there. -/
theorem Readable.longest?_append {segments : List (List Piece)} (h : Readable segments)
    (hcut : ¬CutsRun (spell segments) rest) :
    ∃ template after, longest? (spell segments ++ rest) = some (template, after) ∧
      after <:+ rest := by
  induction h with
  | @last segment hs =>
    obtain ⟨template, after, hl, hafter⟩ := longest?_slash_suffix (segmentChars segment ++ rest)
    refine ⟨template, after, ?_, ?_⟩
    · rw [spell_cons, spell_nil, List.append_nil]
      exact hl
    · have hsegment : ¬CutsRun (segmentChars segment) rest := by
        rw [spell_cons, spell_nil, List.append_nil] at hcut
        exact fun h => hcut (h.append_left ['/'])
      rw [fragments_segmentChars_append hs hsegment] at hafter
      exact hafter.trans (fragments_suffix rest)
  | @cons segment segments hs hne hr ih =>
    have hends : EndsSegment (spell segments ++ rest) := by
      intro c hc
      rw [List.head?_append_of_ne_nil _ (spell_ne_nil hr)] at hc
      exact endsSegment_spell segments c hc
    have hrest : ¬CutsRun (spell segments) rest := by
      rw [spell_cons segment] at hcut
      exact fun h => hcut (h.append_left ('/' :: segmentChars segment))
    obtain ⟨template, after, hl, hafter⟩ := ih hrest
    refine ⟨segment.map Piece.fragment :: template, after, ?_, hafter⟩
    rw [spell_cons segment, List.cons_append, List.append_assoc, longest?_slash,
      fragments_segmentChars hs hends, hl]
    simp [hne]

/-- The place where reading stops is not inside a run. -/
theorem not_cutsRun_longest? {s front after : List Char} {template : PathTemplate}
    (h : longest? s = some (template, after)) (hs : s = front ++ after) :
    ¬CutsRun front after := by
  induction hn : s.length using Nat.strongRecOn generalizing s front template with
  | _ n ih =>
    obtain ⟨r, rfl, hcases⟩ := longest?_cases h
    obtain ⟨segment, -, hf, hr⟩ := exists_segment_of_fragments r
    rcases hcases with ⟨-, -, rfl⟩ | ⟨f, fs, rest, hfrag, hcases⟩
    · obtain rfl : front = ['/'] := List.append_cancel_right hs.symm
      rintro ⟨⟨c, hc, hlit⟩, -⟩
      cases hc
      exact Bool.false_ne_true (isLiteralChar_slash.symm.trans hlit)
    · have hne : segmentChars segment ≠ [] := by
        apply segmentChars_ne_nil
        rintro rfl
        rw [hfrag] at hf
        cases hf
      have hstop := not_cutsRun_fragments hr hne
      simp only [hfrag] at hr hstop
      rcases hcases with ⟨-, -, rfl⟩ | ⟨tail, htail, -⟩
      · obtain rfl : front = ['/'] ++ segmentChars segment := by
          apply List.append_cancel_right
          rw [← hs, hr, List.append_assoc]
          rfl
        rwa [cutsRun_append hne]
      · obtain ⟨segments, hread, -, hrest⟩ := exists_readable_of_longest? htail
        have hlt : rest.length < n := by
          have hle := congrArg List.length hr
          rw [List.length_append] at hle
          rw [List.length_cons] at hn
          omega
        obtain rfl : front = ('/' :: segmentChars segment) ++ spell segments := by
          apply List.append_cancel_right
          rw [← hs, hr, hrest, List.append_assoc]
          rfl
        rw [cutsRun_append (spell_ne_nil hread)]
        exact ih _ hlt htail hrest rfl

end Reading

theorem parse_eq_error {text : String} {e : BadPath} (h : parse text = .error e) :
    longest? text.toList = none ∧ e = badPath text text.toList ∨
      ∃ template after, longest? text.toList = some (template, after) ∧ after ≠ [] ∧
        e = badPath text after := by
  unfold parse at h
  split at h
  · cases h
  · next template after hne hl =>
    cases h
    refine .inr ⟨template, after, hl, ?_, rfl⟩
    rintro rfl
    exact hne rfl
  · next hl =>
    cases h
    exact .inl ⟨hl, rfl⟩

theorem badPath_offset {text : String} {front after : List Char}
    (h : text.toList = front ++ after) : (badPath text after).offset = utf8Length front := by
  have hlen : utf8Length text.toList = utf8Length front + utf8Length after := by
    rw [h, utf8Length_append]
  change utf8Length text.toList - utf8Length after = utf8Length front
  omega

/-- No template at the front of a text goes beyond the place where reading stops, unless it cuts a
run in two. -/
theorem utf8Length_le_of_parse {text : String} {template : PathTemplate} {front after : List Char}
    (hl : longest? text.toList = some (template, after)) (htext : text.toList = front ++ after)
    {front' back' : String} (htext' : text = front' ++ back')
    (hcut : ¬CutsRun front'.toList back'.toList) {template' : PathTemplate}
    (hp : parse front' = .ok template') : front'.utf8ByteSize ≤ utf8Length front := by
  obtain ⟨segments, hread, hs, -⟩ := parse_eq_ok_iff.mp hp
  have hjoin : text.toList = spell segments ++ back'.toList := by
    rw [hs, htext', String.toList_append]
  rw [← hs] at hcut
  obtain ⟨template'', after', hl', before, hafter⟩ := hread.longest?_append hcut
  rw [← hjoin, hl, Option.some.injEq, Prod.mk.injEq] at hl'
  have hlen := congrArg utf8Length (htext.symm.trans hjoin)
  rw [← hafter, ← hl'.2, ← List.append_assoc, utf8Length_append, utf8Length_append,
    utf8Length_append, hs, utf8Length_toList] at hlen
  omega

/-- The place that the failure of a text names: it lies between two characters, at the start if the
text has no slash there, and else behind the longest template at its front that does not cut a run
of literal characters in two. The length is that of the character at the place. -/
theorem parse_error_at_longest {text : String} {e : BadPath} (h : parse text = .error e) :
    e.text = text ∧ String.Pos.Raw.IsValid text ⟨e.offset⟩ ∧
      (e.offset = 0 ↔ text.toList.head? ≠ some '/') ∧
      ∃ front back : String, text = front ++ back ∧ front.utf8ByteSize = e.offset ∧
        e.length = (back.toList.head?.map Char.utf8Size).getD 0 ∧
        (text.toList.head? = some '/' →
          (∃ template, parse front = .ok template) ∧ ¬CutsRun front.toList back.toList ∧
          ∀ front' back' : String, text = front' ++ back' → e.offset < front'.utf8ByteSize →
            ¬CutsRun front'.toList back'.toList → ¬∃ template, parse front' = .ok template) := by
  rcases parse_eq_error h with ⟨hl, rfl⟩ | ⟨template, after, hl, hne, rfl⟩
  · have hhead := (longest?_eq_none_iff _).mp hl
    have hoffset : (badPath text text.toList).offset = 0 := Nat.sub_self _
    rw [hoffset]
    refine ⟨rfl, String.Pos.Raw.isValid_zero, iff_of_true rfl hhead, "", text, ?_, rfl, rfl, ?_⟩
    · exact (String.empty_append).symm
    · exact fun hslash => absurd hslash hhead
  · obtain ⟨segments, hread, -, hs⟩ := exists_readable_of_longest? hl
    have hoffset := badPath_offset hs
    have htext : text = String.ofList (spell segments) ++ String.ofList after := by
      rw [← String.ofList_append, ← hs, String.ofList_toList]
    have hhead : text.toList.head? = some '/' := by
      by_contra hhead
      rw [(longest?_eq_none_iff _).mpr hhead] at hl
      cases hl
    have hpos := utf8Length_pos (spell_ne_nil hread)
    rw [hoffset, ← utf8ByteSize_ofList]
    refine ⟨rfl, ?_, ?_, _, _, htext, rfl, ?_, ?_⟩
    · exact String.Pos.Raw.isValid_iff_exists_append.mpr ⟨_, _, htext, rfl⟩
    · rw [utf8ByteSize_ofList]
      exact iff_of_false (by omega) (not_not_intro hhead)
    · rw [String.toList_ofList]
      rfl
    · intro _
      rw [String.toList_ofList, String.toList_ofList]
      refine ⟨⟨templateOf segments, parse_eq_ok_iff.mpr ⟨segments, hread, ?_, rfl⟩⟩,
        not_cutsRun_longest? hl hs, ?_⟩
      · rw [String.toList_ofList]
      · rintro front' back' htext' hlt hcut ⟨template', hp⟩
        have hle := utf8Length_le_of_parse hl hs htext' hcut hp
        rw [utf8ByteSize_ofList] at hlt
        omega

/-- The run after the parameter stands for no text, so that reading stops before it. The prefix with
the first character of the run is a template too, but it cuts the run. -/
theorem broken_run_at_longest :
    parse "/a/\x7bé\x7db%FF" = .error ⟨"/a/\x7bé\x7db%FF", 7, 1⟩ ∧
      parse "/a/\x7bé\x7db" = .ok [[.literal "a"], [.param "é", .literal "b"]] ∧
      CutsRun "/a/\x7bé\x7db".toList "%FF".toList ∧
      ∃ front back : String, "/a/\x7bé\x7db%FF" = front ++ back ∧ front.utf8ByteSize = 7 ∧
        ∃ template, parse front = .ok template := by
  have hl : longest? "/a/\x7bé\x7db%FF".toList =
      some ([[.literal "a"], [.param "é"]], "b%FF".toList) := by
    decide +kernel
  have hlonger : longest? "/a/\x7bé\x7db".toList =
      some ([[.literal "a"], [.param "é", .literal "b"]], []) := by
    decide +kernel
  have h : parse "/a/\x7bé\x7db%FF" = .error ⟨"/a/\x7bé\x7db%FF", 7, 1⟩ := by
    rw [parse, hl]
    rfl
  refine ⟨h, by rw [parse, hlonger], ⟨⟨'b', rfl, by decide⟩, '%', rfl, by decide⟩, ?_⟩
  obtain ⟨-, -, -, front, back, htext, hsize, -, hslash⟩ := parse_error_at_longest h
  exact ⟨front, back, htext, hsize, (hslash rfl).1⟩

end ApiBindings.Contract.PathTemplate
