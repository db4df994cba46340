import ApiBindings.Contract.PathTemplate
import ApiBindings.Proofs.Spans
import Mathlib.Data.List.Chain

namespace ApiBindings.Contract.PathTemplate
open Text

/-- A piece of a segment as it is written: a parameter in braces, or characters that stand for
literal text. -/
inductive Piece where
  | param (name : List Char) (hne : name ≠ []) (hchars : ∀ c ∈ name, c ≠ '\x7b' ∧ c ≠ '\x7d')
  | run (chars : List Char) (text : String) (hne : chars ≠ [])
    (hchars : ∀ c ∈ chars, isLiteralChar c = true) (htext : Percent.decode? chars = some text)

namespace Piece

def chars : Piece → List Char
  | .param name _ _ => '\x7b' :: name ++ ['\x7d']
  | .run chars _ _ _ _ => chars

def fragment : Piece → Fragment
  | .param name _ _ => .param (String.ofList name)
  | .run _ text _ _ _ => .literal text

def name? : Piece → Option String
  | .param name _ _ => some (String.ofList name)
  | .run .. => none

theorem param?_fragment (p : Piece) : p.fragment.param? = p.name? := by
  cases p <;> rfl

end Piece

/-- No run is followed by another: each is as long as it can be. -/
def Separated (segment : List Piece) : Prop :=
  segment.IsChain fun p q => p.name? = none → q.name? ≠ none

def segmentChars (segment : List Piece) : List Char := segment.flatMap Piece.chars

/-- The text of segments, each after a slash. -/
def spell (segments : List (List Piece)) : List Char :=
  segments.flatMap fun segment => '/' :: segmentChars segment

/-- The segments of a template. Only the last may be empty. -/
inductive Readable : List (List Piece) → Prop
  | last {segment : List Piece} (hs : Separated segment) : Readable [segment]
  | cons {segment : List Piece} {rest : List (List Piece)} (hs : Separated segment)
      (hne : segment ≠ []) (hr : Readable rest) : Readable (segment :: rest)

/-- A slash alone, or segments that are not empty, each after a slash, with or without one more
slash at the end. -/
def InGrammar (text : List Char) : Prop :=
  text = ['/'] ∨ ∃ segments : List (List Piece), segments ≠ [] ∧
    (∀ segment ∈ segments, segment ≠ [] ∧ Separated segment) ∧
    (text = spell segments ∨ text = spell segments ++ ['/'])

theorem isLiteralChar_slash : isLiteralChar '/' = false := by decide

theorem isLiteralChar_brace : isLiteralChar '\x7b' = false := by decide

theorem isNameChar_iff {c : Char} : isNameChar c = true ↔ c ≠ '\x7b' ∧ c ≠ '\x7d' := by
  simp [isNameChar]

/-- What a text may go on with after a run. -/
def NoLiteralNext (rest : List Char) : Prop := ∀ c ∈ rest.head?, isLiteralChar c = false

def EndsSegment (rest : List Char) : Prop := ∀ c ∈ rest.head?, c = '/'

theorem EndsSegment.noLiteralNext {rest : List Char} (h : EndsSegment rest) :
    NoLiteralNext rest := by
  intro c hc
  rw [h c hc]
  exact isLiteralChar_slash

theorem endsSegment_spell (segments : List (List Piece)) : EndsSegment (spell segments) := by
  cases segments with
  | nil => intro c hc; cases hc
  | cons segment rest => intro c hc; cases hc; rfl

theorem Piece.head_chars (p : Piece) :
    ∃ c rest, p.chars = c :: rest ∧ c ≠ '/' ∧ (isLiteralChar c = true ↔ p.name? = none) := by
  cases p with
  | param name hne hchars =>
    exact ⟨'\x7b', name ++ ['\x7d'], rfl, by decide, by simp [isLiteralChar_brace, name?]⟩
  | run chars text hne hchars htext =>
    obtain ⟨c, rest, rfl⟩ := List.exists_cons_of_ne_nil hne
    have hc := hchars c (.head _)
    refine ⟨c, rest, rfl, ?_, iff_of_true hc rfl⟩
    rintro rfl
    rw [isLiteralChar_slash] at hc
    cases hc

theorem Piece.slash_not_getLast (p : Piece) : '/' ∉ p.chars.getLast? := by
  cases p with
  | param name hne hchars =>
    rw [chars, List.getLast?_concat]
    decide
  | run chars text hne hchars htext =>
    intro h
    have hc := hchars '/' (List.mem_of_getLast? h)
    rw [isLiteralChar_slash] at hc
    cases hc

theorem Piece.eq_of_chars_eq {p q : Piece} (h : p.chars = q.chars) : p = q := by
  cases p with
  | param name hne hchars =>
    cases q with
    | param name' hne' hchars' =>
      simp only [chars, List.cons_append, List.cons.injEq, List.append_cancel_right_eq, true_and]
        at h
      subst h
      rfl
    | run chars' text hne' hchars' htext =>
      change '\x7b' :: name ++ ['\x7d'] = chars' at h
      have hc := hchars' '\x7b' (h ▸ .head _)
      rw [isLiteralChar_brace] at hc
      cases hc
  | run chars' text hne hchars htext =>
    cases q with
    | param name hne' hchars' =>
      change chars' = '\x7b' :: name ++ ['\x7d'] at h
      have hc := hchars '\x7b' (h ▸ .head _)
      rw [isLiteralChar_brace] at hc
      cases hc
    | run chars'' text' hne' hchars' htext' =>
      change chars' = chars'' at h
      subst h
      rw [htext] at htext'
      cases htext'
      rfl

/-- A piece is read from the front of a text, whatever follows it; after a run no further literal
character may follow. -/
theorem fragment?_piece (p : Piece) {rest : List Char} (h : p.name? = none → NoLiteralNext rest) :
    fragment? (p.chars ++ rest) = some (p.fragment, rest) := by
  cases p with
  | param name hne hchars =>
    have hname : ∀ c ∈ name, isNameChar c = true := fun c hc => isNameChar_iff.mpr (hchars c hc)
    have hclose : ∀ c ∈ ('\x7d' :: rest).head?, isNameChar c = false := by
      intro c hc
      cases hc
      decide
    obtain ⟨htake, hdrop⟩ := takeWhile_dropWhile_append hname hclose
    obtain ⟨c, name, rfl⟩ := List.exists_cons_of_ne_nil hne
    simp only [Piece.chars, List.cons_append, List.append_assoc, List.nil_append, fragment?] at *
    rw [htake, hdrop]
    rfl
  | run chars text hne hchars htext =>
    obtain ⟨htake, hdrop⟩ := takeWhile_dropWhile_append hchars (h rfl)
    obtain ⟨c, chars, rfl⟩ := List.exists_cons_of_ne_nil hne
    have hc : c ≠ '\x7b' := by
      rintro rfl
      have hc := hchars '\x7b' (.head _)
      rw [isLiteralChar_brace] at hc
      cases hc
    unfold fragment?
    split
    · next r hs =>
      cases hs
      exact absurd rfl hc
    · simp only [Piece.chars, htake, hdrop, htext, Option.map_some, Piece.fragment]

theorem exists_piece_of_fragment? {s rest : List Char} {f : Fragment}
    (h : fragment? s = some (f, rest)) :
    ∃ p : Piece, p.fragment = f ∧ s = p.chars ++ rest ∧ (p.name? = none → NoLiteralNext rest) := by
  unfold fragment? at h
  split at h
  · next r =>
    split at h
    · next c name rest' htake hdrop =>
      cases h
      have hr : r = (c :: name) ++ '\x7d' :: rest := by
        rw [← htake, ← hdrop, List.takeWhile_append_dropWhile]
      have hname : ∀ a ∈ c :: name, a ≠ '\x7b' ∧ a ≠ '\x7d' := by
        intro a ha
        rw [← htake] at ha
        exact isNameChar_iff.mp (List.mem_takeWhile_imp ha)
      refine ⟨.param (c :: name) (List.cons_ne_nil _ _) hname, rfl, by simp [hr, Piece.chars], ?_⟩
      intro hrun
      cases hrun
    · cases h
  · split at h
    · cases h
    · next hne =>
      obtain ⟨text, htext, he⟩ := Option.map_eq_some_iff.mp h
      cases he
      have hrun : ∀ c ∈ s.takeWhile isLiteralChar, isLiteralChar c = true :=
        fun c => List.mem_takeWhile_imp
      refine ⟨.run (s.takeWhile isLiteralChar) text hne hrun htext, rfl,
        List.takeWhile_append_dropWhile.symm, ?_⟩
      exact fun _ c hc => eq_false_of_mem_head?_dropWhile hc

theorem fragments_of_none {s : List Char} (h : fragment? s = none) : fragments s = ([], s) := by
  rw [fragments]
  split
  · rfl
  · next hs =>
    rw [h] at hs
    cases hs

theorem fragments_of_some {s rest : List Char} {f : Fragment} (h : fragment? s = some (f, rest)) :
    fragments s = (f :: (fragments rest).1, (fragments rest).2) := by
  rw [fragments]
  split
  · next hn =>
    rw [h] at hn
    cases hn
  · next hs =>
    rw [h] at hs
    cases hs
    rfl

/-- A template starts with a slash. It ends there, after the fragments that follow the slash, or
goes on with the template after them. -/
theorem longest?_cases {s after : List Char} {template : PathTemplate}
    (h : longest? s = some (template, after)) :
    ∃ r, s = '/' :: r ∧
      ((fragments r).1 = [] ∧ template = [[]] ∧ after = r ∨
        ∃ f fs rest, fragments r = (f :: fs, rest) ∧
          (longest? rest = none ∧ template = [f :: fs] ∧ after = rest ∨
            ∃ tail, longest? rest = some (tail, after) ∧ template = (f :: fs) :: tail)) := by
  rw [longest?.eq_def] at h
  split at h
  · next r =>
    refine ⟨r, rfl, ?_⟩
    split at h
    · next hr =>
      cases h
      exact .inl ⟨by rw [hr], rfl, rfl⟩
    · next f fs rest hr =>
      refine .inr ⟨f, fs, rest, hr, ?_⟩
      split at h
      · next tail after' ht =>
        cases h
        exact .inr ⟨tail, ht, rfl⟩
      · next hn =>
        cases h
        exact .inl ⟨hn, rfl, rfl⟩
  · cases h

theorem longest?_nil : longest? [] = none := by
  rw [longest?.eq_def]

theorem longest?_slash (r : List Char) :
    longest? ('/' :: r) =
      if (fragments r).1 = [] then some ([[]], r)
      else ((longest? (fragments r).2).map fun t => ((fragments r).1 :: t.1, t.2)).or
        (some ([(fragments r).1], (fragments r).2)) := by
  rw [longest?.eq_def]
  split
  · next r hs =>
    cases hs
    split
    · next hf => simp [hf]
    · next f fs rest hf =>
      simp only [hf]
      split
      · next hl => simp [hl]
      · next hl => simp [hl]
  · next hs => exact absurd rfl (hs r)

section Segment

variable {segment segment' : List Piece} {rest rest' : List Char}

theorem segmentChars_cons (p : Piece) (segment : List Piece) :
    segmentChars (p :: segment) = p.chars ++ segmentChars segment := List.flatMap_cons

theorem fragment?_of_endsSegment (h : EndsSegment rest) : fragment? rest = none := by
  cases hf : fragment? rest with
  | none => rfl
  | some found =>
    obtain ⟨p, -, rfl, -⟩ := exists_piece_of_fragment? hf
    obtain ⟨c, tail, hp, hc, -⟩ := p.head_chars
    rw [hp] at h
    exact absurd (h c rfl) hc

theorem Separated.noLiteralNext {p : Piece} (hs : Separated (p :: segment))
    (hr : segment = [] → NoLiteralNext rest) (hp : p.name? = none) :
    NoLiteralNext (segmentChars segment ++ rest) := by
  cases segment with
  | nil => exact hr rfl
  | cons q segment =>
    obtain ⟨c, tail, hq, -, hc⟩ := q.head_chars
    have hrun : q.name? ≠ none := (List.isChain_cons_cons.mp hs).1 hp
    rw [segmentChars_cons, hq]
    intro d hd
    cases hd
    rw [← Bool.not_eq_true, hc]
    exact hrun

theorem fragments_segmentChars (hs : Separated segment) (hr : EndsSegment rest) :
    fragments (segmentChars segment ++ rest) = (segment.map Piece.fragment, rest) := by
  induction segment with
  | nil => exact fragments_of_none (fragment?_of_endsSegment hr)
  | cons p segment ih =>
    rw [segmentChars_cons, List.append_assoc,
      fragments_of_some (fragment?_piece p (hs.noLiteralNext fun _ => hr.noLiteralNext)),
      ih hs.tail]
    rfl

theorem exists_segment_of_fragments (s : List Char) :
    ∃ segment, Separated segment ∧ (fragments s).1 = segment.map Piece.fragment ∧
      s = segmentChars segment ++ (fragments s).2 := by
  induction s using fragments.induct with
  | case1 s h =>
    rw [fragments_of_none h]
    exact ⟨[], .nil, rfl, rfl⟩
  | case2 s f rest h ih =>
    obtain ⟨p, rfl, rfl, hnext⟩ := exists_piece_of_fragment? h
    obtain ⟨segment, hs, hf, hrest⟩ := ih
    rw [fragments_of_some h]
    refine ⟨p :: segment, ?_, congrArg (p.fragment :: ·) hf, ?_⟩
    · -- A run after the run `p` would start with a literal character.
      cases segment with
      | nil => exact .singleton p
      | cons q segment =>
        refine .cons_cons (fun hp hq => ?_) hs
        obtain ⟨c, tail, hchars, -, hc⟩ := q.head_chars
        have hlit : isLiteralChar c = false := by
          apply hnext hp
          rw [hrest, segmentChars_cons, hchars]
          rfl
        rw [hc.mpr hq] at hlit
        cases hlit
    · rw [segmentChars_cons, List.append_assoc, ← hrest]

theorem segmentChars_append_inj (hs : Separated segment) (hs' : Separated segment')
    (hr : EndsSegment rest) (hr' : EndsSegment rest')
    (h : segmentChars segment ++ rest = segmentChars segment' ++ rest') :
    segment = segment' ∧ rest = rest' := by
  induction segment generalizing segment' with
  | nil =>
    have hread := fragments_segmentChars hs' hr'
    rw [← h, fragments_segmentChars hs hr, Prod.mk.injEq] at hread
    exact ⟨(List.map_eq_nil_iff.mp hread.1.symm).symm, hread.2⟩
  | cons p segment ih =>
    -- The first pieces end at the same place, so that they are written alike.
    have hread := fragments_segmentChars hs' hr'
    rw [← h, fragments_segmentChars hs hr, Prod.mk.injEq] at hread
    cases segment' with
    | nil => cases hread.1
    | cons q segment' =>
      rw [segmentChars_cons, segmentChars_cons, List.append_assoc, List.append_assoc] at h
      have hfirst := fragment?_piece p (hs.noLiteralNext fun _ => hr.noLiteralNext)
      rw [h, fragment?_piece q (hs'.noLiteralNext fun _ => hr'.noLiteralNext), Option.some.injEq,
        Prod.mk.injEq] at hfirst
      obtain ⟨rfl, hrest⟩ := ih hs.tail hs'.tail hfirst.2.symm
      rw [← hfirst.2, List.append_left_inj] at h
      exact ⟨congrArg (· :: _) (Piece.eq_of_chars_eq h), hrest⟩

theorem slash_not_getLast_segmentChars (hne : segment ≠ []) :
    '/' ∉ (segmentChars segment).getLast? := by
  obtain ⟨front, p, rfl⟩ := (List.eq_nil_or_concat segment).resolve_left hne
  obtain ⟨c, tail, hp, -, -⟩ := p.head_chars
  have hlast := p.slash_not_getLast
  rw [segmentChars, List.concat_eq_append, List.flatMap_append, List.flatMap_singleton,
    List.getLast?_append_of_ne_nil _ (by simp [hp])]
  exact hlast

end Segment

theorem spell_nil : spell [] = [] := rfl

theorem spell_cons (segment : List Piece) (rest : List (List Piece)) :
    spell (segment :: rest) = '/' :: (segmentChars segment ++ spell rest) := List.flatMap_cons

theorem spell_append (front back : List (List Piece)) :
    spell (front ++ back) = spell front ++ spell back := List.flatMap_append

def templateOf (segments : List (List Piece)) : PathTemplate :=
  segments.map (List.map Piece.fragment)

def namesOf (segments : List (List Piece)) : List String := segments.flatten.filterMap Piece.name?

theorem params_templateOf (segments : List (List Piece)) :
    params (templateOf segments) = namesOf segments := by
  have hsegment : ∀ pieces : List Piece,
      Segment.params (pieces.map Piece.fragment) = pieces.filterMap Piece.name? := by
    intro pieces
    rw [Segment.params, List.filterMap_map]
    congr 1
    funext p
    exact p.param?_fragment
  rw [params, templateOf, namesOf, List.flatMap_map, List.filterMap_flatten, List.flatMap]
  simp only [hsegment]

namespace Readable

variable {segments segments' : List (List Piece)}

theorem ne_nil (h : Readable segments) : segments ≠ [] := by
  cases h <;> exact List.cons_ne_nil _ _

theorem separated (h : Readable segments) : ∀ segment ∈ segments, Separated segment := by
  induction h with
  | last hs => simpa using hs
  | cons hs _ _ ih => exact List.forall_mem_cons.mpr ⟨hs, ih⟩

theorem dropLast_ne_nil (h : Readable segments) : ∀ segment ∈ segments.dropLast, segment ≠ [] := by
  induction h with
  | last => simp
  | cons hs hne hr ih =>
    rw [List.dropLast_cons_of_ne_nil hr.ne_nil]
    exact List.forall_mem_cons.mpr ⟨hne, ih⟩

theorem getLast?_eq_nil_iff (h : Readable segments) :
    segments.getLast? = some [] ↔ (spell segments).getLast? = some '/' := by
  induction h with
  | @last segment hs =>
    cases segment with
    | nil => exact iff_of_true rfl rfl
    | cons p rest =>
      have hlast := slash_not_getLast_segmentChars (List.cons_ne_nil p rest)
      obtain ⟨c, tail, hp, -, -⟩ := p.head_chars
      refine iff_of_false (by simp) ?_
      rw [spell_cons, spell_nil, List.append_nil]
      rw [segmentChars_cons, hp] at hlast ⊢
      simpa using hlast
  | @cons segment rest hs hne hr ih =>
    obtain ⟨next, rest, rfl⟩ := List.exists_cons_of_ne_nil hr.ne_nil
    have hne : spell (next :: rest) ≠ [] := List.cons_ne_nil _ _
    rw [List.getLast?_cons_cons, ih, spell_cons segment, ← List.cons_append,
      List.getLast?_append_of_ne_nil _ hne]

theorem longest?_spell (h : Readable segments) :
    longest? (spell segments) = some (templateOf segments, []) := by
  induction h with
  | @last segment hs =>
    rw [spell_cons, longest?_slash, fragments_segmentChars hs (endsSegment_spell [])]
    cases segment with
    | nil => rfl
    | cons p segment => simp [spell_nil, longest?_nil, templateOf]
  | @cons segment rest hs hne hr ih =>
    rw [spell_cons, longest?_slash, fragments_segmentChars hs (endsSegment_spell rest), ih]
    simp [hne, templateOf]

theorem eq_of_spell_eq (h : Readable segments) (h' : Readable segments')
    (heq : spell segments = spell segments') : segments = segments' := by
  have hs := h.separated
  have hs' := h'.separated
  clear h h'
  induction segments generalizing segments' with
  | nil =>
    cases segments' with
    | nil => rfl
    | cons segment' rest' => cases heq
  | cons segment rest ih =>
    cases segments' with
    | nil => cases heq
    | cons segment' rest' =>
      rw [List.forall_mem_cons] at hs hs'
      rw [spell_cons, spell_cons, List.cons.injEq] at heq
      obtain ⟨rfl, hrest⟩ := segmentChars_append_inj hs.1 hs'.1 (endsSegment_spell rest)
        (endsSegment_spell rest') heq.2
      rw [ih hrest hs.2 hs'.2]

end Readable

/-- What is read as the longest template was written as segments. -/
theorem exists_readable_of_longest? {s after : List Char} {template : PathTemplate}
    (h : longest? s = some (template, after)) :
    ∃ segments, Readable segments ∧ template = templateOf segments ∧
      s = spell segments ++ after := by
  induction hn : s.length using Nat.strongRecOn generalizing s template with
  | _ n ih =>
    obtain ⟨r, rfl, hcases⟩ := longest?_cases h
    rcases hcases with ⟨-, rfl, rfl⟩ | ⟨f, fs, rest, hr, hcases⟩
    · exact ⟨[[]], .last .nil, rfl, rfl⟩
    · obtain ⟨segment, hs, hf, hchars⟩ := exists_segment_of_fragments r
      rw [hr] at hf hchars
      have hne : segment ≠ [] := by
        rintro rfl
        cases hf
      rcases hcases with ⟨-, rfl, rfl⟩ | ⟨tail, ht, rfl⟩
      · refine ⟨[segment], .last hs, congrArg (fun fs => [fs]) hf, ?_⟩
        rw [hchars, spell_cons, spell_nil, List.append_nil, List.cons_append]
      · have hlt : rest.length < n := by
          have hle : rest.length ≤ r.length := by simpa only [hr] using length_fragments_le r
          rw [List.length_cons] at hn
          omega
        obtain ⟨segments, hread, rfl, hrest⟩ := ih _ hlt ht rfl
        refine ⟨segment :: segments, .cons hs hne hread, congrArg (· :: templateOf segments) hf, ?_⟩
        rw [hchars, hrest, spell_cons, List.cons_append, List.append_assoc]

theorem parse_eq_ok_iff {text : String} {template : PathTemplate} :
    parse text = .ok template ↔
      ∃ segments, Readable segments ∧ spell segments = text.toList ∧
        template = templateOf segments := by
  constructor
  · intro h
    unfold parse at h
    split at h
    · next hl =>
      cases h
      obtain ⟨segments, hread, rfl, hs⟩ := exists_readable_of_longest? hl
      exact ⟨segments, hread, by rw [hs, List.append_nil], rfl⟩
    · cases h
    · cases h
  · rintro ⟨segments, hread, hs, rfl⟩
    rw [parse, ← hs, hread.longest?_spell]

theorem Readable.append {front back : List (List Piece)}
    (hfront : ∀ segment ∈ front, segment ≠ [] ∧ Separated segment) (hback : Readable back) :
    Readable (front ++ back) := by
  induction front with
  | nil => exact hback
  | cons segment rest ih =>
    rw [List.forall_mem_cons] at hfront
    exact .cons hfront.1.2 hfront.1.1 (ih hfront.2)

/-- The texts in the grammar are those of segments of which only the last may be empty. -/
theorem inGrammar_iff {text : List Char} :
    InGrammar text ↔ ∃ segments, Readable segments ∧ spell segments = text := by
  constructor
  · rintro (rfl | ⟨segments, hne, hall, rfl | rfl⟩)
    · exact ⟨[[]], .last .nil, rfl⟩
    · obtain ⟨front, last, rfl⟩ := (List.eq_nil_or_concat segments).resolve_left hne
      rw [List.concat_eq_append, List.forall_mem_append, List.forall_mem_singleton] at hall
      rw [List.concat_eq_append]
      exact ⟨front ++ [last], .append hall.1 (.last hall.2.2), rfl⟩
    · exact ⟨segments ++ [[]], .append hall (.last .nil), spell_append segments [[]]⟩
  · rintro ⟨segments, hread, rfl⟩
    induction hread with
    | @last segment hs =>
      by_cases hne : segment = []
      · exact .inl (by rw [hne]; rfl)
      · exact .inr ⟨[segment], List.cons_ne_nil _ _, by simp [hne, hs], .inl rfl⟩
    | @cons segment rest hs hne hr ih =>
      right
      rcases ih with h | ⟨segments, -, hall, h⟩
      · refine ⟨[segment], List.cons_ne_nil _ _, by simp [hne, hs], .inr ?_⟩
        rw [spell_cons, spell_cons, h, spell_nil, List.append_nil, List.cons_append]
      · refine ⟨segment :: segments, List.cons_ne_nil _ _,
          List.forall_mem_cons.mpr ⟨⟨hne, hs⟩, hall⟩, ?_⟩
        rw [spell_cons, spell_cons]
        rcases h with h | h
        · exact .inl (by rw [h])
        · exact .inr (by rw [h, List.cons_append, List.append_assoc])

/-- The grammar of path templates: a text is read exactly if it is in the grammar, the segments of
which it is made are unique, and the template holds them. Literals are decoded runs that do not
follow each other, and only the last segment may be empty. -/
theorem parse_reads_grammar (text : String) :
    ((∃ template, parse text = .ok template) ↔ InGrammar text.toList) ∧
      ∀ template, parse text = .ok template →
        (∃ segments, (Readable segments ∧ spell segments = text.toList ∧
            ∀ other, Readable other → spell other = text.toList → other = segments) ∧
          template = templateOf segments ∧ params template = namesOf segments) ∧
        (∀ segment ∈ template, segment.IsChain fun f g => f.param? = none → g.param? ≠ none) ∧
        (∀ segment ∈ template.dropLast, segment ≠ []) ∧
        (template.getLast? = some [] ↔ text.toList.getLast? = some '/') := by
  constructor
  · rw [inGrammar_iff]
    constructor
    · rintro ⟨template, h⟩
      obtain ⟨segments, hread, hs, -⟩ := parse_eq_ok_iff.mp h
      exact ⟨segments, hread, hs⟩
    · rintro ⟨segments, hread, hs⟩
      exact ⟨_, parse_eq_ok_iff.mpr ⟨segments, hread, hs, rfl⟩⟩
  · intro template h
    obtain ⟨segments, hread, hs, rfl⟩ := parse_eq_ok_iff.mp h
    refine ⟨⟨segments, ⟨hread, hs, ?_⟩, rfl, params_templateOf segments⟩, ?_, ?_, ?_⟩
    · intro other hother ho
      exact hother.eq_of_spell_eq hread (ho.trans hs.symm)
    · intro segment hm
      obtain ⟨pieces, hp, rfl⟩ := List.mem_map.mp hm
      simp only [List.isChain_map, Piece.param?_fragment]
      exact hread.separated pieces hp
    · intro segment hm
      rw [templateOf, ← List.map_dropLast] at hm
      obtain ⟨pieces, hp, rfl⟩ := List.mem_map.mp hm
      exact fun he => hread.dropLast_ne_nil pieces hp (List.map_eq_nil_iff.mp he)
    · rw [← hs, ← hread.getLast?_eq_nil_iff, templateOf, List.getLast?_map]
      simp

/-- A slash inside braces belongs to the name, and one at the end makes an empty segment. -/
theorem file_template_read :
    parse "/files/\x7bdir/name\x7d%2Ejson/" =
        .ok [[.literal "files"], [.param "dir/name", .literal ".json"], []] ∧
      InGrammar "/files/\x7bdir/name\x7d%2Ejson/".toList ∧
      ∃ segments, Readable segments ∧ spell segments = "/files/\x7bdir/name\x7d%2Ejson/".toList ∧
        namesOf segments = ["dir/name"] := by
  have hl : longest? "/files/\x7bdir/name\x7d%2Ejson/".toList =
      some ([[.literal "files"], [.param "dir/name", .literal ".json"], []], []) := by
    decide +kernel
  have h : parse "/files/\x7bdir/name\x7d%2Ejson/" =
      .ok [[.literal "files"], [.param "dir/name", .literal ".json"], []] := by
    rw [parse, hl]
  obtain ⟨hgrammar, hread⟩ := parse_reads_grammar "/files/\x7bdir/name\x7d%2Ejson/"
  obtain ⟨⟨segments, ⟨hr, hs, -⟩, -, hnames⟩, -⟩ := hread _ h
  exact ⟨h, hgrammar.mp ⟨_, h⟩, segments, hr, hs, hnames.symm⟩

end ApiBindings.Contract.PathTemplate
