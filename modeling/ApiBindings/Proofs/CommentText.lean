import ApiBindings.Proofs.CommentPlaces

namespace ApiBindings.TypeScript

def endMark : List Char := ['*', '/']

/-- An end mark with a backslash in it. -/
def brokenMark : List Char := ['*', '\\', '/']

/-- What stands before the first end mark, and what follows it. -/
def untilEndMark? : List Char → Option (List Char × List Char)
  | [] => none
  | '*' :: '/' :: rest => some ([], rest)
  | c :: rest => (untilEndMark? rest).map fun (body, after) => (c :: body, after)

/-- Reads the comment at the start of a text: what stands between its marks, and what follows it. -/
def readComment? : List Char → Option (List Char × List Char)
  | '/' :: '*' :: rest => untilEndMark? rest
  | _ => none

/-- Takes the backslash out of every broken end mark. -/
def unguardedChars : List Char → List Char
  | [] => []
  | '*' :: '\\' :: '/' :: rest => '*' :: '/' :: unguardedChars rest
  | c :: rest => c :: unguardedChars rest

theorem endMark_prefix_cons_iff {c : Char} {cs : List Char} :
    endMark <+: c :: cs ↔ c = '*' ∧ cs.head? = some '/' := by
  cases cs <;> simp [endMark, @eq_comm Char '*', @eq_comm Char '/']

theorem brokenMark_prefix_cons_iff {c : Char} {cs : List Char} :
    brokenMark <+: c :: cs ↔ c = '*' ∧ cs.head? = some '\\' ∧ cs.tail.head? = some '/' := by
  rcases cs with _ | ⟨d, _ | ⟨e, cs⟩⟩ <;>
    simp [brokenMark, @eq_comm Char '*', @eq_comm Char '\\', @eq_comm Char '/']

theorem untilEndMark?_append {body : List Char} (h : ¬ endMark <:+: body) (rest : List Char) :
    untilEndMark? (body ++ '*' :: '/' :: rest) = some (body, rest) := by
  induction body with
  | nil => rfl
  | cons c body ih =>
    rw [List.infix_cons_iff, not_or] at h
    rw [List.cons_append, untilEndMark?, ih h.2]
    · rfl
    · intro after hc he
      cases body with
      | nil => cases he
      | cons d body =>
        cases he
        exact h.1 (endMark_prefix_cons_iff.mpr ⟨hc, rfl⟩)

theorem guardedChars_cons {c : Char} {cs : List Char} (h : ¬ endMark <+: c :: cs) :
    guardedChars (c :: cs) = c :: guardedChars cs := by
  rw [guardedChars]
  rintro rest hc rfl
  exact h (endMark_prefix_cons_iff.mpr ⟨hc, rfl⟩)

theorem unguardedChars_cons {c : Char} {cs : List Char} (h : ¬ brokenMark <+: c :: cs) :
    unguardedChars (c :: cs) = c :: unguardedChars cs := by
  rw [unguardedChars]
  rintro rest hc rfl
  exact h (brokenMark_prefix_cons_iff.mpr ⟨hc, rfl, rfl⟩)

theorem head?_guardedChars (cs : List Char) : (guardedChars cs).head? = cs.head? := by
  fun_cases guardedChars cs <;> rfl

theorem head?_unguardedChars (cs : List Char) : (unguardedChars cs).head? = cs.head? := by
  fun_cases unguardedChars cs <;> rfl

/-- A change that keeps the first character and any backslash neither makes nor breaks a mark that
starts before it. -/
theorem brokenMark_prefix_map_iff {f : List Char → List Char}
    (hhead : ∀ cs, (f cs).head? = cs.head?) (hslash : ∀ cs, f ('\\' :: cs) = '\\' :: f cs)
    {c : Char}
    {cs : List Char} : brokenMark <+: c :: f cs ↔ brokenMark <+: c :: cs := by
  rw [brokenMark_prefix_cons_iff, brokenMark_prefix_cons_iff, hhead]
  refine and_congr_right fun _ => and_congr_right fun h => ?_
  obtain ⟨rest, rfl⟩ := List.head?_eq_some_iff.mp h
  rw [hslash, List.tail_cons, List.tail_cons, hhead]

theorem brokenMark_prefix_guardedChars {c : Char} {cs : List Char} :
    brokenMark <+: c :: guardedChars cs ↔ brokenMark <+: c :: cs :=
  brokenMark_prefix_map_iff head?_guardedChars fun _ =>
    guardedChars_cons fun h => absurd (endMark_prefix_cons_iff.mp h).1 (by decide)

theorem brokenMark_prefix_unguardedChars {c : Char} {cs : List Char} :
    brokenMark <+: c :: unguardedChars cs ↔ brokenMark <+: c :: cs :=
  brokenMark_prefix_map_iff head?_unguardedChars fun _ =>
    unguardedChars_cons fun h => absurd (brokenMark_prefix_cons_iff.mp h).1 (by decide)

/-- No end mark is left in a guarded text. -/
theorem not_endMark_infix_guardedChars (cs : List Char) : ¬ endMark <:+: guardedChars cs := by
  fun_induction guardedChars cs with
  | case1 => simp [endMark]
  | case2 rest ih => simpa [endMark, List.infix_cons_iff] using ih
  | case3 c rest hno ih =>
    rw [List.infix_cons_iff, endMark_prefix_cons_iff, head?_guardedChars, not_or]
    refine ⟨?_, ih⟩
    rintro ⟨hc, hrest⟩
    obtain ⟨after, rfl⟩ := List.head?_eq_some_iff.mp hrest
    exact hno after hc rfl

theorem not_endMark_infix_commentBody (text : String) : ¬ endMark <:+: commentBody text := by
  have hlast : ¬ endMark <:+: guardedChars text.toList ++ [' '] := by
    rw [List.infix_concat_iff, not_or]
    refine ⟨?_, not_endMark_infix_guardedChars _⟩
    rintro ⟨front, he⟩
    have hend := congrArg List.getLast? he
    simp [endMark] at hend
  simpa [commentBody, endMark, List.infix_cons_iff] using hlast

theorem not_brokenMark_infix_unguardedChars (cs : List Char) :
    ¬ brokenMark <:+: unguardedChars cs := by
  fun_induction unguardedChars cs with
  | case1 => simp [brokenMark]
  | case2 rest ih => simpa [brokenMark, List.infix_cons_iff] using ih
  | case3 c rest hno ih =>
    rw [List.infix_cons_iff, brokenMark_prefix_unguardedChars, not_or]
    refine ⟨?_, ih⟩
    rintro ⟨after, he⟩
    cases he
    exact hno after rfl rfl

theorem unguardedChars_guardedChars {cs : List Char} (h : ¬ brokenMark <:+: cs) :
    unguardedChars (guardedChars cs) = cs := by
  fun_induction guardedChars cs with
  | case1 => rfl
  | case2 rest ih =>
    have hrest : ¬ brokenMark <:+: rest := fun hr =>
      h (List.infix_cons_iff.mpr (.inr (List.infix_cons_iff.mpr (.inr hr))))
    rw [unguardedChars, ih hrest]
  | case3 c rest _ ih =>
    rw [List.infix_cons_iff, not_or] at h
    have hfirst : ¬ brokenMark <+: c :: guardedChars rest := fun hp =>
      h.1 (brokenMark_prefix_guardedChars.mp hp)
    rw [unguardedChars_cons hfirst, ih h.2]

theorem unguardedChars_guardedChars_iff {cs : List Char} :
    unguardedChars (guardedChars cs) = cs ↔ ¬ brokenMark <:+: cs := by
  refine ⟨fun h => ?_, unguardedChars_guardedChars⟩
  rw [← h]
  exact not_brokenMark_infix_unguardedChars _

theorem unguardedChars_append_blank (cs : List Char) :
    unguardedChars (cs ++ [' ']) = unguardedChars cs ++ [' '] := by
  fun_induction unguardedChars cs with
  | case1 => rfl
  | case2 rest ih =>
    rw [List.cons_append, List.cons_append, List.cons_append, unguardedChars, ih]
    rfl
  | case3 c rest hno ih =>
    rw [List.cons_append, unguardedChars_cons, ih]
    · rfl
    · rw [brokenMark_prefix_cons_iff]
      rintro ⟨hc, hd, he⟩
      rcases rest with _ | ⟨d, _ | ⟨e, rest⟩⟩
      · cases hd
      · cases he
      · cases hd
        cases he
        exact hno rest hc rfl

theorem unguardedChars_commentBody (text : String) : unguardedChars (commentBody text) =
    '*' :: ' ' :: unguardedChars (guardedChars text.toList) ++ [' '] := by
  rw [commentBody, unguardedChars_append_blank]
  rfl

/-- A comment is read to its own end mark, whatever follows. -/
theorem readComment?_leading (text : String) (rest : List Char) :
    readComment? ((leading (commentBody text)).toList ++ rest) =
      some (commentBody text, ' ' :: rest) := by
  have hread := untilEndMark?_append (not_endMark_infix_commentBody text) (' ' :: rest)
  rw [leading, String.toList_ofList]
  simpa [readComment?] using hread

/-- The comment that is stored for a text has no end mark in it, so that what is printed is read as
that comment, up to the mark behind it. Its text is found by putting the marks in it together again
exactly if it had no broken mark before. -/
theorem stored_comment_holds_text (text : String) (table : CommentTable) (rest : List Char) :
    ∃ place later body, table.allot (some text) = (place, later) ∧ later.commentsAt place = [body] ∧
      ¬ endMark <:+: body ∧
      readComment? ((later.leading place).toList ++ rest) = some (body, ' ' :: rest) ∧
      (unguardedChars body = '*' :: ' ' :: text.toList ++ [' '] ↔
        ¬ brokenMark <:+: text.toList) := by
  have hstored : (table.allot (some text)).2.commentsAt table.next = [commentBody text] := by
    rw [CommentTable.commentsAt_allot, CommentTable.commentsAt_next, if_pos rfl]
    rfl
  have hprinted : (table.allot (some text)).2.leading table.next = leading (commentBody text) :=
    CommentTable.leading_allot (some text) (.refl _)
  refine ⟨table.next, (table.allot (some text)).2, commentBody text, rfl, hstored,
    not_endMark_infix_commentBody text, ?_, ?_⟩
  · rw [hprinted, readComment?_leading]
  · rw [unguardedChars_commentBody, ← unguardedChars_guardedChars_iff]
    simp

end ApiBindings.TypeScript
