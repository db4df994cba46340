import ApiBindings.Text.Percent

namespace ApiBindings.Contract

/-- A piece of a path segment. Literal text is held percent-decoded. -/
inductive Fragment where
  | literal (text : String)
  | param (name : String)
  deriving DecidableEq, Repr

abbrev Segment := List Fragment

abbrev PathTemplate := List Segment

/-- Why a text is no path template: the place and UTF-8 length of the first character after the
longest template at its front. -/
structure BadPath where
  text : String
  offset : Nat
  length : Nat
  deriving DecidableEq, Repr

def BadPath.message (e : BadPath) : String := s!"invalid URL path template `{e.text}`"

def Fragment.param? : Fragment → Option String
  | .literal _ => none
  | .param name => some name

def Segment.params (s : Segment) : List String := s.filterMap Fragment.param?

namespace PathTemplate

def params (t : PathTemplate) : List String := t.flatMap Segment.params

def isNameChar (c : Char) : Bool := c != '\x7b' && c != '\x7d'

/-- Characters of literal text; `%` may start an escaped byte. -/
def isLiteralChar (c : Char) : Bool := c.isAlphanum || "-._~:@!$&'()*+,;=%".toList.contains c

def fragment? (s : List Char) : Option (Fragment × List Char) :=
  match s with
  | '\x7b' :: r =>
    match r.takeWhile isNameChar, r.dropWhile isNameChar with
    | c :: name, '\x7d' :: rest => some (.param (String.ofList (c :: name)), rest)
    | _, _ => none
  | _ =>
    match s.takeWhile isLiteralChar with
    | [] => none
    | run => (Text.Percent.decode? run).map fun text => (.literal text, s.dropWhile isLiteralChar)

theorem length_dropWhile_le {α : Type} (p : α → Bool) (s : List α) :
    (s.dropWhile p).length ≤ s.length := by
  have h := congrArg List.length (List.takeWhile_append_dropWhile (p := p) (l := s))
  rw [List.length_append] at h
  omega

theorem length_dropWhile_lt {α : Type} {p : α → Bool} {s : List α} {a : α} {r : List α}
    (h : s.takeWhile p = a :: r) : (s.dropWhile p).length < s.length := by
  have e := congrArg List.length (List.takeWhile_append_dropWhile (p := p) (l := s))
  rw [List.length_append, h, List.length_cons] at e
  omega

theorem length_lt_of_fragment? {s rest : List Char} {f : Fragment}
    (h : fragment? s = some (f, rest)) : rest.length < s.length := by
  unfold fragment? at h
  split at h
  · rename_i r
    split at h
    · rename_i hd
      simp only [Option.some.injEq, Prod.mk.injEq] at h
      have hl := congrArg List.length hd
      have hle := length_dropWhile_le isNameChar r
      rw [h.2] at hl
      simp only [List.length_cons] at hl ⊢
      omega
    · simp at h
  · split at h
    · simp at h
    · rename_i hr
      obtain ⟨t, _, ht⟩ := Option.map_eq_some_iff.mp h
      simp only [Prod.mk.injEq] at ht
      obtain ⟨a, r, hcons⟩ := List.exists_cons_of_ne_nil hr
      exact ht.2 ▸ length_dropWhile_lt hcons

def fragments (s : List Char) : List Fragment × List Char :=
  match _h : fragment? s with
  | none => ([], s)
  | some (f, rest) =>
    let tail := fragments rest
    (f :: tail.1, tail.2)
termination_by s.length
decreasing_by exact length_lt_of_fragment? _h

theorem length_fragments_le (s : List Char) : (fragments s).2.length ≤ s.length := by
  induction s using fragments.induct with
  | case1 s h => rw [fragments]; split <;> simp_all
  | case2 s f rest h ih =>
    have hlt := length_lt_of_fragment? h
    rw [fragments]
    split
    · exact Nat.le_refl _
    · rename_i f' rest' h'
      rw [h] at h'
      obtain ⟨rfl, rfl⟩ := Prod.mk.inj (Option.some.inj h')
      exact Nat.le_trans ih (Nat.le_of_lt hlt)

/-- The longest template at the front of a text, with what follows it. A slash without fragments
after it ends the template with an empty segment. -/
def longest? (s : List Char) : Option (PathTemplate × List Char) :=
  match s with
  | '/' :: r =>
    match _h : fragments r with
    | ([], _) => some ([[]], r)
    | (f :: fs, rest) =>
      match longest? rest with
      | some (tail, after) => some ((f :: fs) :: tail, after)
      | none => some ([f :: fs], rest)
  | _ => none
termination_by s.length
decreasing_by
  have hle := length_fragments_le r
  rw [_h] at hle
  simpa using Nat.lt_succ_of_le hle

def utf8Length (s : List Char) : Nat := s.foldl (fun n c => n + c.utf8Size) 0

def badPath (text : String) (rest : List Char) : BadPath :=
  { text, offset := utf8Length text.toList - utf8Length rest
    length := (rest.head?.map Char.utf8Size).getD 0 }

def parse (text : String) : Except BadPath PathTemplate :=
  match longest? text.toList with
  | some (template, []) => .ok template
  | some (_, rest) => .error (badPath text rest)
  | none => .error (badPath text text.toList)

end PathTemplate

end ApiBindings.Contract
