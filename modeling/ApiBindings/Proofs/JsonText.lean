import ApiBindings.Proofs.LiteralText
import Mathlib.Data.List.Basic

namespace ApiBindings
open Number

def isNumeralChar (c : Char) : Bool :=
  c.isDigit || c == '-' || c == '+' || c == '.' || c == 'e'

theorem isNumeralChar_of_isDigit {c : Char} (h : c.isDigit = true) : isNumeralChar c = true := by
  simp [isNumeralChar, h]

theorem isNumeralChar_of_mem_toDigits {n : Nat} {c : Char} (h : c ∈ Nat.toDigits 10 n) :
    isNumeralChar c = true := isNumeralChar_of_isDigit (isDigit_of_mem_toDigits h)

theorem isNumeralChar_of_mem_positional {n : Nat} {k : Int} {c : Char}
    (h : c ∈ positional (Nat.toDigits 10 n) k) : isNumeralChar c = true := by
  obtain ⟨whole, fraction, he, -, hw, hf, -⟩ := positional_eq
    (fun c => isDigit_of_mem_toDigits) (Nat.toDigits_ne_nil : Nat.toDigits 10 n ≠ []) k
  rw [he, List.mem_append, List.mem_cons] at h
  rcases h with h | rfl | h
  · exact isNumeralChar_of_isDigit (hw c h)
  · rfl
  · exact isNumeralChar_of_isDigit (hf c h)

theorem isNumeralChar_of_mem_scientific {n : Nat} {k : Int} {c : Char}
    (h : c ∈ scientific (Nat.toDigits 10 n) k) : isNumeralChar c = true := by
  simp only [scientific, List.mem_append, List.mem_cons, List.not_mem_nil, or_false] at h
  rcases h with ((h | h) | rfl | rfl) | h
  · exact isNumeralChar_of_mem_toDigits (List.mem_of_mem_take h)
  · split at h
    · cases h
    · rcases List.mem_cons.mp h with rfl | h
      · rfl
      · exact isNumeralChar_of_mem_toDigits (List.mem_of_mem_drop h)
  · rfl
  · split <;> rfl
  · exact isNumeralChar_of_mem_toDigits h

theorem isNumeralChar_of_mem_chars {n : Numeral} {c : Char} (h : c ∈ n.chars) :
    isNumeralChar c = true := by
  cases n with
  | whole z =>
    rw [whole_chars_eq, List.mem_append] at h
    rcases h with h | h
    · split at h
      · rw [List.mem_singleton.mp h]
        rfl
      · cases h
    · exact isNumeralChar_of_mem_toDigits h
  | float x =>
    obtain ⟨body, he, hbody⟩ := x.toChars_cases
    have hmem : ∀ c ∈ body, isNumeralChar c = true := by
      rcases hbody with rfl | rfl
      · exact fun c => isNumeralChar_of_mem_positional
      · exact fun c => isNumeralChar_of_mem_scientific
    rw [Numeral.chars, he] at h
    split at h
    · rcases List.mem_cons.mp h with rfl | h
      · rfl
      · exact hmem c h
    · exact hmem c h

theorem Numeral.chars_ne_nil (n : Numeral) : n.chars ≠ [] := by
  cases n with
  | whole z =>
    rw [whole_chars_eq]
    simp
  | float x =>
    rcases x.toChars_mark with hm | hm
    · exact List.ne_nil_of_mem hm
    · exact List.ne_nil_of_mem hm

def EndsNumeral (rest : List Char) : Prop := ∀ c ∈ rest.head?, isNumeralChar c = false

theorem Numeral.chars_append_inj {m n : Numeral} {r s : List Char} (hr : EndsNumeral r)
    (hs : EndsNumeral s) (h : m.chars ++ r = n.chars ++ s) : m = n ∧ r = s := by
  obtain ⟨hm, hmr⟩ := takeWhile_dropWhile_append (fun c => isNumeralChar_of_mem_chars (n := m)) hr
  obtain ⟨hn, hns⟩ := takeWhile_dropWhile_append (fun c => isNumeralChar_of_mem_chars (n := n)) hs
  rw [h] at hm hmr
  exact ⟨Numeral.chars_injective (hm.symm.trans hn), hmr.symm.trans hns⟩

/-- The text of `a` is the text of nothing else, whatever follows. -/
def Determines {α : Type} (print : α → List Char) (a : α) : Prop :=
  ∀ ⦃b : α⦄ ⦃r s : List Char⦄, EndsNumeral r → EndsNumeral s →
    print a ++ r = print b ++ s → a = b ∧ r = s

section Separated

variable {α : Type} {print : α → List Char} {close : Char}

/-- What follows an element: the closing character, or a comma and the other elements. -/
def sequel (print : α → List Char) (close : Char) (tail : List Char) : List α → List Char
  | [] => close :: tail
  | a :: rest => ',' :: (List.intercalate [','] ((a :: rest).map print) ++ close :: tail)

theorem intercalate_cons_append (a : α) (rest : List α) (tail : List Char) :
    List.intercalate [','] ((a :: rest).map print) ++ close :: tail =
      print a ++ sequel print close tail rest := by
  cases rest with
  | nil => simp [sequel]
  | cons b rest => simp [sequel, List.intercalate_cons_cons]

theorem endsNumeral_sequel (hclose : isNumeralChar close = false) (tail : List Char)
    (rest : List α) : EndsNumeral (sequel print close tail rest) := by
  cases rest with
  | nil =>
    rintro c ⟨⟩
    exact hclose
  | cons a rest =>
    rintro c ⟨⟩
    rfl

/-- Elements between commas, up to a closing character, are determined if each of them is. -/
theorem intercalate_append_inj (hclose : isNumeralChar close = false) (hcomma : close ≠ ',')
    (hprint : ∀ a rest tail, close :: rest ≠ print a ++ tail) {as bs : List α}
    {r s : List Char} (has : ∀ a ∈ as, Determines print a)
    (h : List.intercalate [','] (as.map print) ++ close :: r =
      List.intercalate [','] (bs.map print) ++ close :: s) : as = bs ∧ r = s := by
  induction as generalizing bs with
  | nil =>
    cases bs with
    | nil => exact ⟨rfl, (List.cons.inj h).2⟩
    | cons b bs =>
      rw [intercalate_cons_append] at h
      exact absurd h (hprint b _ _)
  | cons a as ih =>
    cases bs with
    | nil =>
      rw [intercalate_cons_append] at h
      exact absurd h.symm (hprint a _ _)
    | cons b bs =>
      rw [intercalate_cons_append, intercalate_cons_append] at h
      obtain ⟨rfl, hseq⟩ := has a (.head _) (endsNumeral_sequel hclose r as)
        (endsNumeral_sequel hclose s bs) h
      cases as with
      | nil =>
        cases bs with
        | nil => exact ⟨rfl, (List.cons.inj hseq).2⟩
        | cons b bs => exact absurd (List.cons.inj hseq).1 hcomma
      | cons a' as =>
        cases bs with
        | nil => exact absurd (List.cons.inj hseq).1.symm hcomma
        | cons b bs =>
          obtain ⟨hrest, hr⟩ := ih (fun a ha => has a (.tail _ ha)) (List.cons.inj hseq).2
          exact ⟨by rw [hrest], hr⟩

end Separated

namespace Json

theorem itemsChars_eq (items : List Json) :
    itemsChars items = List.intercalate [','] (items.map chars) := by
  induction items with
  | nil => rfl
  | cons item rest ih =>
    cases rest with
    | nil => simp [itemsChars]
    | cons next rest =>
      rw [itemsChars, ih]
      · simp [List.intercalate_cons_cons]
      · simp

def memberChars (m : String × Json) : List Char := stringChars m.1 ++ ':' :: m.2.chars

theorem membersChars_eq (members : List (String × Json)) :
    membersChars members = List.intercalate [','] (members.map memberChars) := by
  induction members with
  | nil => rfl
  | cons m rest ih =>
    obtain ⟨key, value⟩ := m
    cases rest with
    | nil => simp [membersChars, memberChars]
    | cons next rest =>
      rw [membersChars, ih]
      · simp [List.intercalate_cons_cons, memberChars]
      · simp

/-- The character that tells the kind of a value; one stands for all that numbers start with. -/
def lead : Json → Char
  | .null => 'n'
  | .bool true => 't'
  | .bool false => 'f'
  | .number _ => '0'
  | .string _ => '"'
  | .array _ => '['
  | .object _ => '\x7b'

def leadOf (c : Char) : Char := if isNumeralChar c then '0' else c

theorem chars_eq_cons (j : Json) : ∃ c rest, j.chars = c :: rest ∧ leadOf c = j.lead := by
  cases j with
  | bool b => cases b <;> exact ⟨_, _, rfl, rfl⟩
  | number n =>
    obtain ⟨c, rest, h⟩ := List.exists_cons_of_ne_nil n.chars_ne_nil
    refine ⟨c, rest, h, if_pos (isNumeralChar_of_mem_chars (n := n) ?_)⟩
    rw [h]
    exact .head _
  | _ => exact ⟨_, _, rfl, rfl⟩

theorem close_ne_chars (j : Json) (r s : List Char) : ']' :: r ≠ j.chars ++ s := by
  obtain ⟨c, rest, hj, hlead⟩ := j.chars_eq_cons
  rw [hj]
  intro h
  obtain rfl := (List.cons.inj h).1
  rcases j with _ | (_ | _) | _ | _ | _ | _ <;> cases hlead

/-- Values of one kind, the two booleans apart. -/
inductive SameKind : Json → Json → Prop
  | null : SameKind .null .null
  | bool (b : Bool) : SameKind (.bool b) (.bool b)
  | number (m n : Numeral) : SameKind (.number m) (.number n)
  | string (s t : String) : SameKind (.string s) (.string t)
  | array (items items' : List Json) : SameKind (.array items) (.array items')
  | object (members members' : List (String × Json)) :
    SameKind (.object members) (.object members')

theorem SameKind.of_lead {i j : Json} (h : i.lead = j.lead) : SameKind i j := by
  rcases i with _ | (_ | _) | _ | _ | _ | _ <;> rcases j with _ | (_ | _) | _ | _ | _ | _ <;>
    simp only [lead, Char.reduceEq] at h <;> constructor

theorem SameKind.of_append {i j : Json} {r s : List Char} (h : i.chars ++ r = j.chars ++ s) :
    SameKind i j := by
  obtain ⟨c, rest, hi, hlead⟩ := i.chars_eq_cons
  obtain ⟨d, rest', hj, hlead'⟩ := j.chars_eq_cons
  rw [hi, hj] at h
  obtain rfl := (List.cons.inj h).1
  exact .of_lead (hlead.symm.trans hlead')

theorem memberChars_determines {m : String × Json} (h : Determines chars m.2) :
    Determines memberChars m := by
  rintro ⟨key, value⟩ r s hr hs he
  obtain ⟨key', value'⟩ := m
  simp only [memberChars, List.append_assoc, List.cons_append] at he
  obtain ⟨rfl, hvalue⟩ := stringChars_append_inj he
  obtain ⟨rfl, hrest⟩ := h hr hs (List.cons.inj hvalue).2
  exact ⟨rfl, hrest⟩

mutual

theorem chars_determines : (i : Json) → Determines chars i
  | .null => by
    intro j r s _ _ h
    cases SameKind.of_append h
    exact ⟨rfl, List.append_cancel_left h⟩
  | .bool b => by
    intro j r s _ _ h
    cases SameKind.of_append h
    exact ⟨rfl, List.append_cancel_left h⟩
  | .number m => by
    intro j r s hr hs h
    cases SameKind.of_append h with
    | number _ n =>
      obtain ⟨rfl, hrest⟩ := Numeral.chars_append_inj hr hs h
      exact ⟨rfl, hrest⟩
  | .string text => by
    intro j r s _ _ h
    cases SameKind.of_append h with
    | string _ text' =>
      obtain ⟨rfl, hrest⟩ := stringChars_append_inj h
      exact ⟨rfl, hrest⟩
  | .array items => by
    intro j r s _ _ h
    cases SameKind.of_append h with
    | array _ items' =>
      simp only [chars, itemsChars_eq, List.cons_append, List.append_assoc, List.cons.injEq,
        true_and] at h
      obtain ⟨rfl, hrest⟩ := intercalate_append_inj rfl (by decide) close_ne_chars
        (items_determine items) h
      exact ⟨rfl, hrest⟩
  | .object members => by
    intro j r s _ _ h
    cases SameKind.of_append h with
    | object _ members' =>
      simp only [chars, membersChars_eq, List.cons_append, List.append_assoc, List.cons.injEq,
        true_and] at h
      -- A member starts with the quote of its key, never with the closing brace.
      have hquote (m : String × Json) (r s : List Char) : '\x7d' :: r ≠ memberChars m ++ s := nofun
      obtain ⟨rfl, hrest⟩ := intercalate_append_inj rfl (by decide) hquote
        (fun m hm => memberChars_determines (members_determine members m hm)) h
      exact ⟨rfl, hrest⟩

theorem items_determine : (items : List Json) → ∀ item ∈ items, Determines chars item
  | [] => nofun
  | first :: rest => List.forall_mem_cons.mpr ⟨chars_determines first, items_determine rest⟩

theorem members_determine : (members : List (String × Json)) →
    ∀ m ∈ members, Determines chars m.2
  | [] => nofun
  | (_, value) :: rest => List.forall_mem_cons.mpr ⟨chars_determines value, members_determine rest⟩

end

theorem render_injective : Function.Injective render := by
  intro i j h
  have hc : i.chars = j.chars := String.ofList_inj.mp h
  have hnil : EndsNumeral [] := nofun
  exact (chars_determines i hnil hnil (by rw [hc])).1

instance : DecidableEq Json := fun i j =>
  decidable_of_iff (i.render = j.render) render_injective.eq_iff

end Json

end ApiBindings
