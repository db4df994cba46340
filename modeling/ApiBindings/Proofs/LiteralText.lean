import ApiBindings.Json.Basic
import ApiBindings.Proofs.ShortestDecimal
import ApiBindings.Proofs.Spans
import Mathlib.Data.List.TakeDrop

namespace ApiBindings.Number

theorem digitsValue_eq (ds : List Char) : digitsValue ds = Nat.ofDigitChars 10 ds 0 := by
  simp only [digitsValue, Nat.ofDigitChars_eq_foldl, Nat.mul_comm]
  rfl

theorem digitsValue_append (as bs : List Char) :
    digitsValue (as ++ bs) = digitsValue as * 10 ^ bs.length + digitsValue bs := by
  simp only [digitsValue_eq, Nat.ofDigitChars_append]
  rw [Nat.ofDigitChars_eq_ofDigitChars_zero, Nat.mul_comm]

theorem digitsValue_toDigits (n : Nat) : digitsValue (Nat.toDigits 10 n) = n := by
  rw [digitsValue_eq, Nat.ofDigitChars_ten_toDigits]

theorem digitsValue_zeros (n : Nat) : digitsValue (List.replicate n '0') = 0 := by
  simp [digitsValue_eq]

theorem isDigit_of_mem_toDigits {n : Nat} {c : Char} (h : c ∈ Nat.toDigits 10 n) :
    c.isDigit = true := Nat.isDigit_of_mem_toDigits (by decide) (by decide) h

theorem span_digits {ds rest : List Char} (hds : ∀ c ∈ ds, c.isDigit = true)
    (hrest : ∀ c ∈ rest.head?, c.isDigit = false) :
    (ds ++ rest).span Char.isDigit = (ds, rest) := by
  obtain ⟨htake, hdrop⟩ := takeWhile_dropWhile_append hds hrest
  rw [List.span_eq_takeWhile_dropWhile, htake, hdrop]

/-- What follows the digits of a number: nothing, or the mark of the exponent. -/
def StartsExponent (tail : List Char) : Prop := tail.head? = none ∨ tail.head? = some 'e'

theorem StartsExponent.not_digit {tail : List Char} (h : StartsExponent tail) :
    ∀ c ∈ tail.head?, c.isDigit = false := by
  intro c hc
  rcases h with h | h
  · rw [h] at hc; cases hc
  · rw [h] at hc; cases hc; rfl

theorem magnitude?_append_fraction (negative : Bool) {whole fraction tail : List Char}
    (hw : ∀ c ∈ whole, c.isDigit = true) (hf : ∀ c ∈ fraction, c.isDigit = true)
    (ht : ∀ c ∈ tail.head?, c.isDigit = false) :
    magnitude? negative (whole ++ '.' :: (fraction ++ tail)) =
      if whole = [] ∧ fraction = [] then none else (exponentPart? tail).map fun e =>
        ⟨negative, digitsValue (whole ++ fraction), e - fraction.length⟩ := by
  have hpoint : (whole ++ '.' :: (fraction ++ tail)).span Char.isDigit =
      (whole, '.' :: (fraction ++ tail)) := span_digits hw (by rintro c ⟨⟩; rfl)
  simp only [magnitude?, hpoint, splitFraction, span_digits hf ht, Bool.and_eq_true,
    List.isEmpty_iff]

theorem magnitude?_append_whole (negative : Bool) {whole tail : List Char}
    (hw : ∀ c ∈ whole, c.isDigit = true) (ht : ∀ c ∈ tail.head?, c.isDigit = false)
    (hp : '.' ∉ tail.head?) :
    magnitude? negative (whole ++ tail) =
      if whole = [] then none else
        (exponentPart? tail).map fun e => ⟨negative, digitsValue whole, e⟩ := by
  have hfraction : splitFraction tail = ([], tail) := by
    unfold splitFraction
    split
    · exact absurd rfl hp
    · rfl
  simp only [magnitude?, span_digits hw ht, hfraction]
  simp

theorem magnitude?_with_fraction (negative : Bool) {whole fraction tail : List Char} {e : Int}
    (hw : ∀ c ∈ whole, c.isDigit = true) (hne : whole ≠ [])
    (hf : ∀ c ∈ fraction, c.isDigit = true) (ht : StartsExponent tail)
    (he : exponentPart? tail = some e) :
    magnitude? negative (whole ++ '.' :: (fraction ++ tail)) =
      some ⟨negative, digitsValue (whole ++ fraction), e - fraction.length⟩ := by
  rw [magnitude?_append_fraction negative hw hf ht.not_digit, if_neg fun h => hne h.1, he,
    Option.map_some]

theorem magnitude?_whole (negative : Bool) {whole tail : List Char} {e : Int}
    (hw : ∀ c ∈ whole, c.isDigit = true) (hne : whole ≠ []) (ht : StartsExponent tail)
    (he : exponentPart? tail = some e) :
    magnitude? negative (whole ++ tail) = some ⟨negative, digitsValue whole, e⟩ := by
  have hp : '.' ∉ tail.head? := by
    rcases ht with h | h <;> rw [h] <;> simp
  rw [magnitude?_append_whole negative hw ht.not_digit hp, if_neg hne, he, Option.map_some]

theorem exponentPart?_toDigits (e : Int) :
    exponentPart? ('e' :: (if e < 0 then '-' else '+') :: Nat.toDigits 10 e.natAbs) = some e := by
  have hall : (Nat.toDigits 10 e.natAbs).all Char.isDigit = true :=
    List.all_eq_true.mpr fun c hc => isDigit_of_mem_toDigits hc
  obtain ⟨d, ds, hd⟩ := List.exists_cons_of_ne_nil
    (Nat.toDigits_ne_nil : Nat.toDigits 10 e.natAbs ≠ [])
  have hv := digitsValue_toDigits e.natAbs
  rw [hd] at hall hv ⊢
  by_cases he : e < 0
  · simp [exponentPart?, splitSign, he, hall, hv, abs_of_neg he, -List.all_cons]
  · simp [exponentPart?, splitSign, he, hall, hv, abs_of_nonneg (not_lt.mp he), -List.all_cons]

def Decimal.value (d : Decimal) : ℚ := d.digits * 10 ^ d.exponent

/-- Positional notation has digits before and after a point, which together spell the number. -/
theorem positional_eq {ds : List Char} (hds : ∀ c ∈ ds, c.isDigit = true) (hne : ds ≠ [])
    (k : Int) : ∃ whole fraction : List Char,
      positional ds k = whole ++ '.' :: fraction ∧ whole ≠ [] ∧
        (∀ c ∈ whole, c.isDigit = true) ∧ (∀ c ∈ fraction, c.isDigit = true) ∧
        (digitsValue (whole ++ fraction) : ℚ) * 10 ^ (-(fraction.length : Int)) =
          digitsValue ds * 10 ^ k := by
  have hzeros (m : Nat) : ∀ c ∈ List.replicate m '0', c.isDigit = true := by
    intro c hc
    rw [List.eq_of_mem_replicate hc]
    rfl
  by_cases hp : (ds.length : Int) + k ≤ 0
  · refine ⟨['0'], List.replicate (-((ds.length : Int) + k)).toNat '0' ++ ds, ?_, by simp,
      by simp, ?_, ?_⟩
    · simp [positional, hp]
    · intro c hc
      exact (List.mem_append.mp hc).elim (hzeros _ c) (hds c)
    · rw [digitsValue_append, digitsValue_append, digitsValue_zeros,
        show digitsValue ['0'] = 0 from rfl, List.length_append, List.length_replicate]
      simp only [Nat.zero_mul, Nat.zero_add]
      congr 2
      omega
  · by_cases hk : 0 ≤ k
    · refine ⟨ds ++ List.replicate k.toNat '0', ['0'], ?_, by simp [hne], ?_, by simp, ?_⟩
      · simp [positional, hp, hk]
      · intro c hc
        exact (List.mem_append.mp hc).elim (hds c) (hzeros _ c)
      · have hpow : (10 : ℚ) ^ k = 10 ^ k.toNat := by
          rw [← zpow_natCast, Int.toNat_of_nonneg hk]
        rw [digitsValue_append, digitsValue_append, digitsValue_zeros,
          show digitsValue ['0'] = 0 from rfl, List.length_replicate, hpow]
        simp
    · refine ⟨ds.take (ds.length + k : Int).toNat, ds.drop (ds.length + k : Int).toNat, ?_, ?_,
        fun c hc => hds c (List.mem_of_mem_take hc),
        fun c hc => hds c (List.mem_of_mem_drop hc), ?_⟩
      · simp [positional, hp, hk]
      · simp only [ne_eq, List.take_eq_nil_iff, hne, or_false]
        omega
      · rw [List.take_append_drop, List.length_drop]
        congr 2
        omega

theorem magnitude?_positional (negative : Bool) (n : Nat) (k : Int) :
    ∃ d, magnitude? negative (positional (Nat.toDigits 10 n) k) = some d ∧
      d.value = n * 10 ^ k := by
  obtain ⟨whole, fraction, he, hne, hw, hf, hv⟩ := positional_eq
    (fun c => isDigit_of_mem_toDigits) (Nat.toDigits_ne_nil : Nat.toDigits 10 n ≠ []) k
  rw [digitsValue_toDigits] at hv
  refine ⟨⟨negative, digitsValue (whole ++ fraction), 0 - fraction.length⟩, ?_, ?_⟩
  · rw [he, ← List.append_nil fraction, magnitude?_with_fraction negative hw hne hf (.inl rfl) rfl,
      List.append_nil]
  · rw [← hv, Decimal.value, zero_sub]

theorem magnitude?_scientific (negative : Bool) (n : Nat) (k : Int) :
    ∃ d, magnitude? negative (scientific (Nat.toDigits 10 n) k) = some d ∧
      d.value = n * 10 ^ k := by
  have hn := digitsValue_toDigits n
  have hds : ∀ c ∈ Nat.toDigits 10 n, c.isDigit = true := fun c => isDigit_of_mem_toDigits
  obtain ⟨first, rest, hd⟩ := List.exists_cons_of_ne_nil
    (Nat.toDigits_ne_nil : Nat.toDigits 10 n ≠ [])
  rw [hd] at hn hds ⊢
  have hfirst : ∀ c ∈ [first], c.isDigit = true := by simpa using hds first (by simp)
  have hexp := exponentPart?_toDigits (((first :: rest).length : Int) + k - 1)
  cases rest with
  | nil =>
    refine ⟨⟨negative, n, k⟩, ?_, rfl⟩
    have hm := magnitude?_whole negative hfirst (by simp) (.inr rfl) hexp
    simpa [scientific, hn] using hm
  | cons second rest =>
    have hrest : ∀ c ∈ second :: rest, c.isDigit = true := fun c hc => hds c (by simp [hc])
    refine ⟨⟨negative, n, k⟩, ?_, rfl⟩
    have hm := magnitude?_with_fraction negative hfirst (by simp) hrest (.inr rfl) hexp
    have he : ((first :: second :: rest).length : Int) + k - 1 - (second :: rest).length = k := by
      simp only [List.length_cons]
      omega
    rw [he] at hm
    simpa [scientific, hn] using hm

theorem magnitude?_minus (negative : Bool) (rest : List Char) :
    magnitude? negative ('-' :: rest) = none := rfl

theorem toDigits_injective : Function.Injective (Nat.toDigits 10) := by
  intro m n h
  rw [← digitsValue_toDigits m, h, digitsValue_toDigits]

namespace Binary64

/-- Either spelling reads as the decimal, and is no text of a whole number. -/
theorem reads_as (n : Nat) (k : Int) {body : List Char}
    (h : body = positional (Nat.toDigits 10 n) k ∨ body = scientific (Nat.toDigits 10 n) k) :
    ∃ d, magnitude? false body = some d ∧ d.value = n * 10 ^ k ∧ ('.' ∈ body ∨ 'e' ∈ body) := by
  rcases h with rfl | rfl
  · obtain ⟨d, hd, hv⟩ := magnitude?_positional false n k
    obtain ⟨whole, fraction, he, -⟩ := positional_eq (fun c => isDigit_of_mem_toDigits)
      (Nat.toDigits_ne_nil : Nat.toDigits 10 n ≠ []) k
    exact ⟨d, hd, hv, .inl (by simp [he])⟩
  · obtain ⟨d, hd, hv⟩ := magnitude?_scientific false n k
    exact ⟨d, hd, hv, .inr (by simp [scientific])⟩

theorem toChars_cases (x : Binary64) : ∃ body,
    x.toChars = (if x.negative then '-' :: body else body) ∧
      (body = positional (Nat.toDigits 10 x.shortest.1) x.shortest.2 ∨
        body = scientific (Nat.toDigits 10 x.shortest.1) x.shortest.2) :=
  ⟨_, rfl, ite_eq_or_eq _ _ _⟩

theorem toChars_eq (x : Binary64) : ∃ body d,
    x.toChars = (if x.negative then '-' :: body else body) ∧
      magnitude? false body = some d ∧ d.value = x.shortestValue ∧ ('.' ∈ body ∨ 'e' ∈ body) := by
  obtain ⟨body, he, hbody⟩ := x.toChars_cases
  obtain ⟨d, hd, hv, hmark⟩ := reads_as _ _ hbody
  exact ⟨body, d, he, hd, hv, hmark⟩

theorem toChars_injective : Function.Injective toChars := by
  intro x y h
  obtain ⟨a, d, ha, hd, hv, -⟩ := x.toChars_eq
  obtain ⟨b, d', hb, hd', hv', -⟩ := y.toChars_eq
  rw [ha, hb] at h
  have hsign : x.negative = y.negative ∧ a = b := by
    cases hx : x.negative <;> cases hy : y.negative <;> simp only [hx, hy] at h
    · exact ⟨rfl, by simpa using h⟩
    · simp only [Bool.false_eq_true, if_false, if_true] at h
      rw [h, magnitude?_minus] at hd
      cases hd
    · simp only [Bool.false_eq_true, if_false, if_true] at h
      rw [← h, magnitude?_minus] at hd'
      cases hd'
    · exact ⟨rfl, by simpa using h⟩
  obtain ⟨hs, rfl⟩ := hsign
  obtain rfl : d = d' := Option.some.inj (hd.symm.trans hd')
  exact eq_of_shortestValue_eq hs (hv.symm.trans hv')

theorem toChars_mark (x : Binary64) : '.' ∈ x.toChars ∨ 'e' ∈ x.toChars := by
  obtain ⟨body, -, he, -, -, hmark⟩ := x.toChars_eq
  rw [he]
  split
  · simpa using hmark
  · exact hmark

end Binary64

end ApiBindings.Number

namespace ApiBindings
open Number

theorem whole_chars_eq (z : Int) : (Numeral.whole z).chars =
    (if z < 0 then ['-'] else []) ++ Nat.toDigits 10 z.natAbs := by
  cases z with
  | ofNat n => simp [Numeral.chars]
  | negSucc n => simp [Numeral.chars, Int.negSucc_lt_zero]

theorem not_mark_of_mem_whole {z : Int} {c : Char} (hc : c ∈ (Numeral.whole z).chars) :
    c ≠ '.' ∧ c ≠ 'e' := by
  rw [whole_chars_eq, List.mem_append] at hc
  rcases hc with hc | hc
  · split at hc
    · rw [List.mem_singleton.mp hc]
      decide
    · cases hc
  · have hd := isDigit_of_mem_toDigits hc
    constructor
    · rintro rfl
      exact absurd hd (by decide)
    · rintro rfl
      exact absurd hd (by decide)

theorem whole_chars_injective : Function.Injective fun z => (Numeral.whole z).chars := by
  intro y z h
  have hminus (n : Nat) : '-' ∉ Nat.toDigits 10 n := fun hc =>
    absurd (isDigit_of_mem_toDigits hc) (by decide)
  simp only [whole_chars_eq] at h
  by_cases hy : y < 0 <;> by_cases hz : z < 0 <;> simp only [hy, hz, if_true, if_false] at h
  · have := toDigits_injective (List.append_cancel_left h)
    omega
  · exact absurd (h ▸ (by simp : '-' ∈ ['-'] ++ Nat.toDigits 10 y.natAbs)) (by simp [hminus])
  · exact absurd (h ▸ (by simp : '-' ∈ ['-'] ++ Nat.toDigits 10 z.natAbs)) (by simp [hminus])
  · have := toDigits_injective (List.append_cancel_left h)
    omega

theorem whole_chars_ne_float (z : Int) (x : Binary64) :
    (Numeral.whole z).chars ≠ (Numeral.float x).chars := by
  intro h
  rcases x.toChars_mark with hm | hm
  · exact (not_mark_of_mem_whole (h ▸ hm : '.' ∈ (Numeral.whole z).chars)).1 rfl
  · exact (not_mark_of_mem_whole (h ▸ hm : 'e' ∈ (Numeral.whole z).chars)).2 rfl

theorem Numeral.chars_injective : Function.Injective Numeral.chars := by
  intro m n h
  cases m with
  | whole y =>
    cases n with
    | whole z => rw [whole_chars_injective h]
    | float x => exact absurd h (whole_chars_ne_float y x)
  | float x =>
    cases n with
    | whole z => exact absurd h.symm (whole_chars_ne_float z x)
    | float y => rw [Binary64.toChars_injective h]

namespace Json

def hexValue (c : Char) : Nat := if c.isDigit then c.toNat - 48 else c.toNat - 87

theorem hexValue_digitChar : ∀ n < 16, hexValue (Nat.digitChar n) = n := by decide

def readEscaped : List Char → Option (Char × List Char)
  | '\\' :: '"' :: rest => some ('"', rest)
  | '\\' :: '\\' :: rest => some ('\\', rest)
  | '\\' :: 'b' :: rest => some ('\x08', rest)
  | '\\' :: 'f' :: rest => some ('\x0c', rest)
  | '\\' :: 'n' :: rest => some ('\n', rest)
  | '\\' :: 'r' :: rest => some ('\r', rest)
  | '\\' :: 't' :: rest => some ('\t', rest)
  | '\\' :: 'u' :: '0' :: '0' :: high :: low :: rest =>
    some (Char.ofNat (16 * hexValue high + hexValue low), rest)
  | c :: rest => some (c, rest)
  | [] => none

theorem readEscaped_escapedChar (c : Char) (rest : List Char) :
    readEscaped (escapedChar c ++ rest) = some (c, rest) := by
  unfold escapedChar
  split
  iterate 7 rfl
  · next h1 h2 _ _ _ _ _ =>
    split
    · next hlt =>
      have hhigh := hexValue_digitChar (c.toNat / 16) (by omega)
      have hlow := hexValue_digitChar (c.toNat % 16) (by omega)
      have hc : 16 * (c.toNat / 16) + c.toNat % 16 = c.toNat := by omega
      simp only [List.cons_append, List.nil_append, readEscaped, hhigh, hlow, hc, Char.ofNat_toNat]
    · rw [List.singleton_append, readEscaped]
      all_goals simp_all

theorem flatMap_escapedChar_append_inj {s t r r' : List Char}
    (h : s.flatMap escapedChar ++ '"' :: r = t.flatMap escapedChar ++ '"' :: r') :
    s = t ∧ r = r' := by
  -- A character is never spelt with a quote in front.
  have hend (c : Char) (q rest : List Char) : '"' :: q ≠ escapedChar c ++ rest := by
    intro h
    have hr := readEscaped_escapedChar c rest
    rw [← h] at hr
    obtain ⟨rfl, -⟩ := Prod.mk.inj (Option.some.inj hr)
    cases h
  induction s generalizing t with
  | nil =>
    cases t with
    | nil => exact ⟨rfl, (List.cons.inj h).2⟩
    | cons d t =>
      rw [List.flatMap_nil, List.flatMap_cons, List.nil_append, List.append_assoc] at h
      exact absurd h (hend d r _)
  | cons c s ih =>
    cases t with
    | nil =>
      rw [List.flatMap_nil, List.flatMap_cons, List.nil_append, List.append_assoc] at h
      exact absurd h.symm (hend c r' _)
    | cons d t =>
      rw [List.flatMap_cons, List.flatMap_cons, List.append_assoc, List.append_assoc] at h
      have hr := congrArg readEscaped h
      simp only [readEscaped_escapedChar, Option.some.injEq, Prod.mk.injEq] at hr
      obtain ⟨rfl, hrest⟩ := ih hr.2
      exact ⟨by rw [hr.1], hrest⟩

/-- A string ends where its text says so, whatever follows. -/
theorem stringChars_append_inj {s t : String} {r r' : List Char}
    (h : stringChars s ++ r = stringChars t ++ r') : s = t ∧ r = r' := by
  simp only [stringChars, List.cons_append, List.append_assoc, List.cons.injEq, true_and] at h
  obtain ⟨hs, hr⟩ := flatMap_escapedChar_append_inj h
  exact ⟨String.toList_inj.mp hs, hr⟩

end Json

end ApiBindings
