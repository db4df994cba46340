import ApiBindings.Number.Shortest
import Mathlib.Algebra.Order.Field.Rat
import Mathlib.Data.Rat.Cast.Order
import Mathlib.Tactic.FieldSimp
import Mathlib.Tactic.Linarith
import Mathlib.Tactic.Positivity
import Mathlib.Tactic.Ring
import Mathlib.Tactic.GCongr
import Mathlib.Tactic.NormNum

namespace ApiBindings.Number

theorem zpow_eq_div (b : ℚ) (hb : b ≠ 0) (k : Int) :
    b ^ k = b ^ k.toNat / b ^ (-k).toNat := by
  rw [← zpow_natCast, ← zpow_natCast, ← zpow_sub₀ hb]
  congr 1
  omega

namespace RoundingInterval

/-- The ends and the middle of an interval as rationals. -/
def lowest (i : RoundingInterval) : ℚ := i.low / i.den

def highest (i : RoundingInterval) : ℚ := i.high / i.den

def middle (i : RoundingInterval) : ℚ := i.value / i.den

theorem scaled_le_iff {den : Nat} (hden : 0 < den) (a digits : Nat) (k : Int) :
    a * 10 ^ (-k).toNat ≤ digits * 10 ^ k.toNat * den ↔ (a / den : ℚ) ≤ digits * 10 ^ k := by
  have hd : (0 : ℚ) < den := by exact_mod_cast hden
  have hp : (0 : ℚ) < 10 ^ (-k).toNat := by positivity
  rw [zpow_eq_div 10 (by norm_num), ← mul_div_assoc, div_le_div_iff₀ hd hp]
  exact_mod_cast Iff.rfl

theorem le_scaled_iff {den : Nat} (hden : 0 < den) (a digits : Nat) (k : Int) :
    digits * 10 ^ k.toNat * den ≤ a * 10 ^ (-k).toNat ↔ digits * 10 ^ k ≤ (a / den : ℚ) := by
  have hd : (0 : ℚ) < den := by exact_mod_cast hden
  have hp : (0 : ℚ) < 10 ^ (-k).toNat := by positivity
  rw [zpow_eq_div 10 (by norm_num), ← mul_div_assoc, div_le_div_iff₀ hp hd]
  exact_mod_cast Iff.rfl

def Holds (i : RoundingInterval) (r : ℚ) : Prop :=
  if i.closed then i.lowest ≤ r ∧ r ≤ i.highest else i.lowest < r ∧ r < i.highest

theorem contains_iff {i : RoundingInterval} (hden : 0 < i.den) (k : Int) (digits : Nat) :
    i.contains k digits = true ↔ i.Holds (digits * 10 ^ k) := by
  unfold contains Holds lowest highest
  simp only [Nat.pow_eq]
  cases i.closed
  · simp only [Bool.false_eq_true, if_false, Bool.and_eq_true, decide_eq_true_eq, ← not_le,
      scaled_le_iff hden, le_scaled_iff hden]
  · simp only [if_true, Bool.and_eq_true, decide_eq_true_eq, scaled_le_iff hden,
      le_scaled_iff hden]

/-- A grid offers the neighbours of the middle, in one order or the other. -/
theorem onGrid?_eq (i : RoundingInterval) (k : Int) : ∃ a b : Nat,
    i.value * 10 ^ (-k).toNat / (10 ^ k.toNat * i.den) ∈ [a, b] ∧
      i.onGrid? k = if i.contains k a then some a else if i.contains k b then some b else none := by
  refine ⟨_, _, ?_, rfl⟩
  split <;> simp

theorem contains_of_onGrid? {i : RoundingInterval} {k : Int} {digits : Nat}
    (h : i.onGrid? k = some digits) : i.contains k digits = true := by
  obtain ⟨a, b, -, he⟩ := onGrid?_eq i k
  rw [he] at h
  split_ifs at h with ha hb
  · cases h; exact ha
  · cases h; exact hb

/-- A grid finer than the lower half of the interval has a point in it. -/
theorem onGrid?_isSome {i : RoundingInterval} (hden : 0 < i.den) {k : Int}
    (hlow : (10 : ℚ) ^ k ≤ i.middle - i.lowest) (hhigh : i.middle < i.highest) :
    (i.onGrid? k).isSome := by
  obtain ⟨a, b, hmem, he⟩ := onGrid?_eq i k
  generalize hdown : i.value * 10 ^ (-k).toNat / (10 ^ k.toNat * i.den) = down at hmem
  have hpos : 0 < 10 ^ k.toNat * i.den := by positivity
  have hle : (down : ℚ) * 10 ^ k ≤ i.middle := by
    apply (le_scaled_iff hden i.value down k).mp
    rw [mul_assoc, ← hdown]
    exact Nat.div_mul_le_self _ _
  have hlt : i.middle < (down + 1 : ℕ) * 10 ^ k := by
    rw [← not_le]
    intro h
    have hs := (le_scaled_iff hden i.value (down + 1) k).mpr h
    rw [mul_assoc, ← hdown, mul_comm] at hs
    exact absurd (Nat.lt_mul_div_succ (i.value * 10 ^ (-k).toNat) hpos) (not_lt.mpr hs)
  have hc : i.contains k down = true := by
    rw [contains_iff hden, Holds]
    push_cast at hlt
    split <;> constructor <;> linarith
  rw [he]
  split_ifs with ha hb
  · rfl
  · rfl
  · simp only [List.mem_cons, List.not_mem_nil, or_false] at hmem
    rcases hmem with rfl | rfl
    · exact absurd hc ha
    · exact absurd hc hb

theorem contains_search {i : RoundingInterval} (fuel : Nat) (k : Int)
    (h : ∃ j, k - fuel < j ∧ j ≤ k ∧ (i.onGrid? j).isSome) :
    i.contains (i.search fuel k).2 (i.search fuel k).1 = true := by
  induction fuel generalizing k with
  | zero =>
    obtain ⟨j, hj, hjk, -⟩ := h
    omega
  | succ fuel ih =>
    rw [search]
    split
    · next digits hg => exact contains_of_onGrid? hg
    · next hg =>
      obtain ⟨j, hj, hjk, hs⟩ := h
      have hne : j ≠ k := by
        rintro rfl
        rw [hg] at hs
        cases hs
      exact ih (k - 1) ⟨j, by push_cast at hj; omega, by omega, hs⟩

theorem Holds.bounds {i : RoundingInterval} {r : ℚ} (h : i.Holds r) :
    i.lowest ≤ r ∧ r ≤ i.highest := by
  unfold Holds at h
  split at h
  · exact h
  · exact ⟨h.1.le, h.2.le⟩

theorem Holds.strict {i : RoundingInterval} {r : ℚ} (h : i.Holds r) (hc : i.closed = false) :
    i.lowest < r ∧ r < i.highest := by
  simpa [Holds, hc] using h

end RoundingInterval

namespace Binary64

def magnitude (x : Binary64) : ℚ := x.mantissa * 2 ^ x.exponent

/-- The distance from the lower end of the interval, in quarters of the last place. -/
def lowerGap (x : Binary64) : ℚ := if x.mantissa = 2 ^ 52 ∧ x.exponent ≠ -1074 then 1 else 2

theorem interval_den_pos (x : Binary64) : 0 < x.interval.den := by
  simp only [interval, Nat.pow_eq]
  positivity

theorem quarter_scale (e : Int) :
    (2 : ℚ) ^ (e - 2).toNat / 2 ^ (-(e - 2)).toNat = 2 ^ e / 4 := by
  rw [← zpow_eq_div 2 (by norm_num), zpow_sub₀ (by norm_num)]
  norm_num

theorem interval_middle (x : Binary64) : x.interval.middle = x.magnitude := by
  have h := quarter_scale x.exponent
  simp only [RoundingInterval.middle, interval, magnitude, Nat.pow_eq]
  push_cast
  rw [mul_div_assoc, h]
  ring

theorem interval_highest (x : Binary64) :
    x.interval.highest = (x.mantissa + 1 / 2) * 2 ^ x.exponent := by
  have h := quarter_scale x.exponent
  simp only [RoundingInterval.highest, interval, Nat.pow_eq]
  push_cast
  rw [mul_div_assoc, h]
  ring

theorem interval_lowest (x : Binary64) (hx : x.mantissa ≠ 0) :
    x.interval.lowest = (x.mantissa - x.lowerGap / 4) * 2 ^ x.exponent := by
  have h := quarter_scale x.exponent
  simp only [RoundingInterval.lowest, interval, lowerGap, Bool.and_eq_true, decide_eq_true_eq,
    bne_iff_ne, Nat.pow_eq]
  split
  · rw [Nat.cast_mul, mul_div_assoc, Nat.cast_sub (by omega)]
    push_cast
    rw [h]
    ring
  · rw [Nat.cast_mul, mul_div_assoc, Nat.cast_sub (by omega)]
    push_cast
    rw [h]
    ring

theorem lowerGap_bounds (x : Binary64) : 1 ≤ x.lowerGap ∧ x.lowerGap ≤ 2 := by
  unfold lowerGap
  split <;> norm_num

theorem pow_length_toDigits_le (n : Nat) (hn : 0 < n) :
    10 ^ ((Nat.toDigits 10 n).length - 1) ≤ n := by
  by_contra! h
  rcases Nat.eq_zero_or_pos ((Nat.toDigits 10 n).length - 1) with h1 | h1
  · rw [h1] at h
    omega
  · have hle := (Nat.length_toDigits_le_iff (by decide) h1).mpr h
    omega

theorem lt_pow_length_toDigits (n : Nat) : n < 10 ^ (Nat.toDigits 10 n).length :=
  (Nat.length_toDigits_le_iff (by decide) Nat.length_toDigits_pos).mp le_rfl

def searchStart (i : RoundingInterval) : Int :=
  if i.den ≤ i.value then (Nat.toDigits 10 (i.value / i.den)).length
  else 1 - ((Nat.toDigits 10 (i.den / i.value)).length : Int)

theorem pow_searchStart_le {i : RoundingInterval} (hden : 0 < i.den) (hvalue : 0 < i.value) :
    (10 : ℚ) ^ (searchStart i - 1) ≤ i.middle := by
  have hd : (0 : ℚ) < i.den := by exact_mod_cast hden
  have hv : (0 : ℚ) < i.value := by exact_mod_cast hvalue
  unfold searchStart RoundingInterval.middle
  split
  · next h =>
    have hq : 0 < i.value / i.den := Nat.div_pos h hden
    have hl := pow_length_toDigits_le _ hq
    have hlen : 1 ≤ (Nat.toDigits 10 (i.value / i.den)).length := Nat.length_toDigits_pos
    rw [← Nat.cast_one, ← Nat.cast_sub hlen, zpow_natCast, le_div_iff₀ hd]
    exact_mod_cast (Nat.mul_le_mul_right _ hl).trans (Nat.div_mul_le_self _ _)
  · have hl := lt_pow_length_toDigits (i.den / i.value)
    set len := (Nat.toDigits 10 (i.den / i.value)).length
    have hlt : i.den < 10 ^ len * i.value :=
      (Nat.lt_mul_div_succ i.den hvalue).trans_le
        (by rw [mul_comm]; exact Nat.mul_le_mul_right _ hl)
    rw [show (1 : Int) - len - 1 = -(len : Int) by ring, zpow_neg, zpow_natCast,
      inv_le_iff_one_le_mul₀ (by positivity), div_mul_eq_mul_div, le_div_iff₀ hd, one_mul,
      mul_comm]
    exact_mod_cast hlt.le

theorem dropZeros_value (fuel n : Nat) (k : Int) :
    ((dropZeros fuel n k).1 : ℚ) * 10 ^ (dropZeros fuel n k).2 = n * 10 ^ k := by
  induction fuel generalizing n k with
  | zero => rfl
  | succ fuel ih =>
    rw [dropZeros]
    split
    · next h =>
      simp only [Bool.and_eq_true, decide_eq_true_eq, beq_iff_eq] at h
      have hn : (n : ℚ) = (n / 10 : ℕ) * 10 := by exact_mod_cast (by omega : n = n / 10 * 10)
      rw [ih, zpow_add₀ (by norm_num), zpow_one, hn]
      ring
    · rfl

def shortestValue (x : Binary64) : ℚ := x.shortest.1 * 10 ^ x.shortest.2

/-- Twenty grids are enough: the last is finer than an eighteenth decimal digit of the number, which
has 53 binary ones. -/
theorem exists_grid (x : Binary64) (hx : x.mantissa ≠ 0) :
    ∃ j, searchStart x.interval - 20 < j ∧ j ≤ searchStart x.interval ∧
      (x.interval.onGrid? j).isSome := by
  refine ⟨searchStart x.interval - 19, by omega, by omega, ?_⟩
  have hp : (0 : ℚ) < 2 ^ x.exponent := zpow_pos (by norm_num) _
  have hm : (x.mantissa : ℚ) < 2 ^ 53 := by exact_mod_cast x.canonical.1
  have hgap := x.lowerGap_bounds
  have hvalue : 0 < x.interval.value := by
    simp only [interval, Nat.pow_eq]
    have := Nat.pos_of_ne_zero hx
    positivity
  have hstart := pow_searchStart_le x.interval_den_pos hvalue
  rw [interval_middle, magnitude] at hstart
  apply RoundingInterval.onGrid?_isSome x.interval_den_pos
  · rw [interval_middle, interval_lowest x hx, magnitude,
      show searchStart x.interval - 19 = searchStart x.interval - 1 - 18 by ring,
      zpow_sub₀ (by norm_num), div_le_iff₀ (by positivity)]
    have h18 : (2 : ℚ) ^ 55 ≤ 10 ^ (18 : Int) := by norm_num
    have hup : (x.mantissa : ℚ) * 2 ^ x.exponent ≤ 2 ^ 53 * 2 ^ x.exponent :=
      mul_le_mul_of_nonneg_right hm.le hp.le
    have hlow : 1 / 4 * 2 ^ x.exponent ≤ x.lowerGap / 4 * 2 ^ x.exponent :=
      mul_le_mul_of_nonneg_right (by linarith) hp.le
    nlinarith
  · rw [interval_middle, interval_highest, magnitude]
    nlinarith

theorem holds_shortestValue (x : Binary64) (hx : x.mantissa ≠ 0) :
    x.interval.Holds x.shortestValue := by
  have hc := RoundingInterval.contains_search 20 _ (exists_grid x hx)
  rw [RoundingInterval.contains_iff x.interval_den_pos, ← dropZeros_value 20] at hc
  have hs : x.shortest = dropZeros 20 (x.interval.search 20 (searchStart x.interval)).1
      (x.interval.search 20 (searchStart x.interval)).2 := by
    rw [shortest, if_neg hx]
    rfl
  rw [shortestValue, hs]
  exact hc

theorem interval_open {x : Binary64} (hodd : x.mantissa % 2 = 1) : x.interval.closed = false := by
  simp [interval, hodd]

theorem not_holds_of_mantissa_lt {x y : Binary64} (hy : y.mantissa ≠ 0)
    (he : x.exponent = y.exponent) (hm : x.mantissa < y.mantissa) {r : ℚ}
    (h : x.interval.Holds r) : ¬ y.interval.Holds r := by
  intro h'
  have hp : (0 : ℚ) < 2 ^ y.exponent := zpow_pos (by norm_num) _
  have hgap := y.lowerGap_bounds
  have hhigh : r ≤ (x.mantissa + 1 / 2) * 2 ^ y.exponent := by
    rw [← he, ← interval_highest]
    exact h.bounds.2
  have hlow : (y.mantissa - 1 / 2) * 2 ^ y.exponent ≤ r := by
    have hb := h'.bounds.1
    rw [interval_lowest y hy] at hb
    nlinarith
  by_cases hnext : y.mantissa = x.mantissa + 1
  · -- Neighbours meet in one point, and the odd one of them does not have it.
    have hcast : (y.mantissa : ℚ) = x.mantissa + 1 := by exact_mod_cast hnext
    have hodd : x.mantissa % 2 = 1 ∨ y.mantissa % 2 = 1 := by omega
    rcases hodd with hodd | hodd
    · have hs := (h.strict (interval_open hodd)).2
      rw [interval_highest, he] at hs
      nlinarith
    · have hs := (h'.strict (interval_open hodd)).1
      rw [interval_lowest y hy] at hs
      nlinarith
  · have hcast : (x.mantissa : ℚ) + 2 ≤ y.mantissa := by
      exact_mod_cast (by omega : x.mantissa + 2 ≤ y.mantissa)
    nlinarith

theorem not_holds_of_exponent_lt {x y : Binary64} (he : x.exponent < y.exponent) {r : ℚ}
    (h : x.interval.Holds r) : ¬ y.interval.Holds r := by
  intro h'
  obtain ⟨hmx, hex, -, -⟩ := x.canonical
  rw [Nat.pow_eq] at hmx
  have hnormal : 2 ^ 52 ≤ y.mantissa := by
    rcases y.canonical.2.2.2 with hleast | hnormal
    · omega
    · exact hnormal
  have hp : (0 : ℚ) < 2 ^ x.exponent := zpow_pos (by norm_num) _
  have hstep : (2 : ℚ) * 2 ^ x.exponent ≤ 2 ^ y.exponent := by
    rw [← zpow_one_add₀ (by norm_num)]
    exact zpow_le_zpow_right₀ (by norm_num) (by omega)
  have hmy : (2 : ℚ) ^ 52 - 1 / 4 ≤ y.mantissa - y.lowerGap / 4 := by
    unfold lowerGap
    split
    · next hc => rw [hc.1]; norm_num
    · next hc =>
      have hne : y.mantissa ≠ 2 ^ 52 := fun hm => hc ⟨hm, by omega⟩
      have hcast : (2 : ℚ) ^ 52 + 1 ≤ y.mantissa := by
        exact_mod_cast (by omega : 2 ^ 52 + 1 ≤ y.mantissa)
      linarith
  have hlow : (2 ^ 53 - 1 / 2) * 2 ^ x.exponent ≤ r := by
    have hb := h'.bounds.1
    rw [interval_lowest y (by omega)] at hb
    have hmul : (2 ^ 52 - 1 / 4 : ℚ) * (2 * 2 ^ x.exponent) ≤
        (y.mantissa - y.lowerGap / 4) * 2 ^ y.exponent := by gcongr
    linarith
  have hhigh := h.bounds.2
  rw [interval_highest] at hhigh
  by_cases hlast : x.mantissa = 2 ^ 53 - 1
  · have hs := (h.strict (interval_open (by omega))).2
    rw [interval_highest, hlast] at hs
    push_cast at hs
    linarith
  · have hcast : (x.mantissa : ℚ) ≤ 2 ^ 53 - 2 := by
      rw [le_sub_iff_add_le]
      exact_mod_cast (by omega : x.mantissa + 2 ≤ 2 ^ 53)
    nlinarith

theorem eq_of_holds {x y : Binary64} (hx : x.mantissa ≠ 0) (hy : y.mantissa ≠ 0) {r : ℚ}
    (h : x.interval.Holds r) (h' : y.interval.Holds r) :
    x.mantissa = y.mantissa ∧ x.exponent = y.exponent := by
  rcases lt_trichotomy x.exponent y.exponent with he | he | he
  · exact absurd h' (not_holds_of_exponent_lt he h)
  · rcases lt_trichotomy x.mantissa y.mantissa with hm | hm | hm
    · exact absurd h' (not_holds_of_mantissa_lt hy he hm h)
    · exact ⟨hm, he⟩
    · exact absurd h (not_holds_of_mantissa_lt hx he.symm hm h')
  · exact absurd h (not_holds_of_exponent_lt he h')

theorem shortestValue_zero {x : Binary64} (hx : x.mantissa = 0) : x.shortestValue = 0 := by
  simp [shortestValue, shortest, hx]

theorem shortestValue_pos {x : Binary64} (hx : x.mantissa ≠ 0) : 0 < x.shortestValue := by
  have hb := (holds_shortestValue x hx).bounds.1
  rw [interval_lowest x hx] at hb
  have hgap := x.lowerGap_bounds
  have hm : (1 : ℚ) ≤ x.mantissa := by exact_mod_cast Nat.one_le_iff_ne_zero.mpr hx
  exact lt_of_lt_of_le (mul_pos (by linarith) (zpow_pos (by norm_num) _)) hb

/-- No two numbers share their shortest decimal, but for the two zeros. -/
theorem eq_of_shortestValue_eq {x y : Binary64} (hs : x.negative = y.negative)
    (h : x.shortestValue = y.shortestValue) : x = y := by
  have hboth : x.mantissa = y.mantissa ∧ x.exponent = y.exponent := by
    by_cases hx : x.mantissa = 0
    · by_cases hy : y.mantissa = 0
      · have ex := x.canonical.2.2.2
        have ey := y.canonical.2.2.2
        rw [Nat.pow_eq] at ex ey
        omega
      · exact absurd h (by rw [shortestValue_zero hx]; exact (shortestValue_pos hy).ne)
    · by_cases hy : y.mantissa = 0
      · exact absurd h (by rw [shortestValue_zero hy]; exact (shortestValue_pos hx).ne')
      · exact eq_of_holds hx hy (holds_shortestValue x hx) (h ▸ holds_shortestValue y hy)
  cases x
  cases y
  simp_all

end Binary64

end ApiBindings.Number
