/-
What is rounded to 53 bits, and to what.

A `Binary64` is computed with shifts and whole quotients.  Here it is compared with the rational
number it stands for, and rounding is said without a look at how it is done: to a multiple of the
last place of the number, off by half of it at most, and in the middle between two to the even one.

* `ceil_eq` — rounding up is rounding up the number that is meant;
* `Rounds` — what it is to be a number rounded to 53 bits;
* `rounds_ofRatio` — **a quotient of whole numbers is rounded so**; `rounds_mul` for products;
* `Rounds.value_le`, `Rounds.le_value` — rounding does not go past a whole number;
* `Rounds.ceil_value` — what is rounded up next to a whole number after it was rounded;
* `value_ofNat` — whole numbers below `2 ^ 53` are what they were.
-/
import Mathlib.Algebra.Order.Floor.Semifield
import Mathlib.Data.Rat.Floor
import Mathlib.Tactic.FieldSimp
import Mathlib.Tactic.GCongr
import Mathlib.Tactic.Linarith
import Mathlib.Tactic.Positivity
import Mathlib.Tactic.Ring
import PipelineWorker.Measure.Binary64

namespace PipelineWorker

/-! ### Whole quotients -/

theorem ceil_div_eq (a : ℕ) {b : ℕ} (hb : 0 < b) : (a + b - 1) / b = ⌈(a : ℚ) / b⌉₊ := by
  have hpos : (0 : ℚ) < b := Nat.cast_pos.2 hb
  refine eq_of_forall_ge_iff fun k => ?_
  rw [Nat.ceil_le, div_le_iff₀ hpos, ← Nat.cast_mul, Nat.cast_le, ← Nat.lt_succ_iff,
    Nat.div_lt_iff_lt_mul hb, Nat.succ_mul]
  omega

theorem abs_roundDiv_sub_le (a : ℕ) {b : ℕ} (hb : 0 < b) :
    |(roundDiv a b : ℚ) - a / b| ≤ 1 / 2 := by
  have hpos : (0 : ℚ) < b := Nat.cast_pos.2 hb
  have hup : 2 * ((roundDiv a b : ℚ) * b) ≤ 2 * a + b := by exact_mod_cast roundDiv_mul_le a hb
  have hdown : 2 * (a : ℚ) ≤ 2 * (roundDiv a b * b) + b := by exact_mod_cast mul_roundDiv_le a hb
  have ha : (a : ℚ) / b * b = a := div_mul_cancel₀ _ hpos.ne'
  rw [abs_le]
  constructor <;> nlinarith

/-- In the middle between two whole numbers, the even one is taken. -/
theorem even_roundDiv {a b : ℕ} (hb : 0 < b) (h : |(roundDiv a b : ℚ) - a / b| = 1 / 2) :
    Even (roundDiv a b) := by
  have hpos : (0 : ℚ) < b := Nat.cast_pos.2 hb
  have hmiddle : 2 * (roundDiv a b * b) = 2 * a + b ∨ 2 * a = 2 * (roundDiv a b * b) + b := by
    rcases (abs_eq (by norm_num)).1 h with h | h
    · left
      field_simp at h
      have : 2 * ((roundDiv a b : ℚ) * b) = 2 * a + b := by linarith
      exact_mod_cast this
    · right
      field_simp at h
      have : 2 * (a : ℚ) = 2 * (roundDiv a b * b) + b := by linarith
      exact_mod_cast this
  have hn := Nat.div_add_mod a b
  have hr := Nat.mod_lt a hb
  rw [mul_comm] at hn
  rw [Nat.even_iff]
  unfold roundDiv at hmiddle ⊢
  simp only at hmiddle ⊢
  split_ifs at hmiddle ⊢
  · omega
  · rw [Nat.add_mul] at hmiddle
    omega
  · assumption
  · omega

namespace Binary64

/-! ### The number that is meant -/

/-- The number. -/
def value (x : Binary64) : ℚ := x.mantissa * 2 ^ x.exponent

/-- One of the two powers is one. -/
theorem two_pow_toNat (e : ℤ) : (2 : ℚ) ^ e.toNat = 2 ^ e * 2 ^ (-e).toNat := by
  rw [← zpow_natCast, ← zpow_natCast, ← zpow_add₀ (by norm_num)]
  congr 1
  omega

theorem cast_shifted (a : ℕ) (k : ℕ) : ((a <<< k : ℕ) : ℚ) = a * 2 ^ k := by
  rw [Nat.shiftLeft_eq]
  push_cast
  rfl

theorem den_pos (x : Binary64) : 0 < x.den := by
  rw [den, Nat.shiftLeft_eq]
  positivity

theorem num_div_den (x : Binary64) : (x.num : ℚ) / x.den = x.value := by
  rw [num, den, cast_shifted, cast_shifted, two_pow_toNat, value]
  field_simp
  norm_num

theorem ceil_eq (x : Binary64) : x.ceil = ⌈x.value⌉₊ := by
  rw [← num_div_den]
  exact ceil_div_eq x.num x.den_pos

/-! ### Rounding -/

/-- `x` is `q` rounded: of the multiples of its last place, whose height follows from the size of
`q`, it is the nearest, and the even one if there are two. -/
structure Rounds (q : ℚ) (x : Binary64) : Prop where
  lower : 2 ^ 52 * 2 ^ x.exponent ≤ q
  upper : q < 2 ^ 53 * 2 ^ x.exponent
  near : |x.value - q| ≤ 2 ^ x.exponent / 2
  even : |x.value - q| = 2 ^ x.exponent / 2 → Even x.mantissa

variable {a b : ℕ} {e : ℤ}

/-- Numerator and denominator shifted by an exponent are the quotient in units of that place. -/
theorem shifted_div (a b : ℕ) (e : ℤ) :
    ((a <<< (-e).toNat : ℕ) : ℚ) / ((b <<< e.toNat : ℕ) : ℚ) = a / b / 2 ^ e := by
  rw [cast_shifted, cast_shifted, two_pow_toNat e]
  field_simp

/-- What the lengths of numerator and denominator tell about a quotient. -/
theorem quotient_bounds (ha : 0 < a) (hb : 0 < b)
    (he : e = (a.log2 : ℤ) - b.log2 - (precision - 1 : ℕ)) :
    2 ^ 51 * 2 ^ e < (a / b : ℚ) ∧ (a / b : ℚ) < 2 ^ 53 * 2 ^ e := by
  have hpos : (0 : ℚ) < b := Nat.cast_pos.2 hb
  have hp : (0 : ℚ) < 2 ^ e := zpow_pos (by norm_num) e
  have hpower : (2 : ℚ) ^ e * 2 ^ 52 * 2 ^ b.log2 = 2 ^ a.log2 := by
    rw [← zpow_natCast, ← zpow_natCast, ← zpow_natCast, ← zpow_add₀ (by norm_num),
      ← zpow_add₀ (by norm_num), he]
    congr 1
    simp only [precision]
    omega
  have ha1 : (2 : ℚ) ^ a.log2 ≤ a := by exact_mod_cast Nat.log2_self_le ha.ne'
  have ha2 : (a : ℚ) < 2 ^ a.log2 * 2 := by
    rw [← pow_succ]
    exact_mod_cast Nat.lt_log2_self
  have hb1 : (2 : ℚ) ^ b.log2 ≤ b := by exact_mod_cast Nat.log2_self_le hb.ne'
  have hb2 : (b : ℚ) < 2 ^ b.log2 * 2 := by
    rw [← pow_succ]
    exact_mod_cast Nat.lt_log2_self
  rw [lt_div_iff₀ hpos, div_lt_iff₀ hpos]
  constructor
  · calc (2 : ℚ) ^ 51 * 2 ^ e * b < 2 ^ 51 * 2 ^ e * (2 ^ b.log2 * 2) := by gcongr
      _ = 2 ^ e * 2 ^ 52 * 2 ^ b.log2 := by ring
      _ ≤ a := hpower.trans_le ha1
  · calc (a : ℚ) < 2 ^ a.log2 * 2 := ha2
      _ = 2 ^ 53 * 2 ^ e * 2 ^ b.log2 := by rw [← hpower]; ring
      _ ≤ 2 ^ 53 * 2 ^ e * b := by gcongr

/-- The exponent is chosen so that 53 bits stand in front of the point. -/
theorem exponentOf_spec (ha : 0 < a) (hb : 0 < b) :
    2 ^ 52 * 2 ^ exponentOf a b ≤ (a / b : ℚ) ∧ (a / b : ℚ) < 2 ^ 53 * 2 ^ exponentOf a b := by
  obtain ⟨hlower, hupper⟩ := quotient_bounds ha hb rfl
  rw [exponentOf]
  generalize (a.log2 : ℤ) - b.log2 - (precision - 1 : ℕ) = e at hlower hupper ⊢
  have hp : (0 : ℚ) < 2 ^ e := zpow_pos (by norm_num) e
  have hshort : a <<< (-e).toNat < b <<< (e.toNat + (precision - 1)) ↔
      (a / b : ℚ) < 2 ^ 52 * 2 ^ e := by
    have hb' : (0 : ℚ) < (b <<< e.toNat : ℕ) := by
      rw [cast_shifted]
      positivity
    rw [Nat.shiftLeft_add, ← Nat.cast_lt (α := ℚ), cast_shifted _ (precision - 1),
      ← div_lt_iff₀' hb', shifted_div, div_lt_iff₀ hp, precision]
  simp only [hshort]
  split_ifs with h
  · -- one bit is missing, and the next place below makes it up
    have hhalf : (2 : ℚ) ^ e = 2 ^ (e - 1) * 2 := by
      rw [← zpow_add_one₀ (by norm_num), sub_add_cancel]
    rw [hhalf] at hlower h
    constructor <;> linarith
  · exact ⟨not_lt.1 h, hupper⟩

/-- **A quotient of whole numbers is rounded.** -/
theorem rounds_ofRatio (ha : 0 < a) (hb : 0 < b) : Rounds (a / b) (ofRatio a b) := by
  obtain ⟨hlower, hupper⟩ := exponentOf_spec ha hb
  rw [ofRatio, if_neg ha.ne']
  generalize exponentOf a b = e at hlower hupper ⊢
  have hp : (0 : ℚ) < 2 ^ e := zpow_pos (by norm_num) e
  have hb' : 0 < b <<< e.toNat := by
    rw [Nat.shiftLeft_eq]
    positivity
  have hdistance : |(⟨scaled a b e, e⟩ : Binary64).value - a / b| =
      |(scaled a b e : ℚ) - (a <<< (-e).toNat : ℕ) / (b <<< e.toNat : ℕ)| * 2 ^ e := by
    rw [shifted_div, ← abs_of_pos hp, ← abs_mul, abs_of_pos hp, sub_mul, div_mul_cancel₀ _ hp.ne',
      value]
  refine ⟨hlower, hupper, ?_, fun h => ?_⟩
  · rw [hdistance]
    have := abs_roundDiv_sub_le (a <<< (-e).toNat) hb'
    calc _ ≤ 1 / 2 * (2 : ℚ) ^ e := by gcongr; exact this
      _ = 2 ^ e / 2 := by ring
  · rw [hdistance] at h
    refine even_roundDiv hb' ?_
    have : |(scaled a b e : ℚ) - (a <<< (-e).toNat : ℕ) / (b <<< e.toNat : ℕ)| * 2 ^ e
        = 1 / 2 * 2 ^ e := by rw [h]; ring
    exact mul_right_cancel₀ hp.ne' this

/-- A product is rounded. -/
theorem rounds_mul {x y : Binary64} (hx : 0 < x.mantissa) (hy : 0 < y.mantissa) :
    Rounds (x.value * y.value) (x.mul y) := by
  have hnum {z : Binary64} (hz : 0 < z.mantissa) : 0 < z.num := by
    rw [num, Nat.shiftLeft_eq]
    positivity
  rw [← num_div_den, ← num_div_den, div_mul_div_comm, ← Nat.cast_mul, ← Nat.cast_mul]
  exact rounds_ofRatio (Nat.mul_pos (hnum hx) (hnum hy)) (Nat.mul_pos x.den_pos y.den_pos)

/-! ### Rounding and whole numbers -/

namespace Rounds

variable {q : ℚ} {x : Binary64} {v : ℕ}

theorem place_pos (x : Binary64) : (0 : ℚ) < 2 ^ x.exponent := zpow_pos (by norm_num) _

/-- Below `2 ^ 53` the last place is not in front of the point. -/
theorem exponent_nonpos (h : Rounds q x) (hq : q < 2 ^ 53) : x.exponent ≤ 0 := by
  have hlt : (2 : ℚ) ^ x.exponent < 2 ^ (1 : ℤ) := by
    have := h.lower
    rw [zpow_one]
    linarith
  have := (zpow_lt_zpow_iff_right₀ (by norm_num)).1 hlt
  omega

/-- So that whole numbers are multiples of it. -/
theorem exists_multiple (h : Rounds q x) (hq : q < 2 ^ 53) (v : ℕ) :
    ∃ k : ℕ, (v : ℚ) = k * 2 ^ x.exponent := by
  have he := h.exponent_nonpos hq
  refine ⟨v * 2 ^ (-x.exponent).toNat, ?_⟩
  have hone := two_pow_toNat x.exponent
  rw [Int.toNat_of_nonpos he, pow_zero] at hone
  push_cast
  rw [mul_assoc, mul_comm ((2 : ℚ) ^ (-x.exponent).toNat), ← hone, mul_one]

/-- A multiple that is less than one place above another is not above it. -/
theorem multiple_le {k m : ℕ} {place : ℚ} (hp : 0 < place) (hlt : k * place < m * place + place) :
    k * place ≤ m * place := by
  have hkm : (k : ℚ) < m + 1 := by
    refine lt_of_mul_lt_mul_right ?_ hp.le
    rw [add_mul, one_mul]
    exact hlt
  have hkm : k < m + 1 := by exact_mod_cast hkm
  have hkm : (k : ℚ) ≤ m := Nat.cast_le.2 (Nat.lt_succ_iff.1 hkm)
  gcongr

/-- What is less than one place above a whole number is not above it. -/
theorem le_of_lt_add (h : Rounds q x) (hq : q < 2 ^ 53) (hlt : x.value < v + 2 ^ x.exponent) :
    x.value ≤ v := by
  obtain ⟨k, hk⟩ := h.exists_multiple hq v
  rw [value, hk] at hlt ⊢
  exact multiple_le (place_pos x) hlt

/-- What is less than one place below a whole number is not below it. -/
theorem le_of_sub_lt (h : Rounds q x) (hq : q < 2 ^ 53) (hlt : v - 2 ^ x.exponent < x.value) :
    v ≤ x.value := by
  obtain ⟨k, hk⟩ := h.exists_multiple hq v
  rw [value, hk] at hlt ⊢
  exact multiple_le (place_pos x) (sub_lt_iff_lt_add.1 hlt)

/-- Rounding does not go past a whole number from below. -/
theorem value_le (h : Rounds q x) (hq : q < 2 ^ 53) (hv : q ≤ v) : x.value ≤ v := by
  have hp := place_pos x
  have hnear := (abs_le.1 h.near).2
  exact h.le_of_lt_add hq (by linarith)

/-- Rounding does not go past a whole number from above. -/
theorem le_value (h : Rounds q x) (hq : q < 2 ^ 53) (hv : v ≤ q) : v ≤ x.value := by
  have hp := place_pos x
  have hnear := (abs_le.1 h.near).1
  exact h.le_of_sub_lt hq (by linarith)

/-- A whole number that is nearer than half a place is rounded to. -/
theorem value_eq (h : Rounds q x) (hq : q < 2 ^ 53) (hv : v ≤ q)
    (hnear : q - v < 2 ^ x.exponent / 2) : x.value = v := by
  have := (abs_le.1 h.near).2
  exact le_antisymm (h.le_of_lt_add hq (by linarith)) (h.le_value hq hv)

/-- A whole number that is further than half a place is not rounded to. -/
theorem lt_value (h : Rounds q x) (hfar : 2 ^ x.exponent / 2 < q - v) : v < x.value := by
  have := (abs_le.1 h.near).1
  linarith

/-- The last place of a number is told by its whole part. -/
theorem place_eq (h : Rounds q x) (hpos : 0 < v) (hv : v ≤ q) (hlt : q < v + 1) :
    (2 : ℚ) ^ x.exponent = 2 ^ v.log2 / 2 ^ 52 := by
  have hp := place_pos x
  obtain ⟨j, hj⟩ : ∃ j : ℕ, x.exponent = j - 52 := by
    have hone : (1 : ℚ) ≤ v := by exact_mod_cast hpos
    have hlow : (2 : ℚ) ^ (-53 : ℤ) < 2 ^ x.exponent := by
      have := h.upper
      norm_num
      linarith
    have := (zpow_lt_zpow_iff_right₀ (by norm_num)).1 hlow
    exact ⟨(x.exponent + 52).toNat, by omega⟩
  have hplace : (2 : ℚ) ^ x.exponent = 2 ^ j / 2 ^ 52 := by
    rw [hj, zpow_sub₀ (by norm_num)]
    norm_cast
  have hlower := h.lower
  have hupper := h.upper
  rw [hplace] at hlower hupper
  have hle : 2 ^ j < v + 1 := by
    have : (2 : ℚ) ^ j < v + 1 := by linarith
    exact_mod_cast this
  have hgt : v < 2 ^ (j + 1) := by
    have : (v : ℚ) < 2 ^ (j + 1) := by
      rw [pow_succ]
      linarith
    exact_mod_cast this
  rw [hplace, (Nat.log2_eq_iff hpos.ne').2 ⟨Nat.lt_succ_iff.1 hle, hgt⟩]

/-- A number that is at most a half below a whole number is rounded up to that, rounded or not. -/
theorem ceil_of_le (h : Rounds q x) (hq : q < 2 ^ 53) (hpos : 0 < v) (hv : q ≤ v)
    (hnear : v - q < 1 / 2) : ⌈x.value⌉₊ = v := by
  have hplace : (2 : ℚ) ^ x.exponent ≤ 1 :=
    zpow_le_one_of_nonpos₀ (by norm_num) (h.exponent_nonpos hq)
  have hdown := (abs_le.1 h.near).1
  rw [Nat.ceil_eq_iff hpos.ne', Nat.cast_pred hpos]
  exact ⟨by linarith, h.value_le hq hv⟩

/-- A number that is further than half a place above a whole number is rounded up to the next. -/
theorem ceil_of_lt (h : Rounds q x) (hq : q < 2 ^ 53) (hfar : 2 ^ x.exponent / 2 < q - v)
    (hle : q ≤ v + 1) : ⌈x.value⌉₊ = v + 1 := by
  rw [Nat.ceil_eq_iff (Nat.succ_ne_zero v)]
  exact ⟨h.lt_value hfar, h.value_le hq (by push_cast; exact hle)⟩

/-- A number next to the whole number `v`, rounded and then rounded up: it is above `v` if that is
further than rounding takes back. -/
theorem ceil_value {d : ℤ} (h : Rounds (v + d / 2 ^ 53) x) (hpos : 0 < v) (hfew : v + 1 < 2 ^ 53)
    (hd : |d| < 2 ^ 52) (hapart : d ≠ 2 ^ v.log2) :
    ⌈x.value⌉₊ = v + if 2 ^ v.log2 < d then 1 else 0 := by
  obtain ⟨hdlow, hdhigh⟩ := abs_lt.1 hd
  have hdlow : -(2 : ℚ) ^ 52 < d := by exact_mod_cast hdlow
  have hdhigh : (d : ℚ) < 2 ^ 52 := by exact_mod_cast hdhigh
  have hfew : (v : ℚ) + 1 < 2 ^ 53 := by exact_mod_cast hfew
  have hq : (v : ℚ) + d / 2 ^ 53 < 2 ^ 53 := by linarith
  have hv : 0 < (2 : ℤ) ^ v.log2 := by positivity
  rcases le_or_gt d 0 with hneg | hgt
  · have hneg' : (d : ℚ) ≤ 0 := by exact_mod_cast hneg
    rw [if_neg (by omega), add_zero]
    exact h.ceil_of_le hq hpos (by linarith) (by linarith)
  · have hgt' : (0 : ℚ) < d := by exact_mod_cast hgt
    have hplace := h.place_eq hpos (by linarith) (by linarith)
    rcases lt_or_gt_of_ne hapart with hsmall | hlarge
    · have hsmall' : (d : ℚ) < 2 ^ v.log2 := by exact_mod_cast hsmall
      have hvalue : x.value = v := h.value_eq hq (by linarith) (by rw [hplace]; linarith)
      rw [if_neg (by omega), add_zero, hvalue, Nat.ceil_natCast]
    · have hlarge' : (2 : ℚ) ^ v.log2 < d := by exact_mod_cast hlarge
      rw [if_pos hlarge]
      exact h.ceil_of_lt hq (by rw [hplace]; linarith) (by linarith)

end Rounds

/-- Whole numbers of 53 bits are what they were. -/
theorem value_ofNat {n : ℕ} (hn : 0 < n) (hfew : n < 2 ^ 53) : (ofNat n).value = n := by
  have h : Rounds (n / (1 : ℕ)) (ofNat n) := rounds_ofRatio hn Nat.one_pos
  rw [Nat.cast_one, div_one] at h
  have hq : (n : ℚ) < 2 ^ 53 := by exact_mod_cast hfew
  exact le_antisymm (h.value_le hq le_rfl) (h.le_value hq le_rfl)

end Binary64

end PipelineWorker
