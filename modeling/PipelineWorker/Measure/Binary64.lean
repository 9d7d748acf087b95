/-
Positive numbers of the 64-bit binary floating-point format, in exact arithmetic.

A `Binary64` is a mantissa and a power of two.  Every operation computes the exact quotient or
product and rounds it once: to 53 significant bits, a tie going to the even mantissa.  Numbers
near the ends of the format's range (overflow, subnormals) do not occur here and are not
represented.

* `roundDiv_mul_le`, `mul_roundDiv_le` — rounding is off by at most half a unit;
* `roundDiv_of_dvd` — an exact quotient stays what it is.
-/

namespace PipelineWorker

/-- The quotient nearest to `num / den`; of two nearest ones the even one. -/
def roundDiv (num den : Nat) : Nat :=
  let q := num / den
  let r := num % den
  if 2 * r < den then q
  else if den < 2 * r then q + 1
  else if q % 2 = 0 then q
  else q + 1

theorem roundDiv_mul_le (num : Nat) {den : Nat} (h : 0 < den) :
    2 * (roundDiv num den * den) ≤ 2 * num + den := by
  have hn := Nat.div_add_mod num den
  have hr := Nat.mod_lt num h
  rw [Nat.mul_comm] at hn
  unfold roundDiv
  simp only
  split
  · omega
  · split
    · rw [Nat.add_mul]; omega
    · split
      · omega
      · rw [Nat.add_mul]; omega

theorem mul_roundDiv_le (num : Nat) {den : Nat} (h : 0 < den) :
    2 * num ≤ 2 * (roundDiv num den * den) + den := by
  have hn := Nat.div_add_mod num den
  have hr := Nat.mod_lt num h
  rw [Nat.mul_comm] at hn
  unfold roundDiv
  simp only
  split
  · omega
  · split
    · rw [Nat.add_mul]; omega
    · split
      · omega
      · rw [Nat.add_mul]; omega

theorem roundDiv_of_dvd {num den : Nat} (h : den ∣ num) (hpos : 0 < den) :
    roundDiv num den = num / den := by
  simp [roundDiv, Nat.mod_eq_zero_of_dvd h, hpos]

/-- The number `mantissa * 2 ^ exponent`. -/
structure Binary64 where
  mantissa : Nat
  exponent : Int
  deriving DecidableEq, Repr, Inhabited

namespace Binary64

/-- Significant bits of the format. -/
def precision : Nat := 53

/-- Numerator of the number as a fraction in powers of two. -/
def num (x : Binary64) : Nat := x.mantissa <<< x.exponent.toNat

/-- Denominator of the number as a fraction in powers of two. -/
def den (x : Binary64) : Nat := 1 <<< (-x.exponent).toNat

/-- The quotient `a / b` scaled by `2 ^ -e` and rounded to a whole mantissa. -/
def scaled (a b : Nat) (e : Int) : Nat :=
  roundDiv (a <<< (-e).toNat) (b <<< e.toNat)

/-- The exponent at which `a / b` has exactly `precision` bits before the point. -/
def exponentOf (a b : Nat) : Int :=
  let e := (a.log2 : Int) - b.log2 - (precision - 1 : Nat)
  -- The quotient of the leading bits may be one bit short.
  if a <<< (-e).toNat < b <<< (e.toNat + (precision - 1)) then e - 1 else e

/-- The number of the format nearest to `a / b`. -/
def ofRatio (a b : Nat) : Binary64 :=
  if a = 0 then ⟨0, 0⟩ else ⟨scaled a b (exponentOf a b), exponentOf a b⟩

/-- The number of the format nearest to `n`. -/
def ofNat (n : Nat) : Binary64 := ofRatio n 1

/-- The rounded product. -/
def mul (x y : Binary64) : Binary64 := ofRatio (x.num * y.num) (x.den * y.den)

/-- The rounded quotient. -/
def div (x y : Binary64) : Binary64 := ofRatio (x.num * y.den) (x.den * y.num)

/-- The least whole number that is not below. -/
def ceil (x : Binary64) : Nat := (x.num + x.den - 1) / x.den

end Binary64

end PipelineWorker
