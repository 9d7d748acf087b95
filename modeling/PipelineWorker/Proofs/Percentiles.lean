/-
Which samples a report picks.

A percentile of `n` samples is the one of nearest rank: the share of `n`, rounded up.  The rank is
computed in floating-point arithmetic, where the share is off by a little and the product is rounded.
Where the exact rank is no whole number before it is rounded up, that is too little to matter.  Where
it is one, rounding takes the error back if it is less than half of the last place.

* `nearestRank`, `excess` — the exact rank, and how far off the share is;
* `rank_of_not_dvd`, `rank_of_dvd` — the computed rank in both cases;
* `rank_eq` — **the computed rank is the nearest rank, and one more for the last percentile at the
  counts that `Overshoots` tells**;
* `reports_percentiles` — **what a report says of its samples**.
-/
import Mathlib.Data.Nat.GCD.Basic
import PipelineWorker.Measure.Stats
import PipelineWorker.Proofs.Rounding

namespace PipelineWorker

open Binary64

namespace Percentile

/-! ### Shares -/

/-- Numerator of the share of the samples. -/
def shareNum : Percentile → ℕ
  | p50 => 1
  | p90 => 9
  | p99 => 99
  | p999 => 999

/-- Denominator of the share of the samples. -/
def shareDen : Percentile → ℕ
  | p50 => 2
  | p90 => 10
  | p99 => 100
  | p999 => 1000

/-- The rank in exact arithmetic, counted from one. -/
def nearestRank (p : Percentile) (n : ℕ) : ℕ := ⌈(p.shareNum * n : ℚ) / p.shareDen⌉₊

/-- How far off the numerator of the share is, in units of `2 ^ -53`. -/
def excess : Percentile → ℤ
  | p50 => 0
  | p90 => 2
  | p99 => -8
  | p999 => 992

variable (p : Percentile) {n : ℕ}

/-- The share, as it comes out of the division by one hundred. -/
theorem value_share :
    (p.percent.div (.ofNat 100)).value = (p.shareNum + p.excess / 2 ^ 53) / p.shareDen := by
  have hfactor : p.percent.div (.ofNat 100) = ⟨match p with
      | p50 => 4503599627370496
      | p90 => 8106479329266893
      | p99 => 8917127262193582
      | p999 => 8998192055486252, -53⟩ := by
    cases p <;> decide +kernel
  rw [hfactor]
  cases p <;> norm_num [value, shareNum, shareDen, excess]

/-- The rank is the product of the share and the count, rounded and then rounded up. -/
theorem exists_rounds (hn : 0 < n) (hfew : n < 2 ^ 32) :
    ∃ x, Rounds ((p.shareNum + p.excess / 2 ^ 53) / p.shareDen * n) x ∧
      p.rank n = ⌈x.value⌉₊ := by
  refine ⟨(p.percent.div (.ofNat 100)).mul (.ofNat n), ?_, ceil_eq _⟩
  have hshare : 0 < (p.percent.div (.ofNat 100)).mantissa := by cases p <;> decide +kernel
  have hcount := value_ofNat hn (Nat.lt_trans hfew (by norm_num))
  have hmantissa : 0 < (Binary64.ofNat n).mantissa := by
    rw [Nat.pos_iff_ne_zero]
    intro hzero
    rw [value, hzero, Nat.cast_zero, zero_mul] at hcount
    exact hn.ne (by exact_mod_cast hcount)
  rw [← value_share, ← hcount]
  exact rounds_mul hshare hmantissa

/-! ### Ranks -/

/-- The number that is rounded up differs from the share by less than what the share can be short of
a whole number. -/
theorem abs_value_sub_lt {x : Binary64} (hfew : n < 2 ^ 32)
    (h : Rounds ((p.shareNum + p.excess / 2 ^ 53) / p.shareDen * n) x) :
    |x.value * p.shareDen - (p.shareNum * n : ℕ)| < 1 := by
  have hfew : (n : ℚ) < 2 ^ 32 := by exact_mod_cast hfew
  have hplace := h.lower
  obtain ⟨hlow, hhigh⟩ := abs_le.1 h.near
  rw [abs_lt]
  push_cast
  cases p <;> simp only [shareNum, shareDen, excess] at hplace hlow hhigh ⊢ <;> push_cast at * <;>
    constructor <;> linarith

/-- A number near a fraction that is not whole is rounded up to the same whole number. -/
theorem ceil_eq_of_near {y : ℚ} {a d : ℕ} (hd : 0 < d) (ha : ¬ d ∣ a) (h : |y * d - a| < 1) :
    ⌈y⌉₊ = ⌈(a : ℚ) / d⌉₊ := by
  have hpos : (0 : ℚ) < d := Nat.cast_pos.2 hd
  obtain ⟨hlow, hhigh⟩ := abs_lt.1 h
  refine eq_of_forall_ge_iff fun k => ?_
  rw [Nat.ceil_le, Nat.ceil_le, div_le_iff₀ hpos]
  constructor
  · intro hy
    have : (a : ℚ) < k * d + 1 := by nlinarith
    have : a < k * d + 1 := by exact_mod_cast this
    exact_mod_cast Nat.lt_succ_iff.1 this
  · intro hle
    have hle : a ≤ k * d := by exact_mod_cast hle
    have hne : a ≠ k * d := fun heq => ha ⟨k, by rw [heq, mul_comm]⟩
    have hlt : (a : ℚ) + 1 ≤ k * d := by exact_mod_cast lt_of_le_of_ne hle hne
    exact le_of_mul_le_mul_right (by linarith) hpos

theorem shareDen_pos : 0 < p.shareDen := by cases p <;> decide

/-- Where the exact rank had to be rounded up, the computed one is the same. -/
theorem rank_of_not_dvd (hn : 0 < n) (hfew : n < 2 ^ 32) (h : ¬ p.shareDen ∣ n) :
    p.rank n = p.nearestRank n := by
  obtain ⟨x, hx, hrank⟩ := p.exists_rounds hn hfew
  have hcoprime : p.shareDen.Coprime p.shareNum := by cases p <;> decide
  have hwhole : ¬ p.shareDen ∣ p.shareNum * n := fun hdvd => h (hcoprime.dvd_of_dvd_mul_left hdvd)
  rw [hrank, nearestRank, ← Nat.cast_mul]
  exact ceil_eq_of_near p.shareDen_pos hwhole (p.abs_value_sub_lt hfew hx)

/-- What is rounded up where the exact rank is the whole number `v`. -/
theorem share_mul (m : ℕ) :
    (p.shareNum + p.excess / 2 ^ 53) / p.shareDen * (p.shareDen * m : ℕ)
      = ((p.shareNum * m : ℕ) : ℚ) + (p.excess * m : ℤ) / 2 ^ 53 := by
  have hden : (p.shareDen : ℚ) ≠ 0 := Nat.cast_ne_zero.2 p.shareDen_pos.ne'
  push_cast
  field_simp

/-- Where the exact rank is a whole number, the computed one is one more if the share is too large
by more than rounding takes back. -/
theorem rank_of_dvd {m : ℕ} (hm : 0 < m) (hfew : p.shareDen * m < 2 ^ 32)
    (hapart : p.excess * m ≠ 2 ^ (p.shareNum * m).log2) :
    p.rank (p.shareDen * m) =
      p.shareNum * m + if 2 ^ (p.shareNum * m).log2 < p.excess * m then 1 else 0 := by
  obtain ⟨x, hx, hrank⟩ := p.exists_rounds (Nat.mul_pos p.shareDen_pos hm) hfew
  rw [share_mul] at hx
  rw [hrank]
  refine hx.ceil_value (Nat.mul_pos ?_ hm) ?_ ?_ hapart
  · cases p <;> decide
  · cases p <;> simp only [shareNum, shareDen] at hfew ⊢ <;> omega
  · rw [abs_lt]
    cases p <;> simp only [excess, shareDen] at hfew ⊢ <;> omega

theorem nearestRank_mul (m : ℕ) : p.nearestRank (p.shareDen * m) = p.shareNum * m := by
  have hden : (p.shareDen : ℚ) ≠ 0 := Nat.cast_ne_zero.2 p.shareDen_pos.ne'
  have hwhole : (p.shareNum * (p.shareDen * m : ℕ) : ℚ) / p.shareDen = (p.shareNum * m : ℕ) := by
    push_cast
    field_simp
  rw [nearestRank, hwhole, Nat.ceil_natCast]

/-- The counts at which the rank of the last percentile comes out one too high: its exact rank is a
whole number there, and the share of 99.9 percent is too large by more than rounding takes back. -/
def Overshoots (n : ℕ) : Prop := 1000 ∣ n ∧ 2 ^ (999 * (n / 1000)).log2 < 992 * (n / 1000)

instance : DecidablePred Overshoots := fun n =>
  inferInstanceAs (Decidable (1000 ∣ n ∧ 2 ^ (999 * (n / 1000)).log2 < 992 * (n / 1000)))

/-- Only the share of the last percentile is ever that much too large. -/
theorem pow_log2_lt_excess_iff {m : ℕ} (hm : 0 < m) :
    2 ^ (p.shareNum * m).log2 < p.excess * m ↔ p = p999 ∧ Overshoots (p.shareDen * m) := by
  have hpos : 0 < 2 ^ (p.shareNum * m).log2 := by positivity
  have hlog := Nat.lt_log2_self (n := p.shareNum * m)
  rw [pow_succ] at hlog
  cases p with
  | p999 =>
    simp only [shareNum, shareDen, excess, Overshoots, dvd_mul_right, true_and,
      Nat.mul_div_cancel_left m (show 0 < 1000 by decide)]
    exact_mod_cast Iff.rfl
  | _ =>
    simp only [shareNum, excess] at hpos hlog ⊢
    refine iff_of_false (fun hlt => ?_) (fun h => nomatch h.1)
    zify at hpos hlog
    omega

/-- It is never too large by just what rounding may take either way. -/
theorem excess_ne_pow_log2 {m : ℕ} (hm : 0 < m) :
    p.excess * m ≠ 2 ^ (p.shareNum * m).log2 := by
  have hpos : 0 < 2 ^ (p.shareNum * m).log2 := by positivity
  have hlog := Nat.lt_log2_self (n := p.shareNum * m)
  rw [pow_succ] at hlog
  intro heq
  cases p with
  | p999 =>
    -- a power of two is no multiple of 31
    simp only [shareNum, excess] at heq
    have heq : 992 * m = 2 ^ (999 * m).log2 := by exact_mod_cast heq
    have hdvd : 31 ∣ 2 ^ (999 * m).log2 := ⟨32 * m, by omega⟩
    have hcoprime : Nat.Coprime 31 (2 ^ (999 * m).log2) := Nat.Coprime.pow_right _ (by decide)
    exact absurd (hcoprime.eq_one_of_dvd hdvd) (by decide)
  | _ =>
    simp only [shareNum, excess] at hpos hlog heq
    zify at hpos hlog
    omega

/-- **The computed rank is the nearest rank, except for the last percentile at the counts where it
overshoots by one.** -/
theorem rank_eq (hn : 0 < n) (hfew : n < 2 ^ 32) :
    p.rank n = p.nearestRank n + if p = p999 ∧ Overshoots n then 1 else 0 := by
  by_cases hdvd : p.shareDen ∣ n
  · obtain ⟨m, rfl⟩ := hdvd
    have hm : 0 < m := Nat.pos_of_mul_pos_left hn
    rw [p.rank_of_dvd hm hfew (p.excess_ne_pow_log2 hm), nearestRank_mul]
    simp only [p.pow_log2_lt_excess_iff hm]
  · have hnot : ¬ (p = p999 ∧ Overshoots n) := by
      rintro ⟨rfl, hwhole, -⟩
      exact hdvd hwhole
    rw [p.rank_of_not_dvd hn hfew hdvd, if_neg hnot, add_zero]

theorem nearestRank_le_iff {k : ℕ} :
    p.nearestRank n ≤ k ↔ p.shareNum * n ≤ k * p.shareDen := by
  have hden : (0 : ℚ) < p.shareDen := Nat.cast_pos.2 p.shareDen_pos
  rw [nearestRank, Nat.ceil_le, div_le_iff₀ hden]
  exact_mod_cast Iff.rfl

theorem nearestRank_pos (hn : 0 < n) : 0 < p.nearestRank n := by
  rw [← Nat.not_le, nearestRank_le_iff]
  cases p <;> simp only [shareNum] <;> omega

/-- Ranks lie between one and the count. -/
theorem rank_pos (hn : 0 < n) (hfew : n < 2 ^ 32) : 0 < p.rank n := by
  have hnearest := p.nearestRank_pos hn
  rw [p.rank_eq hn hfew]
  omega

theorem rank_le (hn : 0 < n) (hfew : n < 2 ^ 32) : p.rank n ≤ n := by
  rw [p.rank_eq hn hfew]
  split_ifs with h
  · obtain ⟨rfl, ⟨m, rfl⟩, -⟩ := h
    have hrank := p999.nearestRank_mul m
    simp only [shareNum, shareDen] at hrank
    omega
  · rw [add_zero, nearestRank_le_iff]
    cases p <;> simp only [shareNum, shareDen] <;> omega

variable {p}

/-- A greater share has a greater rank, if it is not the overshooting one that is the smaller. -/
theorem rank_mono {q : Percentile} (hn : 0 < n) (hfew : n < 2 ^ 32) (hp : p ≠ p999)
    (hshare : p.shareNum * q.shareDen ≤ q.shareNum * p.shareDen) : p.rank n ≤ q.rank n := by
  have hq : q.shareNum * n ≤ q.nearestRank n * q.shareDen := q.nearestRank_le_iff.1 le_rfl
  have hnearest : p.nearestRank n ≤ q.nearestRank n := by
    rw [nearestRank_le_iff]
    refine Nat.le_of_mul_le_mul_right ?_ q.shareDen_pos
    calc p.shareNum * n * q.shareDen = p.shareNum * q.shareDen * n := by ring
      _ ≤ q.shareNum * p.shareDen * n := Nat.mul_le_mul_right n hshare
      _ = q.shareNum * n * p.shareDen := by ring
      _ ≤ q.nearestRank n * q.shareDen * p.shareDen := Nat.mul_le_mul_right _ hq
      _ = q.nearestRank n * p.shareDen * q.shareDen := by ring
  rw [p.rank_eq hn hfew, q.rank_eq hn hfew, if_neg fun h => hp h.1]
  omega

/-! ### The samples that are picked -/

variable {sorted : List Sample}

/-- The sample that is picked stands at its rank. -/
theorem getElem?_rank (p : Percentile) (hn : 0 < sorted.length) (hfew : sorted.length < 2 ^ 32) :
    sorted[p.rank sorted.length - 1]? = some (p.pick sorted) := by
  have hpos := p.rank_pos hn hfew
  have hle := p.rank_le hn hfew
  have hlt : p.rank sorted.length - 1 < sorted.length := by omega
  rw [pick, Nat.min_eq_left (by omega), List.getD_eq_getElem?_getD,
    List.getElem?_eq_getElem hlt, Option.getD_some]

/-- In terms of the rank in exact arithmetic. -/
theorem getElem?_nearestRank (p : Percentile) (hn : 0 < sorted.length)
    (hfew : sorted.length < 2 ^ 32) :
    sorted[p.nearestRank sorted.length - 1 +
      if p = p999 ∧ Overshoots sorted.length then 1 else 0]? = some (p.pick sorted) := by
  have hnearest := p.nearestRank_pos hn
  rw [← p.getElem?_rank hn hfew, p.rank_eq hn hfew, Nat.sub_add_comm hnearest]

end Percentile

/-- In a sorted list, what stands later is not smaller. -/
theorem le_of_getElem? {sorted : List Sample} (h : sorted.Pairwise (· ≤ ·)) {i j : ℕ} (hij : i ≤ j)
    {a b : Sample} (ha : sorted[i]? = some a) (hb : sorted[j]? = some b) : a ≤ b := by
  obtain ⟨hi, rfl⟩ := List.getElem?_eq_some_iff.1 ha
  obtain ⟨hj, rfl⟩ := List.getElem?_eq_some_iff.1 hb
  rcases Nat.lt_or_eq_of_le hij with hlt | rfl
  · exact List.pairwise_iff_getElem.1 h i j hi hj hlt
  · exact UInt64.le_refl _

/-! ### Reports -/

/-- What a report says of its samples: percentiles by nearest rank in exact arithmetic, counted from
one, apart from the last one where its rank overshoots. -/
structure Stats.Reports (stats : Stats) (samples sorted : List Sample) : Prop where
  perm : sorted.Perm samples
  ascending : sorted.Pairwise (· ≤ ·)
  min : sorted.head? = some stats.min
  p50 : sorted[⌈(samples.length / 2 : ℚ)⌉₊ - 1]? = some stats.p50
  p90 : sorted[⌈(9 * samples.length / 10 : ℚ)⌉₊ - 1]? = some stats.p90
  p99 : sorted[⌈(99 * samples.length / 100 : ℚ)⌉₊ - 1]? = some stats.p99
  p999 : sorted[⌈(999 * samples.length / 1000 : ℚ)⌉₊ - 1 +
    if Percentile.Overshoots samples.length then 1 else 0]? = some stats.p999
  max : sorted.getLast? = some stats.max
  monotone : stats.min ≤ stats.p50 ∧ stats.p50 ≤ stats.p90 ∧ stats.p90 ≤ stats.p99 ∧
    stats.p99 ≤ stats.p999 ∧ stats.p999 ≤ stats.max

/-- There is a report on any samples, and each figure is taken from the sorted ones. -/
theorem exists_ofSamples {samples : List Sample} (hne : samples ≠ []) :
    ∃ stats, Stats.ofSamples samples = .ok (sortedSamples samples, stats) ∧
      (sortedSamples samples).head? = some stats.min ∧
      (sortedSamples samples).getLast? = some stats.max ∧
      stats.p50 = Percentile.p50.pick (sortedSamples samples) ∧
      stats.p90 = Percentile.p90.pick (sortedSamples samples) ∧
      stats.p99 = Percentile.p99.pick (sortedSamples samples) ∧
      stats.p999 = Percentile.p999.pick (sortedSamples samples) := by
  have hsorted : sortedSamples samples ≠ [] := by
    intro hnil
    have hperm := perm_sortedSamples samples
    rw [hnil] at hperm
    exact hne hperm.nil_eq.symm
  rw [Stats.ofSamples]
  obtain ⟨least, rest, hcons⟩ := List.exists_cons_of_ne_nil hsorted
  rw [hcons]
  exact ⟨_, rfl, rfl, rfl, rfl, rfl, rfl, rfl⟩

/-- **A report is right about its samples, except that the last percentile is one sample too high at
the counts where its rank overshoots.** -/
theorem reports_percentiles (samples : List Sample) (hne : samples ≠ [])
    (hfew : samples.length < 2 ^ 32) :
    ∃ sorted stats, Stats.ofSamples samples = .ok (sorted, stats) ∧
      stats.Reports samples sorted := by
  obtain ⟨stats, hok, hmin, hmax, h50, h90, h99, h999⟩ := exists_ofSamples hne
  have hperm := perm_sortedSamples samples
  have hascending := sorted_sortedSamples samples
  generalize sortedSamples samples = sorted at hok hmin hmax h50 h90 h99 h999 hperm hascending
  have hlength := hperm.length_eq
  have hpos : 0 < sorted.length := by
    rw [hlength]
    exact List.length_pos_of_ne_nil hne
  rw [← hlength] at hfew
  have hrank (p : Percentile) := p.getElem?_rank hpos hfew
  have hnearest (p : Percentile) := p.getElem?_nearestRank hpos hfew
  have hhead : sorted[0]? = some stats.min := by rw [← List.head?_eq_getElem?, hmin]
  have hlast : sorted[sorted.length - 1]? = some stats.max := by
    rw [← List.getLast?_eq_getElem?, hmax]
  simp only [Percentile.nearestRank, hlength] at hnearest
  refine ⟨sorted, stats, hok, hperm, hascending, hmin, ?_, ?_, ?_, ?_, hmax, ?_⟩
  · simpa [Percentile.shareNum, Percentile.shareDen, h50] using hnearest .p50
  · simpa [Percentile.shareNum, Percentile.shareDen, h90] using hnearest .p90
  · simpa [Percentile.shareNum, Percentile.shareDen, h99] using hnearest .p99
  · simpa [Percentile.shareNum, Percentile.shareDen, h999] using hnearest .p999
  · rw [h50, h90, h99, h999]
    have hle {p q : Percentile} (hp : p ≠ .p999)
        (hshare : p.shareNum * q.shareDen ≤ q.shareNum * p.shareDen) :
        p.pick sorted ≤ q.pick sorted := by
      have hmono := Percentile.rank_mono hpos hfew hp hshare
      exact le_of_getElem? hascending (by omega) (hrank p) (hrank q)
    have hend := Percentile.p999.rank_le hpos hfew
    exact ⟨le_of_getElem? hascending (Nat.zero_le _) hhead (hrank .p50),
      hle (by decide) (by decide), hle (by decide) (by decide), hle (by decide) (by decide),
      le_of_getElem? hascending (by omega) (hrank .p999) hlast⟩

/-- A thousand samples in descending order. -/
theorem reports_percentiles_thousand :
    let samples : List Sample := (List.range 1000).map fun k => UInt64.ofNat (1000 - k)
    samples ≠ [] ∧ samples.length < 2 ^ 32 ∧
      ∃ sorted stats, Stats.ofSamples samples = .ok (sorted, stats) ∧
        stats.Reports samples sorted := by
  intro samples
  have hne : samples ≠ [] := by simp [samples]
  have hfew : samples.length < 2 ^ 32 := by simp [samples]
  exact ⟨hne, hfew, reports_percentiles samples hne hfew⟩

/-- Of the samples 1 to 1000 the one of nearest rank for 99.9 percent is 999, and 1000 is
reported. -/
theorem overshoots_at_thousand :
    let samples : List Sample := (List.range 1000).map fun k => UInt64.ofNat (k + 1)
    ∃ sorted stats, Stats.ofSamples samples = .ok (sorted, stats) ∧
      sorted[⌈(999 * samples.length / 1000 : ℚ)⌉₊ - 1]? = some 999 ∧ stats.p999 = 1000 := by
  intro samples
  have hne : samples ≠ [] := by simp [samples]
  have hlength : samples.length = 1000 := by simp [samples]
  have hsorted : sortedSamples samples = samples := by
    have hnat {k : ℕ} (hk : k ∈ List.range 1000) : (UInt64.ofNat (k + 1)).toNat = k + 1 :=
      UInt64.toNat_ofNat_of_lt'
        (Nat.lt_trans (Nat.succ_lt_succ (List.mem_range.1 hk)) (by decide))
    refine List.mergeSort_of_pairwise (List.pairwise_map.2 ?_)
    refine List.pairwise_lt_range.imp_of_mem fun {i j} hi hj hij => ?_
    rw [decide_eq_true_eq, UInt64.le_iff_toNat_le, hnat hi, hnat hj]
    omega
  obtain ⟨stats, hok, -, -, -, -, -, hlast⟩ := exists_ofSamples hne
  rw [hsorted] at hok hlast
  have hrank : Percentile.p999.rank 1000 = 1000 := by decide +kernel
  refine ⟨samples, stats, hok, ?_, ?_⟩
  · rw [hlength]
    norm_num [samples]
    rfl
  · rw [hlast, Percentile.pick, hlength, hrank]
    simp [samples]

end PipelineWorker
