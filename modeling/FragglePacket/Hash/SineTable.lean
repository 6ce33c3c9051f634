import Mathlib.Analysis.Complex.Exponential
import Mathlib.Analysis.Complex.Trigonometric
import Mathlib.NumberTheory.Zsqrtd.GaussianInt
import Mathlib.Tactic.FieldSimp
import FragglePacket.Hash.Md5

/-! The table of MD5 is the one that RFC 1321 defines by the sine. A partial sum of the
exponential series is a Gaussian integer over a factorial, and its powers are near those of
`exp i`. -/

namespace FragglePacket.Hash

open GaussianInt (toComplex)

/-- The numerator of the partial sum, over the factorial of its last exponent. -/
def taylor : Nat → GaussianInt
  | 0 => 0
  | n + 1 => n * taylor n + ⟨0, 1⟩ ^ n

/-- The entry is the integer part of `2 ^ 32` times the sine of the power's argument, with room
for an error of `2 ^ -60` to both sides. -/
def entryFits (n entry : Nat) : Bool :=
  let sine := (taylor 34 ^ n).im.natAbs
  let scale := Nat.factorial 33 ^ n
  decide ((entry * 2 ^ 28 + 1) * scale ≤ 2 ^ 60 * sine ∧
    2 ^ 60 * sine + scale < (entry + 1) * 2 ^ 28 * scale)

theorem sineTable_fits : ∀ i < 64, entryFits (i + 1) (sineTable.getD i 0).toNat = true := by
  decide +kernel

section Series

theorem sum_eq_taylor (n : Nat) :
    ∑ m ∈ Finset.range (n + 1), Complex.I ^ m / m.factorial =
      (taylor (n + 1) : ℂ) / n.factorial := by
  have unit : toComplex ⟨0, 1⟩ = Complex.I := by simp [GaussianInt.toComplex_def]
  induction n with
  | zero => simp [taylor]
  | succ n ih =>
    have step : (taylor (n + 1 + 1) : ℂ) = (n + 1) * taylor (n + 1) + Complex.I ^ (n + 1) := by
      rw [taylor, map_add, map_mul, map_pow, unit, map_natCast, Nat.cast_succ]
    have pos : (n.factorial : ℂ) ≠ 0 := by exact_mod_cast n.factorial_ne_zero
    have next : (n : ℂ) + 1 ≠ 0 := by exact_mod_cast n.succ_ne_zero
    rw [Finset.sum_range_succ, ih, step, Nat.factorial_succ]
    push_cast
    field_simp

/-- How far the powers of a unit and of a number near it are apart. -/
theorem norm_pow_sub_pow {z w : ℂ} {ε : ℝ} (unit : ‖z‖ = 1) (small : ‖w‖ ≤ 2) (near : ‖z - w‖ ≤ ε)
    (n : Nat) :
    ‖z ^ n - w ^ n‖ ≤ (2 ^ n - 1) * ε := by
  induction n with
  | zero => simp
  | succ n ih =>
    have split : z ^ (n + 1) - w ^ (n + 1) = (z ^ n - w ^ n) * w + z ^ n * (z - w) := by ring
    have power : ‖z ^ n‖ = 1 := by rw [Complex.norm_pow, unit, one_pow]
    calc ‖z ^ (n + 1) - w ^ (n + 1)‖
        ≤ ‖z ^ n - w ^ n‖ * ‖w‖ + ‖z ^ n‖ * ‖z - w‖ := by
          rw [split, ← Complex.norm_mul, ← Complex.norm_mul]
          exact norm_add_le _ _
      _ ≤ (2 ^ n - 1) * ε * 2 + 1 * ε := by
          rw [power]
          gcongr
          exact (norm_nonneg _).trans ih
      _ = (2 ^ (n + 1) - 1) * ε := by ring

theorem exp_near_taylor :
    ‖Complex.exp Complex.I - (taylor 34 : ℂ) / Nat.factorial 33‖ ≤ 1 / 2 ^ 124 := by
  have bound := Complex.exp_bound (x := Complex.I) (by simp) (show 0 < 34 by decide)
  rw [sum_eq_taylor] at bound
  refine bound.trans ?_
  simp only [Complex.norm_I, one_pow, one_mul]
  norm_num [Nat.factorial]

theorem sin_near (n : Nat) (small : n ≤ 64) :
    |Real.sin n - (taylor 34 ^ n).im / (Nat.factorial 33 : ℝ) ^ n| ≤ 1 / 2 ^ 60 := by
  have unit : ‖Complex.exp Complex.I‖ = 1 := by
    have circle := Complex.norm_exp_ofReal_mul_I 1
    rwa [Complex.ofReal_one, one_mul] at circle
  have near := exp_near_taylor
  have norm : ‖(taylor 34 : ℂ) / Nat.factorial 33‖ ≤ 2 := by
    have sum := norm_sub_le (Complex.exp Complex.I)
      (Complex.exp Complex.I - (taylor 34 : ℂ) / Nat.factorial 33)
    rw [sub_sub_cancel, unit] at sum
    have tiny : (1 : ℝ) / 2 ^ 124 ≤ 1 := by norm_num
    linarith
  have powers := norm_pow_sub_pow unit norm near n
  have sine : (Complex.exp Complex.I ^ n).im = Real.sin n := by
    rw [← Complex.exp_nat_mul, ← Complex.exp_ofReal_mul_I_im, Complex.ofReal_natCast]
  have part : (((taylor 34 : ℂ) / Nat.factorial 33) ^ n).im =
      (taylor 34 ^ n).im / (Nat.factorial 33 : ℝ) ^ n := by
    rw [div_pow, ← map_pow, ← Nat.cast_pow, Complex.div_natCast_im, ← GaussianInt.intCast_im,
      Nat.cast_pow]
  calc |Real.sin n - (taylor 34 ^ n).im / (Nat.factorial 33 : ℝ) ^ n|
      = |(Complex.exp Complex.I ^ n - ((taylor 34 : ℂ) / Nat.factorial 33) ^ n).im| := by
        rw [Complex.sub_im, sine, part]
    _ ≤ (2 ^ n - 1) * (1 / 2 ^ 124) := (Complex.abs_im_le_norm _).trans powers
    _ ≤ 2 ^ 64 * (1 / 2 ^ 124) := by
        have larger : (2 : ℝ) ^ n ≤ 2 ^ 64 := pow_le_pow_right₀ (by norm_num) small
        gcongr
        linarith
    _ = 1 / 2 ^ 60 := by norm_num

end Series

/-- A number that is near enough to a quotient well inside the entry's range. -/
theorem floor_of_near {x quotient : ℝ} {entry : Nat} (nonneg : 0 ≤ x)
    (near : |x - quotient| ≤ 1 / 2 ^ 60) (below : (entry : ℝ) * 2 ^ 28 + 1 ≤ 2 ^ 60 * quotient)
    (above : 2 ^ 60 * quotient + 1 < ((entry : ℝ) + 1) * 2 ^ 28) :
    ⌊4294967296 * x⌋₊ = entry := by
  obtain ⟨least, most⟩ := abs_le.mp near
  refine (Nat.floor_eq_iff (by positivity)).mpr ⟨?_, ?_⟩
  · norm_num at below least ⊢
    linarith
  · norm_num at above most ⊢
    linarith

/-- `T[i]` is the integer part of 4294967296 times `abs(sin(i))`. -/
theorem sineTable_sine (i : Nat) (inTable : i < 64) :
    (sineTable.getD i 0).toNat = ⌊4294967296 * |Real.sin (i + 1)|⌋₊ := by
  have fits := sineTable_fits i inTable
  simp only [entryFits, decide_eq_true_eq] at fits
  obtain ⟨lower, upper⟩ := fits
  have near := sin_near (i + 1) inTable
  generalize (sineTable.getD i 0).toNat = entry at lower upper ⊢
  generalize taylor 34 ^ (i + 1) = power at lower upper near
  generalize whole : Nat.factorial 33 ^ (i + 1) = scale at lower upper
  have pos : (0 : ℝ) < scale := by
    rw [← whole]
    positivity
  have size : (power.im.natAbs : ℝ) = |(power.im : ℝ)| := by rw [Nat.cast_natAbs, Int.cast_abs]
  have apart : |(|Real.sin (i + 1)| - |(power.im : ℝ)| / scale)| ≤ 1 / 2 ^ 60 := by
    rw [← Nat.cast_pow, whole, Nat.cast_succ] at near
    rw [← abs_of_pos pos, ← abs_div]
    exact (abs_abs_sub_abs_le _ _).trans near
  have below : (entry : ℝ) * 2 ^ 28 + 1 ≤ 2 ^ 60 * (|(power.im : ℝ)| / scale) := by
    rw [← mul_div_assoc, le_div_iff₀ pos, ← size]
    exact_mod_cast lower
  have above : 2 ^ 60 * (|(power.im : ℝ)| / scale) + 1 < ((entry : ℝ) + 1) * 2 ^ 28 := by
    rw [← mul_div_assoc, div_add_one pos.ne', div_lt_iff₀ pos, ← size]
    exact_mod_cast upper
  exact (floor_of_near (abs_nonneg _) apart below above).symm

end FragglePacket.Hash
