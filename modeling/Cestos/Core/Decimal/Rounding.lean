import Mathlib.Data.Rat.Floor
import Mathlib.Tactic.Linarith
import Mathlib.Tactic.Ring
import Mathlib.Tactic.FieldSimp
import Mathlib.Tactic.Positivity

/-!
# Rounding to a fixed number of decimals

Decimals are rationals. `quantize` rounds half to even, `numeric` rounds half
away from zero; the two agree except on ties, the numbers exactly halfway
between two neighbours on the grid. On the grid itself both are the identity,
and moving a number by a grid point moves its rounding with it.
-/

namespace Cestos.Core.Decimal

/-! ## Nearest integers -/

/-- The nearest integer, an exact half going to the even neighbour. -/
def roundHalfEven (x : ℚ) : ℤ :=
  if x - ⌊x⌋ < 1 / 2 then ⌊x⌋
  else if 1 / 2 < x - ⌊x⌋ then ⌊x⌋ + 1
  else if ⌊x⌋ % 2 = 0 then ⌊x⌋ else ⌊x⌋ + 1

/-- The nearest integer, an exact half going away from zero. -/
def roundHalfAway (x : ℚ) : ℤ :=
  if 0 ≤ x then ⌊x + 1 / 2⌋ else -⌊-x + 1 / 2⌋

/-- Exactly halfway between two integers. -/
def IsHalf (x : ℚ) : Prop := x - ⌊x⌋ = 1 / 2

instance (x : ℚ) : Decidable (IsHalf x) := inferInstanceAs (Decidable (_ = _))

theorem roundHalfEven_eq_of_lt {x : ℚ} {n : ℤ} (h₁ : (n : ℚ) - 1 / 2 < x)
    (h₂ : x < (n : ℚ) + 1 / 2) : roundHalfEven x = n := by
  unfold roundHalfEven
  rcases le_or_gt (n : ℚ) x with hn | hn
  · have hf : ⌊x⌋ = n := Int.floor_eq_iff.2 ⟨hn, by linarith⟩
    rw [hf, if_pos (by linarith)]
  · have hf : ⌊x⌋ = n - 1 := by
      refine Int.floor_eq_iff.2 ⟨?_, ?_⟩ <;> push_cast <;> linarith
    rw [hf, if_neg (by push_cast; linarith), if_pos (by push_cast; linarith)]
    ring

theorem roundHalfAway_eq_of_lt {x : ℚ} {n : ℤ} (h₁ : (n : ℚ) - 1 / 2 < x)
    (h₂ : x < (n : ℚ) + 1 / 2) : roundHalfAway x = n := by
  unfold roundHalfAway
  split
  · exact Int.floor_eq_iff.2 ⟨by linarith, by linarith⟩
  · have hf : ⌊-x + 1 / 2⌋ = -n := by
      refine Int.floor_eq_iff.2 ⟨?_, ?_⟩ <;> push_cast <;> linarith
    rw [hf, neg_neg]

@[simp] theorem roundHalfEven_intCast (n : ℤ) : roundHalfEven (n : ℚ) = n :=
  roundHalfEven_eq_of_lt (by linarith) (by linarith)

@[simp] theorem roundHalfAway_intCast (n : ℤ) : roundHalfAway (n : ℚ) = n :=
  roundHalfAway_eq_of_lt (by linarith) (by linarith)

theorem not_isHalf_iff {x : ℚ} :
    ¬ IsHalf x ↔ ∃ n : ℤ, (n : ℚ) - 1 / 2 < x ∧ x < (n : ℚ) + 1 / 2 := by
  unfold IsHalf
  have h₀ := Int.floor_le x
  have h₁ := Int.lt_floor_add_one x
  constructor
  · intro h
    rcases lt_or_gt_of_ne h with h | h
    · exact ⟨⌊x⌋, by linarith, by linarith⟩
    · exact ⟨⌊x⌋ + 1, by push_cast; linarith, by push_cast; linarith⟩
  · rintro ⟨n, hl, hr⟩ hx
    have hlow : ((n - 1 : ℤ) : ℚ) < (⌊x⌋ : ℚ) := by push_cast; linarith
    have hhigh : (⌊x⌋ : ℚ) < (n : ℚ) := by linarith
    have := Int.cast_lt.1 hlow
    have := Int.cast_lt.1 hhigh
    omega

theorem roundHalfAway_neg (x : ℚ) : roundHalfAway (-x) = -roundHalfAway x := by
  unfold roundHalfAway
  rcases lt_trichotomy x 0 with h | rfl | h
  · rw [if_pos (by linarith), if_neg (by linarith), neg_neg]
  · norm_num
  · rw [if_neg (by linarith), if_pos h.le, neg_neg]

theorem roundHalfEven_neg (x : ℚ) : roundHalfEven (-x) = -roundHalfEven x := by
  by_cases h : IsHalf x
  · -- a tie: both neighbours are known and the even one is taken on either side
    have hx : x = ⌊x⌋ + 1 / 2 := by unfold IsHalf at h; linarith
    have hfloor : ⌊-x⌋ = -⌊x⌋ - 1 := by
      refine Int.floor_eq_iff.2 ⟨?_, ?_⟩ <;> push_cast <;> linarith
    have hfrac : -x - ((-⌊x⌋ - 1 : ℤ) : ℚ) = 1 / 2 := by push_cast; linarith
    have hfrac' : x - (⌊x⌋ : ℚ) = 1 / 2 := h
    unfold roundHalfEven
    rw [hfloor, hfrac, hfrac']
    simp only [lt_irrefl, if_false]
    split <;> split <;> omega
  · obtain ⟨n, hl, hr⟩ := not_isHalf_iff.1 h
    rw [roundHalfEven_eq_of_lt hl hr]
    exact roundHalfEven_eq_of_lt (by push_cast; linarith) (by push_cast; linarith)

theorem roundHalfEven_bounds (x : ℚ) :
    x - 1 / 2 ≤ roundHalfEven x ∧ (roundHalfEven x : ℚ) ≤ x + 1 / 2 := by
  have h₀ := Int.floor_le x
  have h₁ := Int.lt_floor_add_one x
  unfold roundHalfEven
  split
  · constructor <;> linarith
  · split
    · constructor <;> push_cast <;> linarith
    · split
      · constructor <;> linarith
      · constructor <;> push_cast <;> linarith

theorem roundHalfEven_mono {x y : ℚ} (h : x ≤ y) : roundHalfEven x ≤ roundHalfEven y := by
  by_contra hlt
  have hx := roundHalfEven_bounds x
  have hy := roundHalfEven_bounds y
  have hstep : (roundHalfEven y : ℚ) + 1 ≤ roundHalfEven x := by
    exact_mod_cast Int.add_one_le_iff.2 (not_le.1 hlt)
  -- only a common tie could round apart, and equal numbers round alike
  have hxy : x = y := by linarith
  exact hlt (by rw [hxy])

theorem roundHalfAway_mono {x y : ℚ} (h : x ≤ y) : roundHalfAway x ≤ roundHalfAway y := by
  unfold roundHalfAway
  by_cases hx : 0 ≤ x
  · rw [if_pos hx, if_pos (hx.trans h)]
    exact Int.floor_le_floor (by linarith)
  · have hlow : 0 ≤ ⌊-x + 1 / 2⌋ := Int.floor_nonneg.2 (by linarith)
    rw [if_neg hx]
    split
    · have hhigh : 0 ≤ ⌊y + 1 / 2⌋ := Int.floor_nonneg.2 (by linarith)
      omega
    · exact neg_le_neg (Int.floor_le_floor (by linarith))

/-! ## Numbers with `s` decimals -/

/-- `x` has at most `s` decimals. -/
def OnGrid (s : ℕ) (x : ℚ) : Prop := ((⌊x * 10 ^ s⌋ : ℤ) : ℚ) = x * 10 ^ s

instance (s : ℕ) (x : ℚ) : Decidable (OnGrid s x) := inferInstanceAs (Decidable (_ = _))

/-- `x` lies exactly halfway between two numbers with `s` decimals. -/
def IsTie (s : ℕ) (x : ℚ) : Prop := IsHalf (x * 10 ^ s)

instance (s : ℕ) (x : ℚ) : Decidable (IsTie s x) := inferInstanceAs (Decidable (IsHalf _))

/-- Python's `Decimal.quantize` to `s` decimals with `ROUND_HALF_EVEN`. -/
def quantize (s : ℕ) (x : ℚ) : ℚ := roundHalfEven (x * 10 ^ s) / 10 ^ s

/-- What a column of `s` decimals keeps of `x`: PostgreSQL rounds half away from zero. -/
def numeric (s : ℕ) (x : ℚ) : ℚ := roundHalfAway (x * 10 ^ s) / 10 ^ s

/-- `x` fits a column of `p` digits, `s` of them decimals. -/
def Fits (p s : ℕ) (x : ℚ) : Prop := |numeric s x| < 10 ^ (p - s)

instance (p s : ℕ) (x : ℚ) : Decidable (Fits p s x) := inferInstanceAs (Decidable (_ < _))

private theorem pow_pos' (s : ℕ) : (0 : ℚ) < 10 ^ s := by positivity

theorem onGrid_iff {s : ℕ} {x : ℚ} : OnGrid s x ↔ ∃ n : ℤ, x * 10 ^ s = n := by
  constructor
  · intro h
    exact ⟨⌊x * 10 ^ s⌋, h.symm⟩
  · rintro ⟨n, hn⟩
    simp [OnGrid, hn]

theorem OnGrid.zero (s : ℕ) : OnGrid s 0 := onGrid_iff.2 ⟨0, by simp⟩

theorem OnGrid.add {s : ℕ} {x y : ℚ} (hx : OnGrid s x) (hy : OnGrid s y) : OnGrid s (x + y) := by
  obtain ⟨m, hm⟩ := onGrid_iff.1 hx
  obtain ⟨n, hn⟩ := onGrid_iff.1 hy
  exact onGrid_iff.2 ⟨m + n, by rw [add_mul, hm, hn]; push_cast; ring⟩

theorem OnGrid.neg {s : ℕ} {x : ℚ} (hx : OnGrid s x) : OnGrid s (-x) := by
  obtain ⟨m, hm⟩ := onGrid_iff.1 hx
  exact onGrid_iff.2 ⟨-m, by rw [neg_mul, hm]; push_cast; ring⟩

theorem OnGrid.sub {s : ℕ} {x y : ℚ} (hx : OnGrid s x) (hy : OnGrid s y) : OnGrid s (x - y) := by
  rw [sub_eq_add_neg]
  exact hx.add hy.neg

theorem OnGrid.mono {s t : ℕ} {x : ℚ} (h : OnGrid s x) (hst : s ≤ t) : OnGrid t x := by
  obtain ⟨m, hm⟩ := onGrid_iff.1 h
  refine onGrid_iff.2 ⟨m * 10 ^ (t - s), ?_⟩
  rw [← Nat.sub_add_cancel hst, pow_add, Nat.sub_add_cancel hst, mul_comm ((10 : ℚ) ^ (t - s)),
    ← mul_assoc, hm]
  push_cast
  ring

theorem OnGrid.mul {s t : ℕ} {x y : ℚ} (hx : OnGrid s x) (hy : OnGrid t y) :
    OnGrid (s + t) (x * y) := by
  obtain ⟨m, hm⟩ := onGrid_iff.1 hx
  obtain ⟨n, hn⟩ := onGrid_iff.1 hy
  refine onGrid_iff.2 ⟨m * n, ?_⟩
  rw [pow_add]
  push_cast
  rw [← hm, ← hn]
  ring

theorem OnGrid.intCast (s : ℕ) (n : ℤ) : OnGrid s n :=
  onGrid_iff.2 ⟨n * 10 ^ s, by push_cast; ring⟩

theorem onGrid_div (s : ℕ) (n : ℤ) : OnGrid s ((n : ℚ) / 10 ^ s) :=
  onGrid_iff.2 ⟨n, div_mul_cancel₀ _ (pow_pos' s).ne'⟩

theorem onGrid_quantize (s : ℕ) (x : ℚ) : OnGrid s (quantize s x) := onGrid_div s _

theorem onGrid_numeric (s : ℕ) (x : ℚ) : OnGrid s (numeric s x) := onGrid_div s _

theorem quantize_of_onGrid {s : ℕ} {x : ℚ} (h : OnGrid s x) : quantize s x = x := by
  obtain ⟨n, hn⟩ := onGrid_iff.1 h
  rw [quantize, hn, roundHalfEven_intCast, ← hn]
  field_simp

theorem numeric_of_onGrid {s : ℕ} {x : ℚ} (h : OnGrid s x) : numeric s x = x := by
  obtain ⟨n, hn⟩ := onGrid_iff.1 h
  rw [numeric, hn, roundHalfAway_intCast, ← hn]
  field_simp

theorem eq_quantize_iff {s : ℕ} {x : ℚ} : x = quantize s x ↔ OnGrid s x := by
  constructor
  · intro h
    rw [h]
    exact onGrid_quantize s x
  · intro h
    exact (quantize_of_onGrid h).symm

@[simp] theorem quantize_zero (s : ℕ) : quantize s 0 = 0 := quantize_of_onGrid (OnGrid.zero s)

@[simp] theorem numeric_zero (s : ℕ) : numeric s 0 = 0 := numeric_of_onGrid (OnGrid.zero s)

theorem numeric_neg (s : ℕ) (x : ℚ) : numeric s (-x) = -numeric s x := by
  rw [numeric, neg_mul, roundHalfAway_neg, numeric]
  push_cast
  ring

theorem quantize_mono (s : ℕ) {x y : ℚ} (h : x ≤ y) : quantize s x ≤ quantize s y := by
  have hxy : x * 10 ^ s ≤ y * 10 ^ s := mul_le_mul_of_nonneg_right h (pow_pos' s).le
  exact div_le_div_of_nonneg_right (by exact_mod_cast roundHalfEven_mono hxy) (pow_pos' s).le

theorem quantize_nonneg (s : ℕ) {x : ℚ} (h : 0 ≤ x) : 0 ≤ quantize s x := by
  have hmono := quantize_mono s h
  rwa [quantize_zero] at hmono

theorem numeric_mono (s : ℕ) {x y : ℚ} (h : x ≤ y) : numeric s x ≤ numeric s y := by
  have hxy : x * 10 ^ s ≤ y * 10 ^ s := mul_le_mul_of_nonneg_right h (pow_pos' s).le
  exact div_le_div_of_nonneg_right (by exact_mod_cast roundHalfAway_mono hxy) (pow_pos' s).le

theorem numeric_nonneg (s : ℕ) {x : ℚ} (h : 0 ≤ x) : 0 ≤ numeric s x := by
  have hmono := numeric_mono s h
  rwa [numeric_zero] at hmono

/-- What is rounded to a number on the grid; a half goes up. -/
theorem numeric_eq_iff {s : ℕ} {x r : ℚ} (hx : 0 ≤ x) (hr : OnGrid s r) :
    numeric s x = r ↔ r * 10 ^ s - 1 / 2 ≤ x * 10 ^ s ∧ x * 10 ^ s < r * 10 ^ s + 1 / 2 := by
  obtain ⟨n, hn⟩ := onGrid_iff.1 hr
  have hscaled : 0 ≤ x * 10 ^ s := mul_nonneg hx (pow_pos' s).le
  rw [numeric, div_eq_iff (pow_pos' s).ne', hn, roundHalfAway, if_pos hscaled, Int.cast_inj,
    Int.floor_eq_iff]
  constructor
  · rintro ⟨hlow, hhigh⟩
    exact ⟨by linarith, by linarith⟩
  · rintro ⟨hlow, hhigh⟩
    exact ⟨by linarith, by linarith⟩

end Cestos.Core.Decimal
