import Mathlib.Data.Int.Log
import Cestos.Core.Decimal.Rounding

/-!
# Arithmetic contexts

A context rounds the exact result of every operation. All a proof needs of it
is collected in `Context p s`: the rounding is monotone and odd, and it keeps
every number of at most `p` digits of which `s` are decimals. `exact` rounds
nothing; `significant` rounds half to even to `p` significant digits, which is
what a decimal context of precision `p` does.
-/

namespace Cestos.Core.Decimal

/-- Rounding of operation results that keeps `p` digits, `s` of them decimals. -/
structure Context (p s : ℕ) where
  round : ℚ → ℚ
  mono : Monotone round
  neg : ∀ x, round (-x) = -round x
  keeps : ∀ x, OnGrid s x → |x| ≤ 10 ^ (p - s) → round x = x

namespace Context

variable {p s : ℕ} (c : Context p s)

def add (x y : ℚ) : ℚ := c.round (x + y)

def mul (x y : ℚ) : ℚ := c.round (x * y)

def div (x y : ℚ) : ℚ := c.round (x / y)

@[simp] theorem round_zero : c.round 0 = 0 :=
  c.keeps 0 (OnGrid.zero s) (by simp)

theorem round_nonneg {x : ℚ} (hx : 0 ≤ x) : 0 ≤ c.round x := by
  have hmono := c.mono hx
  rwa [round_zero] at hmono

theorem mul_neg_left (x y : ℚ) : c.mul (-x) y = -c.mul x y := by
  rw [mul, neg_mul, c.neg, mul]

@[simp] theorem add_zero_of_keeps {x : ℚ} (hx : OnGrid s x) (hb : |x| ≤ 10 ^ (p - s)) :
    c.add x 0 = x := by
  rw [add, add_zero, c.keeps x hx hb]

/-- A number whose rounding is smaller than a number the context keeps was smaller itself. -/
theorem lt_of_round_lt {x y : ℚ} (hy : c.round y = y) (h : c.round x < y) : x < y := by
  by_contra hxy
  have hmono := c.mono (not_lt.1 hxy)
  rw [hy] at hmono
  linarith

theorem abs_lt_of_abs_round_lt {x b : ℚ} (hb : OnGrid s b) (hle : |b| ≤ 10 ^ (p - s))
    (h : |c.round x| < b) : |x| < b := by
  have hkeep := c.keeps b hb hle
  rw [abs_lt] at h ⊢
  constructor
  · have hneg := c.lt_of_round_lt (x := -x) hkeep (by rw [c.neg]; linarith)
    linarith
  · exact c.lt_of_round_lt hkeep h.2

end Context

/-- No rounding of operation results at all. -/
def exact (p s : ℕ) : Context p s where
  round := id
  mono := monotone_id
  neg := fun _ => rfl
  keeps := fun _ _ _ => rfl

/-! ## Significant digits -/

/-- The exponent of the last of `p` significant digits of `x`. -/
def lastExponent (p : ℕ) (x : ℚ) : ℤ := Int.log 10 |x| + 1 - p

/-- `x` rounded half to even to `p` significant digits. -/
def roundSignificant (p : ℕ) (x : ℚ) : ℚ :=
  if x = 0 then 0
  else (roundHalfEven (x / 10 ^ lastExponent p x) : ℚ) * 10 ^ lastExponent p x

theorem roundSignificant_neg (p : ℕ) (x : ℚ) :
    roundSignificant p (-x) = -roundSignificant p x := by
  have he : lastExponent p (-x) = lastExponent p x := by rw [lastExponent, abs_neg, lastExponent]
  unfold roundSignificant
  by_cases hx : x = 0
  · simp [hx]
  · rw [if_neg (by simpa using hx), if_neg hx, he, neg_div, roundHalfEven_neg]
    push_cast
    ring

private theorem ten_zpow_pos (e : ℤ) : (0 : ℚ) < 10 ^ e := zpow_pos (by norm_num) e

theorem roundSignificant_eq_self {p : ℕ} {x : ℚ} (n : ℤ)
    (h : x / 10 ^ lastExponent p x = n) : roundSignificant p x = x := by
  unfold roundSignificant
  split
  · simp_all
  · rw [h, roundHalfEven_intCast, ← h]
    exact div_mul_cancel₀ _ (ten_zpow_pos _).ne'

/-- The leading digit of `x` stays where it is or moves up to the next power of ten. -/
theorem roundSignificant_bounds {p : ℕ} (hp : 0 < p) {x : ℚ} (hx : 0 < x) :
    (10 : ℚ) ^ Int.log 10 x ≤ roundSignificant p x ∧
      roundSignificant p x ≤ (10 : ℚ) ^ (Int.log 10 x + 1) := by
  have habs : |x| = x := abs_of_pos hx
  have hlow : (10 : ℚ) ^ Int.log 10 x ≤ x := by
    exact_mod_cast Int.zpow_log_le_self (b := 10) (by norm_num) hx
  have hhigh : x < (10 : ℚ) ^ (Int.log 10 x + 1) := by
    exact_mod_cast Int.lt_zpow_succ_log_self (b := 10) (by norm_num) x
  rw [roundSignificant, if_neg hx.ne', lastExponent, habs]
  set e := Int.log 10 x + 1 - (p : ℤ) with he
  have hpos := ten_zpow_pos e
  have hpred : (10 : ℚ) ^ Int.log 10 x = ((10 ^ (p - 1) : ℤ) : ℚ) * 10 ^ e := by
    push_cast
    rw [← zpow_natCast, ← zpow_add₀ (by norm_num : (10 : ℚ) ≠ 0)]
    congr 1
    omega
  have hsucc : (10 : ℚ) ^ (Int.log 10 x + 1) = ((10 ^ p : ℤ) : ℚ) * 10 ^ e := by
    push_cast
    rw [← zpow_natCast, ← zpow_add₀ (by norm_num : (10 : ℚ) ≠ 0)]
    congr 1
    omega
  constructor
  · rw [hpred] at hlow ⊢
    have hr := roundHalfEven_mono ((le_div_iff₀ hpos).2 hlow)
    rw [roundHalfEven_intCast] at hr
    exact mul_le_mul_of_nonneg_right (by exact_mod_cast hr) hpos.le
  · rw [hsucc] at hhigh ⊢
    have hr := roundHalfEven_mono ((div_le_iff₀ hpos).2 hhigh.le)
    rw [roundHalfEven_intCast] at hr
    exact mul_le_mul_of_nonneg_right (by exact_mod_cast hr) hpos.le

private theorem roundSignificant_mono_of_pos {p : ℕ} (hp : 0 < p) {x y : ℚ} (hx : 0 < x)
    (h : x ≤ y) : roundSignificant p x ≤ roundSignificant p y := by
  have hy : 0 < y := hx.trans_le h
  rcases (Int.log_mono_right (b := 10) hx h).eq_or_lt with hlog | hlog
  · have he : lastExponent p x = lastExponent p y := by
      rw [lastExponent, lastExponent, abs_of_pos hx, abs_of_pos hy, hlog]
    have hpos := ten_zpow_pos (lastExponent p y)
    rw [roundSignificant, if_neg hx.ne', roundSignificant, if_neg hy.ne', he]
    have hr := roundHalfEven_mono (div_le_div_of_nonneg_right h hpos.le)
    exact mul_le_mul_of_nonneg_right (by exact_mod_cast hr) hpos.le
  · calc
      roundSignificant p x ≤ (10 : ℚ) ^ (Int.log 10 x + 1) := (roundSignificant_bounds hp hx).2
      _ ≤ (10 : ℚ) ^ Int.log 10 y := zpow_le_zpow_right₀ (by norm_num) (by omega)
      _ ≤ roundSignificant p y := (roundSignificant_bounds hp hy).1

theorem roundSignificant_nonneg {p : ℕ} (hp : 0 < p) {x : ℚ} (hx : 0 ≤ x) :
    0 ≤ roundSignificant p x := by
  rcases hx.eq_or_lt with rfl | hx
  · simp [roundSignificant]
  · exact (ten_zpow_pos _).le.trans (roundSignificant_bounds hp hx).1

theorem roundSignificant_mono {p : ℕ} (hp : 0 < p) : Monotone (roundSignificant p) := by
  intro x y h
  rcases lt_or_ge 0 x with hx | hx
  · exact roundSignificant_mono_of_pos hp hx h
  have hxneg : roundSignificant p x ≤ 0 := by
    have := roundSignificant_nonneg hp (neg_nonneg.2 hx)
    rw [roundSignificant_neg] at this
    linarith
  rcases le_or_gt 0 y with hy | hy
  · exact hxneg.trans (roundSignificant_nonneg hp hy)
  · have hflip := roundSignificant_mono_of_pos hp (neg_pos.2 hy) (neg_le_neg h)
    rw [roundSignificant_neg, roundSignificant_neg] at hflip
    linarith

theorem roundSignificant_keeps {p s : ℕ} (hs : s < p) {x : ℚ} (hx : OnGrid s x)
    (hb : |x| ≤ 10 ^ (p - s)) : roundSignificant p x = x := by
  rcases eq_or_ne x 0 with rfl | hx0
  · simp [roundSignificant]
  have hpos : 0 < |x| := abs_pos.2 hx0
  rcases hb.eq_or_lt with hb | hb
  · -- the largest kept number, a power of ten
    have hlog : Int.log 10 |x| = (p - s : ℕ) := by
      rw [hb, ← zpow_natCast]
      exact_mod_cast Int.log_zpow (R := ℚ) (b := 10) (by norm_num) ((p - s : ℕ) : ℤ)
    have hquot : |x| / 10 ^ lastExponent p x = ((10 ^ (p - 1) : ℤ) : ℚ) := by
      rw [lastExponent, hlog, hb, div_eq_iff (ten_zpow_pos _).ne']
      push_cast
      rw [← zpow_natCast, ← zpow_natCast, ← zpow_add₀ (by norm_num : (10 : ℚ) ≠ 0)]
      congr 1
      omega
    rcases abs_choice x with habs | habs
    · exact roundSignificant_eq_self (10 ^ (p - 1)) (by rw [← hquot, habs])
    · refine roundSignificant_eq_self (-10 ^ (p - 1)) ?_
      rw [Int.cast_neg, ← hquot, habs]
      ring
  · -- every decimal is among the significant digits
    have hlog : Int.log 10 |x| < (p - s : ℕ) := by
      refine (Int.lt_zpow_iff_log_lt (b := 10) (by norm_num) hpos).1 ?_
      rw [zpow_natCast]
      exact_mod_cast hb
    obtain ⟨n, hn⟩ := onGrid_iff.1 hx
    obtain ⟨k, hk⟩ : ∃ k : ℕ, lastExponent p x = -((s : ℤ) + k) := by
      refine ⟨(-lastExponent p x - s).toNat, ?_⟩
      unfold lastExponent
      omega
    refine roundSignificant_eq_self (n * 10 ^ k) ?_
    rw [hk, zpow_neg, div_inv_eq_mul, zpow_add₀ (by norm_num : (10 : ℚ) ≠ 0), zpow_natCast,
      zpow_natCast, ← mul_assoc, hn]
    push_cast
    ring

/-- The context of `p` significant digits; it keeps numbers of fewer than `p` decimals. -/
def significant (p s : ℕ) (hs : s < p) : Context p s where
  round := roundSignificant p
  mono := roundSignificant_mono (by omega)
  neg := roundSignificant_neg p
  keeps := fun _ => roundSignificant_keeps hs

/-- The default decimal context of Python. -/
def Context.python : Context 28 12 := significant 28 12 (by decide)

/-!
## Adding to a rounded number

A column of `t` decimals can be totalled in two ways: round every sum half to even, or
round every summand half away from zero and add. One step of the first is one step of
the second unless the sum is a tie that goes to the other neighbour; `Untied` says that
it is none.
-/

/-- The nearest integers of `x` from `n`'s point of view: `n` itself unless `x` is a tie
and `n` is odd. -/
theorem roundHalfEven_eq_iff {x : ℚ} {n : ℤ} (h₁ : (n : ℚ) - 1 / 2 ≤ x)
    (h₂ : x ≤ (n : ℚ) + 1 / 2) : roundHalfEven x = n ↔ (IsHalf x → n % 2 = 0) := by
  by_cases hhalf : IsHalf x
  · have hfrac : x - ⌊x⌋ = 1 / 2 := hhalf
    have hround : roundHalfEven x = if ⌊x⌋ % 2 = 0 then ⌊x⌋ else ⌊x⌋ + 1 := by
      unfold roundHalfEven
      rw [hfrac, if_neg (lt_irrefl _), if_neg (lt_irrefl _)]
    have hlow : n ≤ ⌊x⌋ + 1 := by
      have : (n : ℚ) ≤ ((⌊x⌋ + 1 : ℤ) : ℚ) := by push_cast; linarith
      exact_mod_cast this
    have hhigh : ⌊x⌋ ≤ n := by
      have : (⌊x⌋ : ℚ) ≤ (n : ℚ) := by linarith
      exact_mod_cast this
    rw [hround]
    simp only [hhalf, true_imp_iff]
    split <;> omega
  · obtain ⟨k, hl, hr⟩ := not_isHalf_iff.1 hhalf
    have hk : k = n := by
      have hlow : ((k - 1 : ℤ) : ℚ) < (n : ℚ) := by push_cast; linarith
      have hhigh : ((n - 1 : ℤ) : ℚ) < (k : ℚ) := by push_cast; linarith
      have := Int.cast_lt.1 hlow
      have := Int.cast_lt.1 hhigh
      omega
    simp [hhalf, roundHalfEven_eq_of_lt hl hr, hk]

theorem roundHalfAway_bounds (x : ℚ) :
    (roundHalfAway x : ℚ) - 1 / 2 ≤ x ∧ x ≤ roundHalfAway x + 1 / 2 := by
  unfold roundHalfAway
  split
  · have h₀ := Int.floor_le (x + 1 / 2)
    have h₁ := Int.lt_floor_add_one (x + 1 / 2)
    constructor <;> linarith
  · have h₀ := Int.floor_le (-x + 1 / 2)
    have h₁ := Int.lt_floor_add_one (-x + 1 / 2)
    constructor <;> push_cast <;> linarith

theorem onGrid_half (t : ℕ) (k : ℤ) : OnGrid (t + 1) (((k : ℚ) + 1 / 2) / 10 ^ t) := by
  refine onGrid_iff.2 ⟨10 * k + 5, ?_⟩
  rw [pow_succ]
  field_simp
  push_cast
  ring

/-- The sum of `x` and `y` is no tie, or a tie that goes where `y` is rounded to. -/
def Untied {p s : ℕ} (c : Context p s) (t : ℕ) (x y : ℚ) : Prop :=
  IsTie t (c.add x y) → ⌊(x + numeric t y) * 10 ^ t⌋ % 2 = 0

instance {p s : ℕ} (c : Context p s) (t : ℕ) (x y : ℚ) : Decidable (Untied c t x y) :=
  inferInstanceAs (Decidable (_ → _))

namespace Context

variable {p s t : ℕ} (c : Context p s)

/-- A number between two ties is rounded to a number between them. -/
theorem round_between (ht : t < s) {z : ℚ} {n : ℤ} (hb : |c.round z| < 10 ^ (p - s))
    (h₁ : (n : ℚ) - 1 / 2 ≤ z * 10 ^ t) (h₂ : z * 10 ^ t ≤ (n : ℚ) + 1 / 2) :
    (n : ℚ) - 1 / 2 ≤ c.round z * 10 ^ t ∧ c.round z * 10 ^ t ≤ (n : ℚ) + 1 / 2 := by
  have hten : (0 : ℚ) < 10 ^ t := by positivity
  have hbound : OnGrid s ((10 : ℚ) ^ (p - s)) := by
    simpa using OnGrid.intCast s ((10 : ℤ) ^ (p - s))
  have habs : |((10 : ℚ) ^ (p - s))| ≤ 10 ^ (p - s) := by rw [abs_of_pos (by positivity)]
  have hz := c.abs_lt_of_abs_round_lt hbound habs hb
  rw [abs_lt] at hz hb
  -- the ties around `z` are kept, unless they lie outside of what the context keeps
  have hkeep : ∀ k : ℤ, |((k : ℚ) + 1 / 2) / 10 ^ t| ≤ 10 ^ (p - s) →
      c.round (((k : ℚ) + 1 / 2) / 10 ^ t) = ((k : ℚ) + 1 / 2) / 10 ^ t :=
    fun k hk => c.keeps _ ((onGrid_half t k).mono ht) hk
  constructor
  · have hle : (((n - 1 : ℤ) : ℚ) + 1 / 2) / 10 ^ t ≤ z := by
      rw [div_le_iff₀ hten]
      push_cast
      linarith
    suffices hround : (((n - 1 : ℤ) : ℚ) + 1 / 2) / 10 ^ t ≤ c.round z by
      rw [div_le_iff₀ hten] at hround
      push_cast at hround
      linarith
    by_cases hlow : -(10 : ℚ) ^ (p - s) ≤ (((n - 1 : ℤ) : ℚ) + 1 / 2) / 10 ^ t
    · rw [← hkeep (n - 1) (abs_le.2 ⟨hlow, hle.trans hz.2.le⟩)]
      exact c.mono hle
    · exact (not_le.1 hlow).le.trans hb.1.le
  · have hle : z ≤ ((n : ℚ) + 1 / 2) / 10 ^ t := by
      rw [le_div_iff₀ hten]
      exact h₂
    suffices hround : c.round z ≤ ((n : ℚ) + 1 / 2) / 10 ^ t by
      rwa [le_div_iff₀ hten] at hround
    by_cases hhigh : ((n : ℚ) + 1 / 2) / 10 ^ t ≤ 10 ^ (p - s)
    · rw [← hkeep n (abs_le.2 ⟨hz.1.le.trans hle, hhigh⟩)]
      exact c.mono hle
    · exact hb.2.le.trans (not_le.1 hhigh).le

theorem abs_lt_of_abs_quantize_lt {z : ℚ} {b : ℕ} (h : |quantize t z| < 10 ^ b) :
    |z| < 10 ^ b := by
  have hten : (0 : ℚ) < 10 ^ t := by positivity
  obtain ⟨hlow, hhigh⟩ := roundHalfEven_bounds (z * 10 ^ t)
  rw [quantize, abs_lt, lt_div_iff₀ hten, div_lt_iff₀ hten] at h
  -- an integer below a power of ten is below it by one
  have hup : roundHalfEven (z * 10 ^ t) + 1 ≤ 10 ^ b * 10 ^ t := by
    have : roundHalfEven (z * 10 ^ t) < 10 ^ b * 10 ^ t := by exact_mod_cast h.2
    omega
  have hdown : -(10 ^ b * 10 ^ t) ≤ roundHalfEven (z * 10 ^ t) - 1 := by
    have : -(10 ^ b) * 10 ^ t < roundHalfEven (z * 10 ^ t) := by exact_mod_cast h.1
    linarith
  have hup' : (roundHalfEven (z * 10 ^ t) : ℚ) + 1 ≤ 10 ^ b * 10 ^ t := by exact_mod_cast hup
  have hdown' : -((10 : ℚ) ^ b * 10 ^ t) ≤ roundHalfEven (z * 10 ^ t) - 1 := by
    exact_mod_cast hdown
  rw [abs_lt]
  constructor <;> nlinarith

/-- Rounding the sum is adding the rounded summand exactly when the sum is untied. -/
theorem quantize_add_eq_iff (ht : t < s) {x y : ℚ} (hx : OnGrid t x)
    (hb : |quantize t (c.add x y)| < 10 ^ (p - s)) :
    quantize t (c.add x y) = x + numeric t y ↔ Untied c t x y := by
  have hten : (0 : ℚ) < 10 ^ t := by positivity
  obtain ⟨k, hk⟩ := onGrid_iff.1 hx
  have hsum : (x + numeric t y) * 10 ^ t = ((k + roundHalfAway (y * 10 ^ t) : ℤ) : ℚ) := by
    rw [add_mul, hk, numeric]
    field_simp
    push_cast
    ring
  obtain ⟨hlow, hhigh⟩ := roundHalfAway_bounds (y * 10 ^ t)
  have hbetween := c.round_between ht (z := x + y) (n := k + roundHalfAway (y * 10 ^ t))
    (abs_lt_of_abs_quantize_lt hb)
    (by rw [add_mul, hk]; push_cast; linarith) (by rw [add_mul, hk]; push_cast; linarith)
  have hround : roundHalfEven (c.add x y * 10 ^ t) = k + roundHalfAway (y * 10 ^ t) ↔
      (IsHalf (c.add x y * 10 ^ t) → (k + roundHalfAway (y * 10 ^ t)) % 2 = 0) :=
    roundHalfEven_eq_iff hbetween.1 hbetween.2
  rw [Untied, IsTie, hsum, Int.floor_intCast, ← hround, ← mul_left_inj' hten.ne', hsum, quantize,
    div_mul_cancel₀ _ hten.ne', Int.cast_inj]

end Context

end Cestos.Core.Decimal
