import Cestos.Core.Decimal.Context

/-!
# Numeric columns

A `Numeric(p, s)` column holds numbers of at most `p` digits of which `s` are decimals.
What is written to it is rounded half away from zero, or refused when it is too large.
-/

namespace Cestos.Core.Decimal

/-- The values of a `Numeric(p, s)` column. -/
abbrev Column (p s : ℕ) := {x : ℚ // OnGrid s x ∧ |x| < 10 ^ (p - s)}

namespace Column

variable {p s : ℕ}

instance : Zero (Column p s) := ⟨0, OnGrid.zero s, by simp⟩

@[simp] theorem coe_zero : ((0 : Column p s) : ℚ) = 0 := rfl

/-- What the database makes of a number that is written. -/
def store (p s : ℕ) (x : ℚ) : Option (Column p s) :=
  if h : Fits p s x then some ⟨numeric s x, onGrid_numeric s x, h⟩ else none

theorem store_val {x : ℚ} {v : Column p s} (h : store p s x = some v) : v.1 = numeric s x := by
  unfold store at h
  split at h
  · exact (Option.some.inj h) ▸ rfl
  · cases h

/-- Sums of column values that stay within `p` digits are computed exactly. -/
theorem add_eq (ctx : Context 28 12) (hs : s ≤ 12) (hp : p - s ≤ 16) {x y : ℚ}
    (hx : OnGrid s x) (hy : OnGrid s y) (hle : |x + y| ≤ 10 ^ (p - s)) :
    ctx.add x y = x + y :=
  ctx.keeps _ ((hx.add hy).mono hs) (hle.trans (pow_le_pow_right₀ (by norm_num) hp))

/-- A loop that adds up column values computes their sum exactly as well. -/
theorem foldl_add_eq {α : Type} (ctx : Context 28 12) (hs : s ≤ 12) (hp : p - s ≤ 16)
    {f : α → ℚ} {l : List α} (hgrid : ∀ a ∈ l, OnGrid s (f a)) (hpos : ∀ a ∈ l, 0 ≤ f a) {x : ℚ}
    (hx : OnGrid s x) (hx0 : 0 ≤ x) (hle : x + (l.map f).sum ≤ 10 ^ (p - s)) :
    l.foldl (fun sum a => ctx.add sum (f a)) x = x + (l.map f).sum := by
  induction l generalizing x with
  | nil => simp
  | cons a l ih =>
      have hrest : 0 ≤ (l.map f).sum := by
        refine List.sum_nonneg fun y hy => ?_
        obtain ⟨b, hb, rfl⟩ := List.mem_map.1 hy
        exact hpos b (List.mem_cons_of_mem a hb)
      have ha := hpos a List.mem_cons_self
      rw [List.map_cons, List.sum_cons] at hle
      have hfirst : ctx.add x (f a) = x + f a := by
        refine add_eq ctx hs hp hx (hgrid a List.mem_cons_self) ?_
        rw [abs_of_nonneg (add_nonneg hx0 ha)]
        linarith
      rw [List.foldl_cons, hfirst, ih (fun b hb => hgrid b (List.mem_cons_of_mem a hb))
        (fun b hb => hpos b (List.mem_cons_of_mem a hb)) (hx.add (hgrid a List.mem_cons_self))
        (add_nonneg hx0 ha) (by linarith), List.map_cons, List.sum_cons, add_assoc]

theorem onGrid_sum {α : Type} {f : α → ℚ} {l : List α} (h : ∀ a ∈ l, OnGrid s (f a)) :
    OnGrid s (l.map f).sum := by
  induction l with
  | nil => exact OnGrid.zero s
  | cons a l ih =>
      rw [List.map_cons, List.sum_cons]
      exact (h a List.mem_cons_self).add (ih fun b hb => h b (List.mem_cons_of_mem a hb))

/-- A loop that adds to a number never falls below what it has reached. -/
theorem le_foldl_add {α : Type} (ctx : Context 28 12) {f : α → ℚ} {l : List α} {b x : ℚ}
    (hkeep : ctx.round b = b) (hpos : ∀ a ∈ l, 0 ≤ f a) (hle : b ≤ x) :
    b ≤ l.foldl (fun sum a => ctx.add sum (f a)) x := by
  induction l generalizing x with
  | nil => exact hle
  | cons a l ih =>
      have ha := hpos a List.mem_cons_self
      have hstep : b ≤ ctx.add x (f a) := by
        rw [← hkeep]
        exact ctx.mono (by linarith)
      exact ih (fun c hc => hpos c (List.mem_cons_of_mem a hc)) hstep

/-- Column values that add up to a bound are seen to reach it, however many they are. -/
theorem le_foldl_of_le_sum {α : Type} (ctx : Context 28 12) (hs : s ≤ 12) (hp : p - s ≤ 16)
    {f : α → ℚ} {l : List α} (hgrid : ∀ a ∈ l, OnGrid s (f a)) (hpos : ∀ a ∈ l, 0 ≤ f a)
    {b x : ℚ} (hb : OnGrid s b) (hbound : |b| ≤ 10 ^ (p - s)) (hx : OnGrid s x) (hx0 : 0 ≤ x)
    (hle : b ≤ x + (l.map f).sum) : b ≤ l.foldl (fun sum a => ctx.add sum (f a)) x := by
  have hkeep : ctx.round b = b :=
    ctx.keeps b (hb.mono hs) (hbound.trans (pow_le_pow_right₀ (by norm_num) hp))
  induction l generalizing x with
  | nil => simpa using hle
  | cons a l ih =>
      have ha := hpos a List.mem_cons_self
      have hrest : ∀ c ∈ l, 0 ≤ f c := fun c hc => hpos c (List.mem_cons_of_mem a hc)
      rw [List.foldl_cons]
      by_cases hfits : x + f a ≤ 10 ^ (p - s)
      · have hexact : ctx.add x (f a) = x + f a := by
          refine add_eq ctx hs hp hx (hgrid a List.mem_cons_self) ?_
          rwa [abs_of_nonneg (add_nonneg hx0 ha)]
        rw [hexact]
        refine ih (fun c hc => hgrid c (List.mem_cons_of_mem a hc)) hrest
          (hx.add (hgrid a List.mem_cons_self)) (add_nonneg hx0 ha) ?_
        rw [List.map_cons, List.sum_cons] at hle
        linarith
      · -- the bound is passed already
        refine le_foldl_add ctx hkeep hrest ?_
        rw [← hkeep]
        exact ctx.mono ((le_abs_self b).trans (hbound.trans (not_le.1 hfits).le))

/-- What a loop adds up of column values is stored as their sum. -/
theorem store_foldl {α : Type} (ctx : Context 28 12) (hs : s ≤ 12) (hp : p - s ≤ 16) {f : α → ℚ}
    {l : List α} (hgrid : ∀ a ∈ l, OnGrid s (f a)) (hpos : ∀ a ∈ l, 0 ≤ f a) {v : Column p s}
    (h : store p s (l.foldl (fun sum a => ctx.add sum (f a)) 0) = some v) :
    v.1 = (l.map f).sum := by
  have hval := store_val h
  by_cases hle : 0 + (l.map f).sum ≤ 10 ^ (p - s)
  · rw [foldl_add_eq ctx hs hp hgrid hpos (OnGrid.zero s) le_rfl hle, zero_add] at hval
    rw [hval, numeric_of_onGrid (onGrid_sum hgrid)]
  · -- a sum that is too large is seen to be, and not stored
    have hbound : OnGrid s ((10 : ℚ) ^ (p - s)) := by
      exact_mod_cast OnGrid.intCast s (10 ^ (p - s))
    have hreach := le_foldl_of_le_sum ctx hs hp hgrid hpos hbound (abs_of_pos (by positivity)).le
      (OnGrid.zero s) le_rfl (not_le.1 hle).le
    have hlow := numeric_mono s hreach
    rw [numeric_of_onGrid hbound, ← hval] at hlow
    exact absurd (hlow.trans (le_abs_self v.1)) (not_le.2 v.2.2)

end Column

/-!
## What fits a column

A number fits a column of `p` digits, `s` of them decimals, when it lies more than half a unit of
the last decimal below the power of ten that does not fit. Python's rounding draws the line in
the same place, since a power of ten is even.
-/

theorem roundHalfAway_lt_iff {x : ℚ} {n : ℤ} (hx : 0 ≤ x) :
    roundHalfAway x < n ↔ x < n - 1 / 2 := by
  rw [roundHalfAway, if_pos hx, Int.floor_lt, lt_sub_iff_add_lt]

theorem roundHalfEven_lt_iff {x : ℚ} {n : ℤ} (hn : n % 2 = 0) :
    roundHalfEven x < n ↔ x < n - 1 / 2 := by
  obtain ⟨hlow, hhigh⟩ := roundHalfEven_bounds x
  constructor
  · intro h
    have hpred : (roundHalfEven x : ℚ) ≤ n - 1 := by
      have : roundHalfEven x ≤ n - 1 := by omega
      exact_mod_cast this
    refine lt_of_le_of_ne (by linarith) fun hx => ?_
    -- the tie below an even number goes up to it
    have hround : roundHalfEven x = n := by
      refine (roundHalfEven_eq_iff (by linarith) (by linarith)).2 fun _ => hn
    omega
  · intro h
    have : (roundHalfEven x : ℚ) < n := by linarith
    exact_mod_cast this

theorem abs_numeric (s : ℕ) (x : ℚ) : |numeric s x| = numeric s |x| := by
  rcases le_total 0 x with hx | hx
  · rw [abs_of_nonneg hx, abs_of_nonneg (numeric_nonneg s hx)]
  · have hneg := numeric_nonneg s (neg_nonneg.2 hx)
    rw [abs_of_nonpos hx, ← abs_neg, ← numeric_neg, abs_of_nonneg hneg]

theorem quantize_neg (s : ℕ) (x : ℚ) : quantize s (-x) = -quantize s x := by
  rw [quantize, neg_mul, roundHalfEven_neg, quantize]
  push_cast
  ring

theorem abs_quantize (s : ℕ) (x : ℚ) : |quantize s x| = quantize s |x| := by
  rcases le_total 0 x with hx | hx
  · rw [abs_of_nonneg hx, abs_of_nonneg (quantize_nonneg s hx)]
  · have hneg := quantize_nonneg s (neg_nonneg.2 hx)
    rw [abs_of_nonpos hx, ← abs_neg, ← quantize_neg, abs_of_nonneg hneg]

theorem lt_of_scaled_iff {s b : ℕ} {x : ℚ} :
    x * 10 ^ s < (10 ^ b * 10 ^ s : ℤ) - 1 / 2 ↔ x < 10 ^ b - 1 / (2 * 10 ^ s) := by
  have hten : (0 : ℚ) < 10 ^ s := by positivity
  have hscaled : (10 ^ b - 1 / (2 * 10 ^ s) : ℚ) = ((10 ^ b * 10 ^ s : ℤ) - 1 / 2) / 10 ^ s := by
    push_cast
    field_simp
  rw [hscaled, lt_div_iff₀ hten]

theorem fits_iff {p s : ℕ} {x : ℚ} :
    Fits p s x ↔ |x| < 10 ^ (p - s) - 1 / (2 * 10 ^ s) := by
  have hten : (0 : ℚ) < 10 ^ s := by positivity
  have hcast : numeric s |x| < 10 ^ (p - s) ↔
      roundHalfAway (|x| * 10 ^ s) < 10 ^ (p - s) * 10 ^ s := by
    rw [numeric, div_lt_iff₀ hten]
    exact_mod_cast Iff.rfl
  rw [Fits, abs_numeric, hcast, roundHalfAway_lt_iff (by positivity), lt_of_scaled_iff]

/-- Half a unit below a power of ten goes up to it, which is even. -/
theorem abs_quantize_lt_iff {s b : ℕ} {x : ℚ} (hb : 0 < b) :
    |quantize s x| < 10 ^ b ↔ |x| < 10 ^ b - 1 / (2 * 10 ^ s) := by
  have hten : (0 : ℚ) < 10 ^ s := by positivity
  have hcast : quantize s |x| < 10 ^ b ↔ roundHalfEven (|x| * 10 ^ s) < 10 ^ b * 10 ^ s := by
    rw [quantize, div_lt_iff₀ hten]
    exact_mod_cast Iff.rfl
  have heven : (10 ^ b * 10 ^ s : ℤ) % 2 = 0 := by
    obtain ⟨b, rfl⟩ := Nat.exists_eq_succ_of_ne_zero hb.ne'
    rw [pow_succ, show (10 : ℤ) ^ b * 10 * 10 ^ s = 2 * (5 * 10 ^ b * 10 ^ s) by ring]
    exact Int.mul_emod_right 2 _
  rw [abs_quantize, hcast, roundHalfEven_lt_iff heven, lt_of_scaled_iff]

theorem Column.isSome_store {p s : ℕ} {x : ℚ} :
    (Column.store p s x).isSome ↔ |x| < 10 ^ (p - s) - 1 / (2 * 10 ^ s) := by
  rw [← fits_iff, Column.store]
  split <;> simp_all

/-- What a column holds is stored as it is. -/
theorem Column.store_coe {p s : ℕ} (v : Column p s) : Column.store p s v.1 = some v := by
  have hsame : numeric s v.1 = v.1 := numeric_of_onGrid v.2.1
  have hfits : Fits p s v.1 := by
    rw [Fits, hsame]
    exact v.2.2
  rw [Column.store, dif_pos hfits]
  exact congrArg some (Subtype.ext hsame)

/-- A number that was rounded before fits where it does without. -/
theorem fits_quantize_iff {p s : ℕ} (hp : s < p) {x : ℚ} :
    Fits p s (quantize s x) ↔ |x| < 10 ^ (p - s) - 1 / (2 * 10 ^ s) := by
  rw [Fits, numeric_of_onGrid (onGrid_quantize s x)]
  exact abs_quantize_lt_iff (by omega)

theorem onGrid_ten_pow (s b : ℕ) : OnGrid s ((10 : ℚ) ^ b) := by
  exact_mod_cast OnGrid.intCast s (10 ^ b)

/-- A sum of numbers on the grid that fits a column is computed exactly. -/
theorem add_eq_of_fits (ctx : Context 28 12) {p s : ℕ} (hs : s ≤ 12) (hp : p - s ≤ 16) {x y : ℚ}
    (hx : OnGrid s x) (hy : OnGrid s y) (hfits : Fits p s (ctx.add x y)) :
    ctx.add x y = x + y := by
  have hle : (10 : ℚ) ^ (p - s) ≤ 10 ^ 16 := pow_le_pow_right₀ (by norm_num) hp
  have hhalf : (0 : ℚ) < 1 / (2 * 10 ^ s) := by positivity
  have hbelow : |ctx.add x y| < 10 ^ 16 := by
    have := fits_iff.1 hfits
    linarith
  refine ctx.keeps _ ((hx.add hy).mono hs) ?_
  exact (ctx.abs_lt_of_abs_round_lt (onGrid_ten_pow 12 16) (abs_of_pos (by positivity)).le hbelow).le

end Cestos.Core.Decimal
