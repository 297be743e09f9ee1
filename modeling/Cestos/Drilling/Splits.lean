import Cestos.Core.Decimal.Context
import Cestos.Drilling.Meterage

/-!
# Intervals in two parts

An interval that is reported in two parts earns what it earns as a whole, if the cards that reach
it reach both parts. A part that they do not reach is billed by the fallback, though the whole
would not have been.
-/

namespace Cestos.Drilling

open Cestos.Core Cestos.Core.Decimal

variable {ctx : Context 28 12} {lower : String → String} {contract : ProjectContract}
  {report : DrillingShiftReport} {cards : List ContractRateCard} {card : ContractRateCard}
  {iv first second : DrillingShiftInterval}

/-- What the entries for metres amount to. -/
def meterageRevenue (ctx : Context 28 12) (lower : String → String) (contract : ProjectContract)
    (report : DrillingShiftReport) : ℚ :=
  ((meterageEntries ctx lower contract report).map (·.totalRevenue)).sum

/-- An interval and its two parts, with the metres drilled from end to end. -/
structure IsSplit (iv first second : DrillingShiftInterval) : Prop where
  hole : first.drillHoleId = iv.drillHoleId ∧ second.drillHoleId = iv.drillHoleId
  method : first.drillingMethod = iv.drillingMethod ∧ second.drillingMethod = iv.drillingMethod
  begins : first.fromDepthM = iv.fromDepthM
  meets : first.toDepthM = second.fromDepthM
  ends : second.toDepthM = iv.toDepthM
  before : first.fromDepthM.1 < first.toDepthM.1
  after : second.fromDepthM.1 < second.toDepthM.1
  drilled : ∀ part ∈ [iv, first, second],
    part.drilledMetres.1 = part.toDepthM.1 - part.fromDepthM.1

/-- No card reaches the interval, or cards reach both parts of it, or the fallback is free. -/
def ReachesBoth (lower : String → String) (cards : List ContractRateCard)
    (iv first second : DrillingShiftInterval) : Prop :=
  reachingCards lower cards iv = [] ∨
    (reachingCards lower cards first ≠ [] ∧ reachingCards lower cards second ≠ []) ∨
    ∀ card ∈ cards.head?, card.unitRate.1 = 0

instance : Decidable (ReachesBoth lower cards iv first second) :=
  inferInstanceAs (Decidable (_ ∨ (_ ∧ _) ∨ _))

/-! ## Bands -/

/-- The metres of an interval that a card is for. -/
def cardQty (lower : String → String) (iv : DrillingShiftInterval) (card : ContractRateCard) : ℚ :=
  if methodMatches lower card iv = true then overlapQty card iv else 0

theorem cardQty_nonneg : 0 ≤ cardQty lower iv card := by
  unfold cardQty
  split
  · exact le_max_left _ _
  · exact le_rfl

theorem mem_reachingCards :
    card ∈ reachingCards lower cards iv ↔ card ∈ cards ∧ 0 < cardQty lower iv card := by
  rw [reachingCards, List.mem_filter, decide_eq_true_iff, cardQty]
  by_cases hmatch : methodMatches lower card iv = true <;> simp [hmatch]

theorem reachingCards_eq_nil :
    reachingCards lower cards iv = [] ↔ ∀ card ∈ cards, cardQty lower iv card = 0 := by
  rw [List.eq_nil_iff_forall_not_mem]
  constructor
  · intro hnone card hcard
    exact le_antisymm (not_lt.1 fun hpos => hnone card (mem_reachingCards.2 ⟨hcard, hpos⟩))
      cardQty_nonneg
  · intro hzero card hreach
    obtain ⟨hcard, hpos⟩ := mem_reachingCards.1 hreach
    exact hpos.ne' (hzero card hcard)

theorem overlap_split (lo hi : ℚ) {a b c : ℚ} (hab : a ≤ b) (hbc : b ≤ c) :
    max 0 (min c hi - max a lo) = max 0 (min b hi - max a lo) + max 0 (min c hi - max b lo) := by
  rcases le_total b lo with hlo | hlo
  · have hnone : min b hi - max a lo ≤ 0 := by
      have := (min_le_left b hi).trans (hlo.trans (le_max_right a lo))
      linarith
    rw [max_eq_left hnone, zero_add, max_eq_right (hab.trans hlo), max_eq_right hlo]
  · rcases le_total hi b with hhi | hhi
    · have hnone : min c hi - max b lo ≤ 0 := by
        have := (min_le_right c hi).trans (hhi.trans (le_max_left b lo))
        linarith
      rw [max_eq_left hnone, add_zero, min_eq_right (hhi.trans hbc), min_eq_right hhi]
    · have hleft : 0 ≤ b - max a lo := sub_nonneg.2 (max_le hab hlo)
      have hright : 0 ≤ min c hi - b := sub_nonneg.2 (le_min hbc hhi)
      rw [min_eq_left hhi, max_eq_left hlo, max_eq_right hleft, max_eq_right hright,
        max_eq_right (by linarith)]
      ring

theorem IsSplit.cardQty_add (h : IsSplit iv first second) (card : ContractRateCard) :
    cardQty lower iv card = cardQty lower first card + cardQty lower second card := by
  have hfirst : methodMatches lower card first = methodMatches lower card iv := by
    rw [methodMatches, h.method.1, methodMatches]
  have hsecond : methodMatches lower card second = methodMatches lower card iv := by
    rw [methodMatches, h.method.2, methodMatches]
  rw [cardQty, cardQty, cardQty, hfirst, hsecond]
  split
  · have hmeets := overlap_split (bandFrom card) (bandTo card) h.before.le
      (h.meets ▸ h.after.le)
    simpa only [overlapQty, overlapFrom, overlapTo, ← h.begins, ← h.ends, ← h.meets] using hmeets
  · simp

theorem IsSplit.reaching_eq_nil (h : IsSplit iv first second) :
    reachingCards lower cards iv = [] ↔
      reachingCards lower cards first = [] ∧ reachingCards lower cards second = [] := by
  simp only [reachingCards_eq_nil]
  constructor
  · intro hzero
    constructor
    all_goals
      intro card hcard
      have hsum : cardQty lower iv card = _ := h.cardQty_add card
      have hfirst : 0 ≤ cardQty lower first card := cardQty_nonneg
      have hsecond : 0 ≤ cardQty lower second card := cardQty_nonneg
      rw [hzero card hcard] at hsum
      linarith
  · rintro ⟨hfirst, hsecond⟩ card hcard
    rw [h.cardQty_add, hfirst card hcard, hsecond card hcard, add_zero]

/-! ## Amounts -/

theorem store_near {x : ℚ} {v : Column 14 2} (h : Column.store 14 2 x = some v) :
    |v.1 - x| ≤ 1 / 200 := by
  rw [Column.store_val h, numeric]
  have hround := roundHalfAway_bounds (x * 10 ^ 2)
  rw [abs_le]
  constructor <;> linarith

theorem mul_exact {q u : ℚ} {v : Column 14 2} (hq : OnGrid 2 q) (hu : OnGrid 2 u)
    (h : Column.store 14 2 (ctx.mul q u) = some v) : ctx.mul q u = q * u := by
  have hbound : |ctx.mul q u| < 10 ^ 16 := by
    have hnear := store_near h
    have htriangle := abs_sub_abs_le_abs_sub (ctx.mul q u) v.1
    have hv := v.2.2
    rw [abs_sub_comm] at hnear
    norm_num at hv ⊢
    linarith
  have hsmall : |q * u| < 10 ^ 16 := by
    refine ctx.abs_lt_of_abs_round_lt (onGrid_iff.2 ⟨10 ^ 28, by norm_num⟩) ?_ hbound
    norm_num
  exact ctx.keeps _ ((hq.mul hu).mono (by omega)) hsmall.le

theorem overlapQty_onGrid (card : ContractRateCard) (iv : DrillingShiftInterval) :
    OnGrid 2 (overlapQty card iv) := by
  have hmax : ∀ {x y : ℚ}, OnGrid 2 x → OnGrid 2 y → OnGrid 2 (max x y) := by
    intro x y hx hy
    rcases max_choice x y with h | h <;> rwa [h]
  have hmin : ∀ {x y : ℚ}, OnGrid 2 x → OnGrid 2 y → OnGrid 2 (min x y) := by
    intro x y hx hy
    rcases min_choice x y with h | h <;> rwa [h]
  have hfrom : OnGrid 2 (bandFrom card) := by
    unfold bandFrom
    cases card.depthFromM with
    | none => exact .zero 2
    | some depth => exact depth.2.1
  have hto : OnGrid 2 (bandTo card) := by
    unfold bandTo
    cases card.depthToM with
    | none => exact OnGrid.intCast 2 999999
    | some depth => exact depth.2.1
  exact hmax (.zero 2) ((hmin iv.toDepthM.2.1 hto).sub (hmax iv.fromDepthM.2.1 hfrom))

/-- The entries of an interval fit their columns. -/
def Postable (entries : List RevenueSubledgerEntry) : Prop :=
  ∀ e ∈ entries, ∃ stored, storeEntry e = .ok stored

theorem earned_exact {category : RevenueCategory} {description : EntryDescription} {q : ℚ}
    (hq : OnGrid 2 q)
    (h : ∃ stored, storeEntry (earned ctx contract report card category description q) = .ok stored) :
    (earned ctx contract report card category description q).totalRevenue =
      q * card.unitRate.1 := by
  obtain ⟨stored, h⟩ := h
  simp only [storeEntry, ensure_bind_eq_ok, orError_bind_eq_ok] at h
  obtain ⟨-, _, -, amount, hamount, -⟩ := h
  exact mul_exact hq card.unitRate.2.1 hamount

theorem bandEntries_revenue (hposted : Postable (bandEntries ctx lower contract report cards iv)) :
    ((bandEntries ctx lower contract report cards iv).map (·.totalRevenue)).sum =
      (cards.map fun card => cardQty lower iv card * card.unitRate.1).sum := by
  induction cards with
  | nil => rfl
  | cons card cards ih =>
      have hcons : bandEntries ctx lower contract report (card :: cards) iv =
          bandEntries ctx lower contract report [card] iv ++
            bandEntries ctx lower contract report cards iv := by
        rw [bandEntries, ← List.singleton_append, List.filter_append, List.map_append]
        rfl
      rw [hcons] at hposted ⊢
      rw [List.map_append, List.sum_append, List.map_cons, List.sum_cons,
        ih fun e he => hposted e (List.mem_append_right _ he)]
      congr 1
      by_cases hreach : methodMatches lower card iv = true ∧ 0 < overlapQty card iv
      · have hone : bandEntries ctx lower contract report [card] iv =
            [earned ctx contract report card .drillingMeterage
              (.meterage (overlapFrom card iv) (overlapTo card iv)) (overlapQty card iv)] := by
          simp [bandEntries, hreach]
        rw [hone] at hposted ⊢
        rw [List.map_singleton, List.sum_singleton, cardQty, if_pos hreach.1]
        exact earned_exact (overlapQty_onGrid card iv) (hposted _ (by simp))
      · have hnone : bandEntries ctx lower contract report [card] iv = [] := by
          rw [bandEntries, List.filter_singleton, Bool.cond_eq_ite,
            if_neg (by simpa using hreach)]
          rfl
        have hzero : cardQty lower iv card = 0 := by
          unfold cardQty
          split
          · next hmatch =>
            exact le_antisymm (not_lt.1 fun hpos => hreach ⟨hmatch, hpos⟩) (le_max_left _ _)
          · rfl
        simp [hnone, hzero]

/-- An interval earns what its cards earn, or what the first card earns for all of it. -/
theorem intervalEntries_revenue (hdrilled : 0 < iv.drilledMetres.1)
    (hposted : Postable (intervalEntries ctx lower contract report cards iv)) :
    ((intervalEntries ctx lower contract report cards iv).map (·.totalRevenue)).sum =
      if reachingCards lower cards iv = [] then
        (cards.head?.toList.map fun card => iv.drilledMetres.1 * card.unitRate.1).sum
      else (cards.map fun card => cardQty lower iv card * card.unitRate.1).sum := by
  by_cases hreach : reachingCards lower cards iv = []
  · rw [if_pos hreach]
    have hbands : bandEntries ctx lower contract report cards iv = [] := by
      rw [bandEntries, show List.filter _ _ = _ from hreach, List.map_nil]
    have hentries : intervalEntries ctx lower contract report cards iv =
        cards.head?.toList.map fun card => earned ctx contract report card .drillingMeterage
          (.meterage iv.fromDepthM.1 iv.toDepthM.1) iv.drilledMetres.1 := by
      rw [intervalEntries, if_neg (not_le.2 hdrilled), hbands]
      rfl
    rw [hentries] at hposted ⊢
    cases hhead : cards.head? with
    | none => rfl
    | some card =>
        simp only [hhead, Option.toList_some, List.map_singleton, List.sum_singleton] at hposted ⊢
        exact earned_exact iv.drilledMetres.2.1 (hposted _ (by simp))
  · rw [if_neg hreach]
    rw [intervalEntries_of_drilled hdrilled hreach] at hposted ⊢
    exact bandEntries_revenue hposted

theorem IsSplit.drilled_pos (h : IsSplit iv first second) :
    0 < iv.drilledMetres.1 ∧ 0 < first.drilledMetres.1 ∧ 0 < second.drilledMetres.1 := by
  have hfirst := h.before
  have hsecond := h.after
  rw [h.drilled iv (by simp), h.drilled first (by simp), h.drilled second (by simp), ← h.begins,
    ← h.ends]
  rw [← h.meets] at hsecond ⊢
  refine ⟨?_, ?_, ?_⟩ <;> linarith

theorem IsSplit.drilled_add (h : IsSplit iv first second) :
    iv.drilledMetres.1 = first.drilledMetres.1 + second.drilledMetres.1 := by
  rw [h.drilled iv (by simp), h.drilled first (by simp), h.drilled second (by simp), ← h.begins,
    ← h.ends, h.meets]
  ring

theorem IsSplit.cards_revenue (h : IsSplit iv first second) :
    (cards.map fun card => cardQty lower iv card * card.unitRate.1).sum =
      (cards.map fun card => cardQty lower first card * card.unitRate.1).sum +
        (cards.map fun card => cardQty lower second card * card.unitRate.1).sum := by
  rw [← List.sum_map_add]
  refine congrArg List.sum (List.map_congr_left fun card _ => ?_)
  rw [h.cardQty_add, add_mul]

theorem cards_revenue_of_none (h : reachingCards lower cards iv = []) :
    (cards.map fun card => cardQty lower iv card * card.unitRate.1).sum = 0 := by
  refine List.sum_eq_zero fun amount hamount => ?_
  obtain ⟨card, hcard, rfl⟩ := List.mem_map.1 hamount
  rw [reachingCards_eq_nil.1 h card hcard, zero_mul]

/-- The fallback of a part adds to what the cards earn, unless it is free. -/
theorem fallback_eq_zero {metres : ℚ} (hmetres : 0 < metres) :
    (cards.head?.toList.map fun card => metres * card.unitRate.1).sum = 0 ↔
      ∀ card ∈ cards.head?, card.unitRate.1 = 0 := by
  cases cards.head? with
  | none => simp
  | some card => simp [hmetres.ne']

theorem IsSplit.interval_revenue (h : IsSplit iv first second)
    (hwhole : Postable (intervalEntries ctx lower contract report cards iv))
    (hfirst : Postable (intervalEntries ctx lower contract report cards first))
    (hsecond : Postable (intervalEntries ctx lower contract report cards second)) :
    ((intervalEntries ctx lower contract report cards first).map (·.totalRevenue)).sum +
        ((intervalEntries ctx lower contract report cards second).map (·.totalRevenue)).sum =
        ((intervalEntries ctx lower contract report cards iv).map (·.totalRevenue)).sum ↔
      ReachesBoth lower cards iv first second := by
  obtain ⟨hdrilled, hdrilled₁, hdrilled₂⟩ := h.drilled_pos
  rw [intervalEntries_revenue hdrilled hwhole, intervalEntries_revenue hdrilled₁ hfirst,
    intervalEntries_revenue hdrilled₂ hsecond, ReachesBoth]
  by_cases hnone₁ : reachingCards lower cards first = []
  · by_cases hnone₂ : reachingCards lower cards second = []
    · have hnone := h.reaching_eq_nil.2 ⟨hnone₁, hnone₂⟩
      simp only [hnone, hnone₁, hnone₂, if_true, true_or, iff_true]
      rw [← List.sum_map_add, h.drilled_add]
      simp only [add_mul]
    · have hsome : reachingCards lower cards iv ≠ [] := fun hnone =>
        hnone₂ (h.reaching_eq_nil.1 hnone).2
      simp only [hsome, hnone₁, hnone₂, if_true, if_false, ne_eq, not_true_eq_false, false_and,
        false_or]
      rw [h.cards_revenue, cards_revenue_of_none hnone₁, add_left_inj]
      exact fallback_eq_zero hdrilled₁
  · have hsome : reachingCards lower cards iv ≠ [] := fun hnone =>
      hnone₁ (h.reaching_eq_nil.1 hnone).1
    by_cases hnone₂ : reachingCards lower cards second = []
    · simp only [hsome, hnone₁, hnone₂, if_true, if_false, ne_eq, not_true_eq_false, and_false,
        false_or]
      rw [h.cards_revenue, cards_revenue_of_none hnone₂, add_right_inj]
      exact fallback_eq_zero hdrilled₂
    · simp only [hsome, hnone₁, hnone₂, if_false, ne_eq, not_false_eq_true, and_self, true_or,
        or_true, iff_true]
      exact h.cards_revenue.symm

/-! ## Reports -/

theorem postable_of_mapM {entries stored : List RevenueSubledgerEntry}
    (h : entries.mapM storeEntry = .ok stored) : Postable entries := by
  induction entries generalizing stored with
  | nil => simp [Postable]
  | cons e entries ih =>
      simp only [List.mapM_cons, bind_eq_ok, pure_eq_ok] at h
      obtain ⟨e', he, rest, hrest, -⟩ := h
      exact List.forall_mem_cons.2 ⟨⟨e', he⟩, ih hrest⟩

theorem stored_revenue_near {entries stored : List RevenueSubledgerEntry}
    (h : entries.mapM storeEntry = .ok stored) :
    |(stored.map (·.totalRevenue)).sum - (entries.map (·.totalRevenue)).sum| ≤
      stored.length / 200 := by
  induction entries generalizing stored with
  | nil => simp [← pure_eq_ok.1 h]
  | cons e entries ih =>
      simp only [List.mapM_cons, bind_eq_ok, pure_eq_ok] at h
      obtain ⟨e', he, rest, hrest, rfl⟩ := h
      have hnear : |e'.totalRevenue - e.totalRevenue| ≤ 1 / 200 := by
        simp only [storeEntry, ensure_bind_eq_ok, orError_bind_eq_ok, Except.ok.injEq] at he
        obtain ⟨-, _, -, amount, hamount, _, -, rfl⟩ := he
        exact store_near hamount
      have hrest := ih hrest
      rw [abs_le] at hnear hrest ⊢
      simp only [List.map_cons, List.sum_cons, List.length_cons, Nat.cast_add, Nat.cast_one]
      constructor <;> linarith [hnear.1, hnear.2, hrest.1, hrest.2]

theorem meterageRevenue_with (intervals : List DrillingShiftInterval) :
    meterageRevenue ctx lower contract { report with intervals := intervals } =
      (intervals.map fun part => ((intervalEntries ctx lower contract report (meterCards contract)
        part).map (·.totalRevenue)).sum).sum := by
  induction intervals with
  | nil => rfl
  | cons part intervals ih =>
      rw [List.map_cons, List.sum_cons, ← ih, meterageRevenue, meterageEntries, List.flatMap_cons,
        List.map_append, List.sum_append]
      rfl

namespace Sample

def half : Column 18 2 := ⟨5, by decide +kernel⟩

def upper : DrillingShiftInterval :=
  ⟨1, 0, half, half, none, by decide +kernel, by decide +kernel⟩

def deeper : DrillingShiftInterval :=
  ⟨1, half, ten, half, none, by decide +kernel, by decide +kernel⟩

theorem isSplit : IsSplit interval upper deeper :=
  ⟨⟨rfl, rfl⟩, ⟨rfl, rfl⟩, rfl, rfl, rfl, by decide +kernel, by decide +kernel, by decide +kernel⟩

/-- Five for every metre of a band. -/
def priced (id : Id) (depthFrom depthTo : Option (Column 10 2)) : ContractRateCard :=
  { Sample.card id depthFrom depthTo with unitRate := fee }

def pricing (rateCards : List ContractRateCard) : ProjectContract :=
  { services with rateCards := rateCards }

/-- Two bands that meet at five metres. -/
def meeting : ProjectContract := pricing [priced 1 none (some five), priced 2 (some five) none]

/-- One band that ends at five metres. -/
def shallow : ProjectContract := pricing [priced 1 none (some five)]

end Sample

end Cestos.Drilling
