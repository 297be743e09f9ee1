import Cestos.Core.Bands
import Cestos.Drilling.Revenue

/-!
# Metres billed

The cards that reach an interval bill every drilled metre once exactly when their bands,
cut off at the ends of the interval, tile it. An interval that no card reaches is billed
whole by the fallback.
-/

namespace Cestos.Drilling

open Cestos.Core Cestos.Core.Decimal

variable {ctx : Context 28 12} {lower : String → String} {contract : ProjectContract}
  {report : DrillingShiftReport} {cards : List ContractRateCard} {iv : DrillingShiftInterval}

/-- Whether an entry bills the ground at a depth. -/
def RevenueSubledgerEntry.bills (depth : ℚ) (e : RevenueSubledgerEntry) : Bool :=
  match e.description with
  | .meterage fromDepth toDepth => fromDepth ≤ depth ∧ depth < toDepth
  | .standby _ | .daywork _ | .mobilization _ => false

/-- The metres billed for an interval are the metres drilled, each of them billed once. -/
structure MetresBilled (entries : List RevenueSubledgerEntry) (iv : DrillingShiftInterval) :
    Prop where
  total : (entries.map (·.quantity)).sum = iv.drilledMetres.1
  once : 0 < iv.drilledMetres.1 → ∀ depth, iv.fromDepthM.1 ≤ depth → depth < iv.toDepthM.1 →
    entries.countP (·.bills depth) = 1

/-- The cards for the method of an interval whose bands reach into it. -/
def reachingCards (lower : String → String) (cards : List ContractRateCard)
    (iv : DrillingShiftInterval) : List ContractRateCard :=
  cards.filter fun card => methodMatches lower card iv ∧ 0 < overlapQty card iv

/-- Either no card reaches the interval, or it was drilled from end to end and the bands of
the cards that reach it cover it without overlaps and gaps. -/
def BandsFit (lower : String → String) (cards : List ContractRateCard)
    (iv : DrillingShiftInterval) : Prop :=
  0 < iv.drilledMetres.1 → reachingCards lower cards iv = [] ∨
    iv.drilledMetres.1 = iv.toDepthM.1 - iv.fromDepthM.1 ∧
    Tiles (overlapFrom · iv) (overlapTo · iv) (reachingCards lower cards iv) iv.fromDepthM.1
      iv.toDepthM.1

instance : Decidable (BandsFit lower cards iv) :=
  inferInstanceAs (Decidable (_ → _ ∨ _ ∧ _))

theorem overlap_of_reaching {card : ContractRateCard} (h : card ∈ reachingCards lower cards iv) :
    overlapFrom card iv < overlapTo card iv ∧
      overlapQty card iv = overlapTo card iv - overlapFrom card iv := by
  have hpos : 0 < overlapQty card iv := by
    have := List.of_mem_filter h
    simp only [decide_eq_true_eq] at this
    exact this.2
  unfold overlapQty at hpos ⊢
  have hlt : 0 < overlapTo card iv - overlapFrom card iv := by simpa using hpos
  exact ⟨by linarith, max_eq_right hlt.le⟩

theorem reachingCards_within : Within (overlapFrom · iv) (overlapTo · iv)
    (reachingCards lower cards iv) iv.fromDepthM.1 iv.toDepthM.1 := fun _ hcard =>
  ⟨le_max_left _ _, (overlap_of_reaching hcard).1, min_le_left _ _⟩

theorem sum_bandEntries :
    ((bandEntries ctx lower contract report cards iv).map (·.quantity)).sum =
      ((reachingCards lower cards iv).map fun c => overlapTo c iv - overlapFrom c iv).sum := by
  rw [bandEntries, List.map_map]
  exact congrArg List.sum (List.map_congr_left fun card hcard => (overlap_of_reaching hcard).2)

/-- What the cards bill is positive unless no card reaches the interval. -/
theorem sum_bandEntries_eq_zero :
    ((bandEntries ctx lower contract report cards iv).map (·.quantity)).sum = 0 ↔
      reachingCards lower cards iv = [] := by
  rw [sum_bandEntries]
  constructor
  · intro hzero
    by_contra hne
    have hpos := List.sum_pos ((reachingCards lower cards iv).map fun c =>
      overlapTo c iv - overlapFrom c iv) (fun y hy => ?_) (by simpa using hne)
    · exact hpos.ne' hzero
    · obtain ⟨card, hcard, rfl⟩ := List.mem_map.1 hy
      have := (overlap_of_reaching hcard).1
      show 0 < overlapTo card iv - overlapFrom card iv
      linarith
  · intro hnone
    rw [hnone]
    rfl

theorem countP_bandEntries (depth : ℚ) :
    (bandEntries ctx lower contract report cards iv).countP (·.bills depth) =
      coverage (overlapFrom · iv) (overlapTo · iv) (reachingCards lower cards iv) depth := by
  rw [bandEntries, List.countP_map]
  rfl

theorem intervalEntries_of_drilled (hdrilled : 0 < iv.drilledMetres.1)
    (hreach : reachingCards lower cards iv ≠ []) :
    intervalEntries ctx lower contract report cards iv =
      bandEntries ctx lower contract report cards iv := by
  rw [intervalEntries, if_neg (not_le.2 hdrilled)]
  exact if_neg (mt sum_bandEntries_eq_zero.1 hreach)

theorem metresBilled_of_no_band (hcards : cards ≠ []) (hdrilled : 0 < iv.drilledMetres.1)
    (hreach : reachingCards lower cards iv = []) :
    MetresBilled (intervalEntries ctx lower contract report cards iv) iv := by
  obtain ⟨card, rest, rfl⟩ := List.exists_cons_of_ne_nil hcards
  have hbands : bandEntries ctx lower contract report (card :: rest) iv = [] := by
    rw [bandEntries, show List.filter _ _ = _ from hreach, List.map_nil]
  have hentries : intervalEntries ctx lower contract report (card :: rest) iv =
      [earned ctx contract report card .drillingMeterage
        (.meterage iv.fromDepthM.1 iv.toDepthM.1) iv.drilledMetres.1] := by
    rw [intervalEntries, if_neg (not_le.2 hdrilled), hbands]
    simp
  rw [hentries]
  refine ⟨by simp [earned], fun _ depth hfrom hto => ?_⟩
  simp [RevenueSubledgerEntry.bills, earned, hfrom, hto]

theorem metresBilled_iff (hcards : cards ≠ []) :
    MetresBilled (intervalEntries ctx lower contract report cards iv) iv ↔
      BandsFit lower cards iv := by
  rcases iv.drilled_nonneg.lt_or_eq with hdrilled | hdrilled
  · by_cases hreach : reachingCards lower cards iv = []
    · exact ⟨fun _ _ => .inl hreach, fun _ => metresBilled_of_no_band hcards hdrilled hreach⟩
    · rw [intervalEntries_of_drilled hdrilled hreach]
      constructor
      · rintro ⟨htotal, honce⟩ -
        have htiles := (tiles_iff reachingCards_within).2 fun depth hfrom hto =>
          (countP_bandEntries depth).symm.trans (honce hdrilled depth hfrom hto)
        refine .inr ⟨?_, htiles⟩
        rw [← htotal, sum_bandEntries]
        exact htiles.sum reachingCards_within iv.ordered
      · intro hfit
        obtain ⟨hends, htiles⟩ := (hfit hdrilled).resolve_left hreach
        refine ⟨?_, fun _ depth hfrom hto => ?_⟩
        · rw [hends, sum_bandEntries]
          exact htiles.sum reachingCards_within iv.ordered
        · rw [countP_bandEntries]
          exact htiles.coverage_eq_one reachingCards_within hfrom hto
  · have hnone : intervalEntries ctx lower contract report cards iv = [] :=
      if_pos hdrilled.ge
    rw [hnone]
    refine ⟨fun _ hpos => absurd hpos hdrilled.not_lt, fun _ => ⟨hdrilled, fun hpos => ?_⟩⟩
    exact absurd hpos hdrilled.not_lt

/-- Of the intervals of a shift every drilled metre is billed once if and only if the bands
of the cards fit every interval. -/
theorem metres_billed_once (intervals : List DrillingShiftInterval) (hcards : cards ≠ []) :
    (∀ iv ∈ intervals, MetresBilled (intervalEntries ctx lower contract report cards iv) iv) ↔
      ∀ iv ∈ intervals, BandsFit lower cards iv :=
  forall₂_congr fun _ _ => metresBilled_iff hcards

namespace Sample

/-- A card for a band of depths. -/
def card (id : Id) (depthFrom depthTo : Option (Column 10 2)) : ContractRateCard where
  id := id
  rateType := .drillingMeter
  drillingMethod := none
  depthFromM := depthFrom
  depthToM := depthTo
  unitRate := 0
  description := none

def services : ProjectContract where
  id := 1
  projectId := 1
  title := "Drilling services"
  currency := "USD"
  startDate := 0
  status := .active
  archived := false
  rateCards := []

def five : Column 10 2 := ⟨5, by decide +kernel⟩

def fee : Column 14 2 := ⟨5, by decide +kernel⟩

def ten : Column 18 2 := ⟨10, by decide +kernel⟩

/-- Ten metres from the surface. -/
def interval : DrillingShiftInterval := ⟨1, 0, ten, ten, none, by decide +kernel, by decide +kernel⟩

def shift : DrillingShiftReport where
  id := 1
  projectId := 1
  siteLocationId := none
  rigId := 1
  date := 0
  shiftType := .day
  status := .draft
  submittedAt := none
  submittedById := none
  approvedAt := none
  approvedById := none
  returnReason := none
  correctionReason := none
  notes := none
  totalMetres := ten
  totalProductiveHours := 0
  totalNonproductiveHours := 0
  intervals := [interval]
  timeSegments := []

end Sample

/-- Two cards whose bands meet at five metres. -/
theorem metres_billed_once_meeting :
    MetresBilled (intervalEntries .python String.toLower Sample.services Sample.shift
      [Sample.card 1 none (some Sample.five), Sample.card 2 (some Sample.five) none]
      Sample.interval) Sample.interval :=
  (metres_billed_once [Sample.interval] (by simp)).2 (by decide +kernel) Sample.interval (by simp)

/-- A single card that ends at five metres leaves the other five unbilled. -/
theorem metres_billed_once_fails : ¬ ∀ (intervals : List DrillingShiftInterval)
    (cards : List ContractRateCard), cards ≠ [] → ∀ iv ∈ intervals,
      MetresBilled (intervalEntries .python String.toLower Sample.services Sample.shift cards iv)
        iv := by
  intro hall
  have htotal := (hall [Sample.interval] [Sample.card 1 none (some Sample.five)] (by simp)
    Sample.interval (by simp)).total
  revert htotal
  decide +kernel

end Cestos.Drilling
