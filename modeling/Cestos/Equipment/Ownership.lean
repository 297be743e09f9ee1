import Cestos.Core.Latest
import Cestos.Core.Runs
import Cestos.Core.Period
import Cestos.Equipment.Parents

/-!
# Ownership of assets

An asset is registered with a first ownership. One that is added ends those that have no end, which
are the only ones that it is compared with. So the terms stay disjoint, and the asset of the type
that started last, as long as those added keep apart from the ones that have ended and do not start
before them.
-/

namespace Cestos.Equipment

open Cestos.Core

inductive OwnershipType
  | owned | leased | rented | clientOwned | thirdParty | other
  deriving DecidableEq

structure OwnershipCreate where
  ownershipType : OwnershipType
  ownerOrProvider : String
  startDate : Date
  endDate : Option Date := none

structure AssetOwnership extends OwnershipCreate

/-- The fields of an asset that is registered which concern its ownership. -/
structure AssetCreate where
  ownershipType : OwnershipType := .owned
  ownershipEntity : Option String := none
  purchaseDate : Option Date := none

/-- An asset with its ownership history, in the order in which it was recorded. -/
structure OwnedAsset where
  ownershipType : OwnershipType
  ownershipEntity : Option String
  ownership : List AssetOwnership

/-- `create`. -/
def AssetCreate.create (body : AssetCreate) (today : Date) : OwnedAsset where
  ownershipType := body.ownershipType
  ownershipEntity := body.ownershipEntity
  ownership := [{
    ownershipType := body.ownershipType
    ownerOrProvider := (body.ownershipEntity.filter (· ≠ "")).getD "Not recorded"
    startDate := body.purchaseDate.getD today
    endDate := none }]

/-- An ownership without an end ends at the day. -/
def AssetOwnership.closeAt (row : AssetOwnership) (day : Date) : AssetOwnership :=
  { row with endDate := row.endDate.or (some day) }

/-- `add_record` of an ownership. -/
def OwnedAsset.addOwnership (asset : OwnedAsset) (body : OwnershipCreate) :
    Except AppError OwnedAsset := do
  ensure (∀ last ∈ body.endDate, body.startDate ≤ last)
    (.validation "end_date cannot precede start_date")
  ensure (∀ previous ∈ asset.ownership, previous.endDate = none →
      previous.startDate ≤ body.startDate)
    (.validation "New ownership cannot precede existing ownership")
  .ok {
    ownershipType := body.ownershipType
    ownershipEntity := some body.ownerOrProvider
    ownership := asset.ownership.map (·.closeAt body.startDate) ++ [⟨body⟩] }

/-! ## The history -/

def AssetOwnership.term (row : AssetOwnership) : Term Date := ⟨row.startDate, row.endDate⟩

/-- Of the records that start latest, the one that was added last. -/
def latestOwnership (rows : List AssetOwnership) : Option AssetOwnership :=
  rows.reverse.argmax (·.startDate)

/-- The terms are disjoint, and the asset is of the type of the one that starts latest. -/
structure OwnedAsset.Sound (asset : OwnedAsset) : Prop where
  disjoint : asset.ownership.Pairwise fun a b => Disjoint a.term.days b.term.days
  latest : (latestOwnership asset.ownership).map (·.ownershipType) = some asset.ownershipType

/-- The ownership keeps apart from those that have ended, and it does not start before another one,
if that is of another type. -/
def OwnedAsset.Fits (asset : OwnedAsset) (body : OwnershipCreate) : Prop :=
  (∀ row ∈ asset.ownership, row.endDate ≠ none → row.term.Apart (AssetOwnership.mk body).term) ∧
    ∀ row ∈ latestOwnership asset.ownership, body.startDate < row.startDate →
      row.ownershipType = body.ownershipType

theorem latestOwnership_add (rows : List AssetOwnership) (day : Date) (new : AssetOwnership) :
    (latestOwnership (rows.map (·.closeAt day) ++ [new])).map (·.ownershipType) =
      some (((latestOwnership rows).filter (new.startDate < ·.startDate)).elim new.ownershipType
        (·.ownershipType)) := by
  have hclosed : (rows.reverse.map (·.closeAt day)).argmax (·.startDate) =
      (rows.reverse.argmax (·.startDate)).map (·.closeAt day) :=
    argmax_map (f := fun row : AssetOwnership => row.closeAt day) (fun _ => rfl) _
  unfold latestOwnership
  rw [List.reverse_append, List.reverse_singleton, List.singleton_append, ← List.map_reverse,
    List.argmax_cons, hclosed]
  cases rows.reverse.argmax (·.startDate) with
  | none => rfl
  | some last =>
      by_cases hbefore : new.startDate < last.startDate
      · simp [Option.filter_some, AssetOwnership.closeAt, hbefore]
      · simp [Option.filter_some, AssetOwnership.closeAt, hbefore]

/-- The history is as it should be after an addition exactly if the ownership fits. -/
theorem OwnedAsset.addOwnership_sound {asset asset' : OwnedAsset} {body : OwnershipCreate}
    (h : asset.Sound) (hadd : asset.addOwnership body = .ok asset') :
    asset'.Sound ↔ asset.Fits body := by
  simp only [OwnedAsset.addOwnership, bind_eq_ok] at hadd
  obtain ⟨_, -, _, -, hadd⟩ := hadd
  obtain rfl := Except.ok.inj hadd
  have hterms : (asset.ownership.map (·.closeAt body.startDate) ++
      [AssetOwnership.mk body]).Pairwise (fun a b => Disjoint a.term.days b.term.days) ↔
        ∀ row ∈ asset.ownership, row.endDate ≠ none →
          row.term.Apart (AssetOwnership.mk body).term := by
    have hmap : (asset.ownership.map (·.closeAt body.startDate) ++ [AssetOwnership.mk body]).map
        (·.term) = (asset.ownership.map (·.term)).map (·.closeAt body.startDate) ++
          [(AssetOwnership.mk body).term] := by
      rw [List.map_append, List.map_map, List.map_map]
      rfl
    have hfollow : ((asset.ownership.map (·.closeAt body.startDate) ++
        [AssetOwnership.mk body]).map (·.term)).Pairwise (fun p q => Disjoint p.days q.days) ↔
          ∀ p ∈ asset.ownership.map (·.term), p.stop ≠ none →
            p.Apart (AssetOwnership.mk body).term := by
      rw [hmap]
      exact Term.pairwise_follow (List.pairwise_map.2 h.disjoint) (AssetOwnership.mk body).term
    rwa [List.pairwise_map, List.forall_mem_map] at hfollow
  have hlatest : (latestOwnership (asset.ownership.map (·.closeAt body.startDate) ++
      [AssetOwnership.mk body])).map (·.ownershipType) = some body.ownershipType ↔
        ∀ row ∈ latestOwnership asset.ownership, body.startDate < row.startDate →
          row.ownershipType = body.ownershipType := by
    rw [latestOwnership_add]
    cases latestOwnership asset.ownership with
    | none => simp
    | some last =>
        by_cases hbefore : body.startDate < last.startDate
        · simp [Option.filter_some, hbefore]
        · simp [Option.filter_some, hbefore]
  exact ⟨fun ⟨hdisjoint, htype⟩ => ⟨hterms.1 hdisjoint, hlatest.1 htype⟩,
    fun ⟨happart, htype⟩ => ⟨hterms.2 happart, hlatest.2 htype⟩⟩

theorem AssetCreate.create_sound (body : AssetCreate) (today : Date) : (body.create today).Sound :=
  ⟨List.pairwise_singleton _ _, rfl⟩

/-- An asset after a run of additions; one that is refused leaves it as it is. -/
def OwnedAsset.after (asset : OwnedAsset) (bodies : List OwnershipCreate) : OwnedAsset :=
  bodies.foldl (settled OwnedAsset.addOwnership) asset

/-- In every run of additions that fit, to an asset that was registered, the terms are disjoint, and
the asset is of the type of the ownership that starts latest; and so it is after one more addition
exactly if it fits too. -/
theorem ownership_history (body : AssetCreate) (today : Date) (bodies : List OwnershipCreate)
    (hfits : Meets (settled OwnedAsset.addOwnership) OwnedAsset.Fits (body.create today) bodies) :
    ((body.create today).after bodies).Sound ∧ ∀ next asset',
      ((body.create today).after bodies).addOwnership next = .ok asset' →
        (asset'.Sound ↔ ((body.create today).after bodies).Fits next) := by
  have hstep : ∀ (asset : OwnedAsset) (next : OwnershipCreate), asset.Sound → asset.Fits next →
      (settled OwnedAsset.addOwnership asset next).Sound := fun asset next h hcond =>
    settled_keeps h fun asset' hadd => (OwnedAsset.addOwnership_sound h hadd).2 hcond
  have hrun := hfits.keeps hstep (body.create_sound today)
  exact ⟨hrun, fun next asset' hadd => OwnedAsset.addOwnership_sound hrun hadd⟩

instance OwnedAsset.decidableFits (asset : OwnedAsset) (body : OwnershipCreate) :
    Decidable (asset.Fits body) :=
  inferInstanceAs (Decidable ((∀ row ∈ asset.ownership, _ → Term.Apart _ _) ∧
    ∀ row ∈ latestOwnership asset.ownership, _ → _))

namespace Sample

/-- A rig that was bought, leased for a while, and bought again. -/
def sales : List OwnershipCreate := [
  { ownershipType := .leased, ownerOrProvider := "Lessor", startDate := 5, endDate := some 10 },
  { ownershipType := .owned, ownerOrProvider := "Buyer", startDate := 10 }]

/-- The second sale begins during the lease. -/
def overlapping : List OwnershipCreate := [
  { ownershipType := .leased, ownerOrProvider := "Lessor", startDate := 5, endDate := some 10 },
  { ownershipType := .owned, ownerOrProvider := "Buyer", startDate := 7 }]

end Sample

theorem ownership_history_sales :
    ((AssetCreate.create {} 1).after Sample.sales).ownership.map (·.term) =
      [⟨1, some 5⟩, ⟨5, some 10⟩, ⟨10, none⟩] ∧
    ((AssetCreate.create {} 1).after Sample.sales).Sound :=
  ⟨by decide, (ownership_history {} 1 Sample.sales (by decide)).1⟩

theorem ownership_history_overlaps : ¬ ∀ (body : AssetCreate) (today : Date)
    (bodies : List OwnershipCreate), ((body.create today).after bodies).Sound := by
  intro h
  have happart := (h {} 1 Sample.overlapping).disjoint.imp Term.disjoint_days.1
  exact absurd happart (by decide)

end Cestos.Equipment
