import Cestos.Inventory.SerialStock

/-!
# Quarantined stock and quarantined serials

What a scrapping adjustment takes out of the quarantined quantity follows from the purpose
and from the total of the bucket, the serial that goes may be a quarantined one or not. The
two views agree as long as these agree.
-/

namespace Cestos.Inventory

open Cestos.Core Cestos.Core.Decimal

/-- What an adjustment of `q` units takes from or adds to the quarantined quantity is the
unit of the serial. -/
def QuarantineFits (purpose : Purpose) (status : SerialStatus) (q quarantined : ℚ) : Prop :=
  match purpose with
  | .quarantine | .releaseFromQuarantine => q = 1
  | .writeOff | .damage => min q quarantined = if status = .quarantined then 1 else 0
  | _ => status ≠ .quarantined

instance (purpose : Purpose) (status : SerialStatus) (q quarantined : ℚ) :
    Decidable (QuarantineFits purpose status q quarantined) := by
  unfold QuarantineFits
  split <;> exact inferInstance

/-- The quarantined quantity of a bucket moves with the quarantined serials in it. -/
def QuarantineMoved : CallCondition := fun _ db c =>
  match c with
  | .postLine .transfers _ line .receive =>
    ∀ s ∈ db.serialOf line.serialId, s.status ≠ .quarantined
  | .postLine .adjustments doc line _ => ∀ s ∈ db.serialOf line.serialId, ∀ k ∈ s.bucket,
    QuarantineFits doc.purpose s.status 1 (db.balances k .quantityQuarantined)
  | .postLine .stockCounts doc line _ => ∀ s ∈ db.serialOf line.serialId, ∀ k ∈ s.bucket,
    ∀ counted ∈ line.countedQuantity, ∀ system ∈ line.systemQuantity, counted.1 ≠ system →
      QuarantineFits doc.purpose s.status |counted.1 - system|
        (db.balances k .quantityQuarantined)
  | .release id _ => ∀ row ∈ db.reservations.find? id, row.status = .active →
    ∀ s ∈ db.serialOf row.serialId, s.status ≠ .quarantined
  | .reverse id => ∀ original ∈ db.transactions.find? id,
    (∀ other ∈ db.transactions.rows, other.reversalOfId ≠ some id) →
      ∀ s ∈ db.serialOf original.serialId, s.status ≠ .quarantined
  | _ => True

instance (env : Env) (db : Database) (c : Call) : Decidable (QuarantineMoved env db c) :=
  match c with
  | .postLine kind _ _ act => by
    unfold QuarantineMoved
    cases kind <;> cases act <;> exact inferInstance
  | .reserve _ | .release _ _ | .reverse _ => by
    unfold QuarantineMoved
    exact inferInstance

section Calls

variable {ctx : Context 28 12} {env : Env} {db : Database} {c : Call} {tx : Transaction}
  {entries : List LedgerEntry} {before after : Option Serial}

theorem Serial.weight_of_clear {s : Serial} (h : s.status ≠ .quarantined) (k : Bucket) :
    s.weight k SerialStatus.isQuarantined = 0 :=
  Serial.weight_of_status (by simpa [SerialStatus.isQuarantined] using h) k

theorem Serial.weight_of_other {s : Serial} {status : SerialStatus} (h : s.status = status)
    (hother : status.isQuarantined = false) (k : Bucket) :
    s.weight k SerialStatus.isQuarantined = 0 :=
  Serial.weight_of_status (h ▸ hother) k

theorem Serial.weight_of_quarantined {s : Serial} {b : Bucket} (hbucket : s.bucket = some b)
    (hstatus : s.status = .quarantined) (k : Bucket) :
    s.weight k SerialStatus.isQuarantined = if b = k then 1 else 0 := by
  simp [Serial.weight_of_bucket hbucket, SerialStatus.isQuarantined, hstatus]

theorem ne_quarantined_of_available {s : Serial} {reserved : Prop}
    (h : s.status = .inStock ∨ reserved ∧ s.status = .reserved) : s.status ≠ .quarantined := by
  rcases h with h | ⟨_, h⟩ <;> rw [h] <;> decide

/-- The serial and the difference of an adjustment or a count fit. -/
theorem QuarantineMoved.fits {kind : DocumentKind} {doc : Document} {line : Line} {act : Action}
    {s : Serial} {k : Bucket} {delta : ℚ}
    (h : QuarantineMoved env db (.postLine kind doc line act)) (hdiffers : line.Differs kind delta)
    (hs : s ∈ db.serialOf line.serialId) (hbucket : s.bucket = some k) :
    QuarantineFits doc.purpose s.status |delta| (db.balances k .quantityQuarantined) := by
  rcases hdiffers with ⟨rfl, hdelta⟩ | ⟨rfl, counted, system, hcounted, hsystem, hdelta, hne⟩
  · have hone : |delta| = 1 := by
      rw [hdelta]
      norm_num
    rw [hone]
    exact h s hs k hbucket
  · rw [hdelta]
    exact h s hs k hbucket counted hcounted system hsystem (sub_ne_zero.1 (hdelta ▸ hne))

/-- An adjustment that fits moves the quarantined quantity by the unit of its serial. -/
theorem QuarantineFits.moves {purpose : Purpose} {s : Serial} {b : Bucket} {q quarantined : ℚ}
    (h : QuarantineFits purpose s.status q quarantined) (hbucket : s.bucket = some b)
    (hrelease : purpose = .releaseFromQuarantine → s.status = .quarantined)
    (hquarantine : purpose = .quarantine → s.status = .inStock) (delta cost : ℚ) (k : Bucket) :
    (if b = k then adjustmentChanges ctx purpose quarantined delta q cost .quantityQuarantined
      else 0) =
      (adjustedSerial purpose s).weight k SerialStatus.isQuarantined -
        s.weight k SerialStatus.isQuarantined := by
  have hscrapped : ∀ {t : Serial}, t.status = .scrapped →
      t.weight k SerialStatus.isQuarantined = 0 := fun ht => Serial.weight_of_other ht rfl k
  -- the scrapped serial of a write-off or of damage was quarantined, or nothing is
  have hmin : min q quarantined = (if s.status = .quarantined then 1 else 0) →
      (if b = k then -min q quarantined else 0) = 0 - s.weight k SerialStatus.isQuarantined := by
    intro hmin
    rw [hmin]
    by_cases hstatus : s.status = .quarantined
    · rw [Serial.weight_of_quarantined hbucket hstatus, if_pos hstatus]
      split <;> norm_num
    · rw [Serial.weight_of_clear hstatus, if_neg hstatus]
      simp
  cases purpose with
  | quarantine =>
      have hafter : (adjustedSerial .quarantine s).bucket = some b := hbucket
      have hone : q = 1 := h
      rw [Serial.weight_of_quarantined hafter rfl,
        Serial.weight_of_other (hquarantine rfl) rfl, sub_zero, ← hone]
      rfl
  | releaseFromQuarantine =>
      have hone : q = 1 := h
      rw [Serial.weight_of_quarantined hbucket (hrelease rfl),
        Serial.weight_of_other (s := adjustedSerial .releaseFromQuarantine s) rfl rfl, hone]
      show (if b = k then -1 else 0) = _
      split <;> norm_num
  | writeOff =>
      rw [hscrapped rfl]
      exact hmin h
  | damage =>
      rw [hscrapped rfl]
      exact hmin h
  | _ =>
      have hclear : s.status ≠ .quarantined := h
      rw [hscrapped rfl, Serial.weight_of_clear hclear, sub_zero]
      exact ite_self 0

theorem Handled.quarantined (h : Handled ctx env db tx c before after entries)
    (hkept : QuarantineMoved env db c)
    (hfound : ∀ s, before = some s → db.serials.find? s.id = some s ∧ s.Placed) (k : Bucket) :
    entriesSum entries k .quantityQuarantined =
      after.elim 0 (Serial.weight k SerialStatus.isQuarantined) -
        before.elim 0 (Serial.weight k SerialStatus.isQuarantined) := by
  cases h with
  | received _ _ hstatus _ hshifts =>
      rw [entriesSum_row, hshifts.2]
      simp [Serial.weight_of_other hstatus rfl]
  | issued _ _ hstatus _ hissued hshifts =>
      rw [entriesSum_row, hshifts.2]
      simp [Serial.weight_of_clear (ne_quarantined_of_available hstatus),
        Serial.weight_of_other hissued rfl]
  | @returned doc line act s s' b changes _ hout _ hbucket hstatus hshifts =>
      rw [entriesSum_row, hshifts.2, Option.elim_some, Option.elim_some,
        Serial.weight_of_none hout, sub_zero]
      split at hstatus
      · next hdamaged =>
        rw [Serial.weight_of_quarantined hbucket hstatus, if_pos hdamaged]
      · next hgood =>
        rw [Serial.weight_of_other hstatus rfl, if_neg hgood, ite_self]
  | dispatched _ _ hstatus _ hgone hshifts =>
      rw [entriesSum_row, hshifts.2]
      simp [Serial.weight_of_clear (ne_quarantined_of_available hstatus),
        Serial.weight_of_other hgone rfl]
  | @arrived doc line s s' b departure changes hserial _ hstatus hdeparture hshifts =>
      have hclear : s.status ≠ .quarantined := hkept s (mem_serialOf hserial (hfound s rfl).1)
      rw [entriesSum_cons, entriesSum_row, hdeparture.2, hshifts.2]
      simp [Serial.weight_of_clear hclear, Serial.weight_of_other hstatus rfl]
  | @adjusted kind doc line act s b delta cost hdiffers hserial hbucket _ hrelease hquarantine _ =>
      have hfits := hkept.fits hdiffers (mem_serialOf hserial (hfound s rfl).1) hbucket
      rw [entriesSum_row]
      exact hfits.moves hbucket hrelease hquarantine delta cost k
  | @reserved body s changes _ _ _ hstatus hshifts =>
      rw [entriesSum_row, hshifts.2]
      simp [Serial.weight_of_other hstatus rfl,
        Serial.weight_of_other (s := { s with status := .reserved }) rfl rfl]
  | @released row cancel s changes hfind hactive hserial hshifts =>
      have hclear : s.status ≠ .quarantined :=
        hkept row hfind hactive s (mem_serialOf hserial (hfound s rfl).1)
      rw [entriesSum_row, hshifts.2]
      simp [Serial.weight_of_clear hclear,
        Serial.weight_of_other (s := { s with status := .inStock }) rfl rfl]
  | @reversed original s e hfind hunreversed _ hserial _ _ _ hshifts =>
      have hclear : s.status ≠ .quarantined :=
        hkept original hfind hunreversed s (mem_serialOf hserial (hfound s rfl).1)
      have hafter : (restoredSerial original s).status ≠ .quarantined := by
        unfold restoredSerial
        split <;> exact nofun
      have hstored : e.stored .quantityQuarantined = 0 := by
        rw [LedgerEntry.stored, hshifts.2]
        exact numeric_zero 4
      rw [reversalEntry, entriesSum_row, hstored]
      simp [Serial.weight_of_clear hclear, Serial.weight_of_clear hafter]

end Calls

/-- In every state of a run whose calls move quarantined units with quarantined serials, the
quarantined quantity of a bucket of a serialized item is the number of its quarantined
serials there. -/
theorem quarantined_serials {ctx : Context 28 12} {db : Database}
    (h : ReachableWhere ctx (· = .empty) QuarantineMoved db) :
    ∀ item ∈ db.items.rows, item.serialized = true → ∀ k : Bucket, k.itemId = item.id →
      db.balances k .quantityQuarantined = db.serialsIn k SerialStatus.isQuarantined :=
  (Reachable.passes h).counted rfl fun _ hkept hhandled hfound =>
    hhandled.quarantined hkept hfound

/-- One of two units is quarantined. -/
def Sample.quarantined : List Request := twoSerials ++ [
  approveNew 3 .adjustments 2 .post
    { document { line one with serialId := some 1 } with
      purpose := .quarantine
      reason := some "scratched" }]

theorem quarantined_serials_quarantined :
    (serveAll pythonContext .empty Sample.quarantined).serialsIn Sample.bucket
      SerialStatus.isQuarantined = 1 ∧
    (serveAll pythonContext .empty Sample.quarantined).balances Sample.bucket
      .quantityQuarantined =
        (serveAll pythonContext .empty Sample.quarantined).serialsIn Sample.bucket
          SerialStatus.isQuarantined := by
  have hrun : ReachableWhere pythonContext (· = .empty) QuarantineMoved
      (serveAll pythonContext .empty Sample.quarantined) :=
    .serveAll (.init rfl) (by decide +kernel)
  have hitem : ∃ item ∈ (serveAll pythonContext .empty Sample.quarantined).items.rows,
      item.serialized = true ∧ item.id = 1 := by decide +kernel
  obtain ⟨item, hmem, hserialized, hid⟩ := hitem
  exact ⟨by decide +kernel, quarantined_serials hrun item hmem hserialized Sample.bucket hid.symm⟩

/-- Then the other one is written off. -/
def Sample.writtenOff : List Request := quarantined ++ [
  approveNew 4 .adjustments 3 .post
    { document { line one with serialId := some 2 } with
      purpose := .writeOff
      reason := some "lost" }]

theorem quarantined_serials_fails : ∃ db, Reachable pythonContext db ∧
    ∃ item ∈ db.items.rows, item.serialized = true ∧ ∃ k : Bucket, k.itemId = item.id ∧
      db.balances k .quantityQuarantined ≠ db.serialsIn k SerialStatus.isQuarantined := by
  have hitem : ∃ item ∈ (serveAll pythonContext .empty Sample.writtenOff).items.rows,
      item.serialized = true ∧ Sample.bucket.itemId = item.id ∧
        (serveAll pythonContext .empty Sample.writtenOff).balances Sample.bucket
          .quantityQuarantined = 0 ∧
        (serveAll pythonContext .empty Sample.writtenOff).serialsIn Sample.bucket
          SerialStatus.isQuarantined = 1 := by decide +kernel
  obtain ⟨item, hmem, hserialized, hid, hquantity, hserials⟩ := hitem
  refine ⟨_, reachable_serveAll pythonContext Sample.writtenOff, item, hmem, hserialized,
    Sample.bucket, hid, ?_⟩
  rw [hquantity, hserials]
  norm_num

end Cestos.Inventory
