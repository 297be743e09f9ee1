import Cestos.Inventory.Balances

/-!
# Posting a stock count

A count shares its branch with the adjustments, and its document has a purpose like theirs. What
the lines of a count do to the quantities is replayed on the balances alone.
-/

namespace Cestos.Inventory

open Cestos.Core Cestos.Core.Decimal

/-- The bucket that a line of a document of the store counts. -/
def Line.bucketIn (line : Line) (store : Id) : Bucket :=
  ⟨line.itemId, store, line.binId, line.lotId⟩

/-- What a count line says that there is. -/
def Line.counted (line : Line) : Option ℚ := line.countedQuantity.map (·.1)

/-- The quantities besides the one that is counted. -/
def otherQuantities : List BucketField :=
  [.quantityReserved, .quantityQuarantined, .quantityInTransit]

/-- What a posted count should leave of a line: the bucket has what was counted, and the other
quantities are what they were. -/
structure CountHolds (balances balances' : Bucket → BucketFields) (k : Bucket) (line : Line) :
    Prop where
  onHand : line.counted = some (balances' k .quantityOnHand)
  others : ∀ f ∈ otherQuantities, balances' k f = balances k f

/-- Purposes that move stock between available and quarantined. -/
def Purpose.ofQuarantine (purpose : Purpose) : Prop :=
  purpose = .quarantine ∨ purpose = .releaseFromQuarantine

/-- Purposes that take stock out of quarantine as well. -/
def Purpose.disposes (purpose : Purpose) : Prop := purpose = .writeOff ∨ purpose = .damage

instance (purpose : Purpose) : Decidable purpose.ofQuarantine :=
  inferInstanceAs (Decidable (_ ∨ _))

instance (purpose : Purpose) : Decidable purpose.disposes := inferInstanceAs (Decidable (_ ∨ _))

/-- A difference that is posted for the purpose goes to the quantity on hand, and only there. -/
def Countable (purpose : Purpose) (fields : BucketFields) : Prop :=
  ¬ purpose.ofQuarantine ∧ (purpose.disposes → fields .quantityQuarantined = 0)

/-! ## One line -/

/-- What a count line does to the quantities of its bucket. -/
def countChanges (purpose : Purpose) (quarantined delta : ℚ) : Changes where
  quantityOnHand := if purpose.ofQuarantine then 0 else delta
  quantityQuarantined :=
    match purpose with
    | .quarantine => |delta|
    | .releaseFromQuarantine => -|delta|
    | .writeOff | .damage => -min |delta| quarantined
    | _ => 0

theorem adjustmentChanges_quantity (ctx : Context 28 12) (purpose : Purpose)
    (quarantined delta cost : ℚ) {f : BucketField} (hf : f.IsQuantity) :
    adjustmentChanges ctx purpose quarantined delta |delta| cost f =
      (countChanges purpose quarantined delta).fields f := by
  cases f with
  | inventoryValue => cases hf
  | transitValue => cases hf
  | _ =>
      cases purpose <;>
        simp [adjustmentChanges, countChanges, Changes.fields, Purpose.ofQuarantine]

theorem countChanges_zero (purpose : Purpose) {quarantined : ℚ} (hnonneg : 0 ≤ quarantined)
    (f : BucketField) : (countChanges purpose quarantined 0).fields f = 0 := by
  cases f <;> cases purpose <;> simp [countChanges, Changes.fields, hnonneg]

/-- The balances before and after a posted count line. -/
structure CountStep (purpose : Purpose) (k : Bucket) (counted : ℚ)
    (balances balances' : Bucket → BucketFields) : Prop where
  steady : Steady balances'
  moved : ∀ k' f, BucketField.IsQuantity f → balances' k' f = balances k' f +
    if k = k' then (countChanges purpose (balances k .quantityQuarantined)
      (counted - balances k .quantityOnHand)).fields f else 0

theorem CountStep.same {purpose : Purpose} {k : Bucket} {balances : Bucket → BucketFields}
    (h : Steady balances) :
    CountStep purpose k (balances k .quantityOnHand) balances balances where
  steady := h
  moved k' f _ := by
    have hnonneg := (lowest_nonneg.1 (h.enough k)).2.2.1
    rw [sub_self, countChanges_zero purpose hnonneg, ite_self, add_zero]

theorem CountStep.of_entry {ctx : Context 28 12} {purpose : Purpose} {k : Bucket}
    {counted cost : ℚ} {tx : Id} {balances : Bucket → BucketFields} (hsteady : Steady balances)
    (hcounted : OnGrid 4 counted)
    (hmovable : Movable ctx balances ⟨tx, k, adjustmentChanges ctx purpose
      (balances k .quantityQuarantined) (counted - balances k .quantityOnHand)
      |counted - balances k .quantityOnHand| cost⟩) :
    CountStep purpose k counted balances (applyEntry ctx balances ⟨tx, k, adjustmentChanges ctx
      purpose (balances k .quantityQuarantined) (counted - balances k .quantityOnHand)
      |counted - balances k .quantityOnHand| cost⟩) := by
  have hdelta := hcounted.sub (hsteady.grid k .quantityOnHand rfl)
  obtain ⟨hsteady', hmoved⟩ := hmovable.steady (adjustmentChanges_onGrid
    (hsteady.grid k .quantityQuarantined rfl) hdelta (onGrid_abs hdelta)) hsteady
  refine ⟨hsteady', fun k' f hf => ?_⟩
  rw [hmoved k' f hf, ← adjustmentChanges_quantity ctx purpose _ _ cost hf]

theorem countChanges_countable {purpose : Purpose} {fields : BucketFields}
    (h : Countable purpose fields) (delta : ℚ) :
    countChanges purpose (fields .quantityQuarantined) delta = { quantityOnHand := delta } := by
  obtain ⟨hplain, hdisposes⟩ := h
  unfold countChanges
  rw [if_neg hplain]
  congr 1
  split
  · exact absurd (.inl rfl) hplain
  · exact absurd (.inr rfl) hplain
  · rw [hdisposes (.inl rfl), min_eq_right (abs_nonneg delta), neg_zero]
  · rw [hdisposes (.inr rfl), min_eq_right (abs_nonneg delta), neg_zero]
  · rfl

/-- A line that found nothing new, or whose difference goes where it should. -/
theorem CountStep.kept {purpose : Purpose} {k : Bucket} {counted : ℚ}
    {balances balances' : Bucket → BucketFields} (h : CountStep purpose k counted balances balances')
    (hline : counted = balances k .quantityOnHand ∨ Countable purpose (balances k))
    (hnonneg : 0 ≤ balances k .quantityQuarantined) (k' : Bucket) {f : BucketField}
    (hf : f.IsQuantity) :
    balances' k' f = if k' = k ∧ f = .quantityOnHand then counted else balances k' f := by
  have hchanges : (countChanges purpose (balances k .quantityQuarantined)
      (counted - balances k .quantityOnHand)).fields f =
        if f = .quantityOnHand then counted - balances k .quantityOnHand else 0 := by
    rcases hline with rfl | hcountable
    · rw [sub_self, countChanges_zero purpose hnonneg, ite_self]
    · rw [countChanges_countable hcountable]
      cases f <;> simp [Changes.fields]
  rw [h.moved k' f hf, hchanges]
  by_cases hk : k' = k
  · subst hk
    by_cases honHand : f = .quantityOnHand
    · simp [honHand]
    · simp [honHand]
  · simp [hk, Ne.symm hk]

theorem CountStep.disposed {purpose : Purpose} {k : Bucket} {counted : ℚ}
    {balances balances' : Bucket → BucketFields} (h : CountStep purpose k counted balances balances')
    (hpurpose : purpose.disposes) :
    balances' k .quantityQuarantined = balances k .quantityQuarantined -
        min |counted - balances k .quantityOnHand| (balances k .quantityQuarantined) ∧
      balances' k .quantityOnHand = counted := by
  rw [h.moved k _ rfl, h.moved k _ rfl]
  rcases hpurpose with rfl | rfl <;>
    simp [countChanges, Changes.fields, Purpose.ofQuarantine, sub_eq_add_neg]

theorem adjust_moves {ctx : Context 28 12} {env : Env} {db db' : Database} {m : Move}
    {txkind : TransactionType} {delta q : ℚ} (h : adjust ctx env db m txkind delta q = .ok db') :
    ∃ tx cost, Movable ctx db.balances ⟨tx, m.bucket, adjustmentChanges ctx m.doc.purpose
        (db.balances m.bucket .quantityQuarantined) delta q cost⟩ ∧
      db'.balances = applyEntry ctx db.balances ⟨tx, m.bucket, adjustmentChanges ctx m.doc.purpose
        (db.balances m.bucket .quantityQuarantined) delta q cost⟩ := by
  simp only [adjust, bind_eq_ok, ensure_eq_ok, exists_const, Prod.exists] at h
  obtain ⟨tx, _, htx, -, _, heffect, -, hfinish⟩ := h
  obtain ⟨-, transactions, -, rfl⟩ := transaction_eq_ok htx
  obtain ⟨hmovable, rfl⟩ := effect_eq_ok.1 heffect
  obtain ⟨_, _, rfl⟩ := finishLine_eq_ok hfinish
  exact ⟨tx.id, _, hmovable, rfl⟩

theorem postLine_count {ctx : Context 28 12} {env : Env} {db db' : Database} {doc : Document}
    {line : Line} {store : Id} (hsteady : Steady db.balances) (hstore : doc.storeId = some store)
    (h : postLine ctx env db .stockCounts doc line .post = .ok db') :
    ∃ counted, line.counted = some counted ∧
      CountStep doc.purpose (line.bucketIn store) counted db.balances db'.balances := by
  obtain ⟨m, mid, hprepared, hmove⟩ := postLine_prepared h
  obtain ⟨hline, rfl⟩ := hprepared.plain (by simp)
  have hbucket : m.bucket = line.bucketIn store := by
    have hitem : m.item.id = line.itemId := Table.key_of_find? hprepared.item
    have hsource : some store = some m.source := by
      rw [← hprepared.source, hprepared.document, ← hstore]
      rfl
    rw [Move.bucket, hprepared.bin, hline, hitem, ← Option.some.inj hsource]
    rfl
  simp only [postMove, postCount, bind_eq_ok, orError_eq_ok, ensure_eq_ok, exists_const] at hmove
  obtain ⟨_, -, -, counted, hcounted, hrest⟩ := hmove
  rw [hline] at hcounted
  refine ⟨counted.1, by rw [Line.counted, hcounted, Option.map_some], ?_⟩
  split at hrest
  · next hsame =>
    obtain rfl := Except.ok.inj hrest
    rw [sub_eq_zero.1 hsame, hbucket]
    exact .same hsteady
  · obtain ⟨tx, cost, hmovable, hbalances⟩ := adjust_moves hrest
    rw [hbucket, hprepared.document] at hmovable hbalances
    rw [hbalances]
    exact .of_entry hsteady counted.2 hmovable

/-! ## All lines -/

/-- The lines of a count of the store, posted one after the other. -/
inductive CountRun (purpose : Purpose) (store : Id) :
    List Line → (Bucket → BucketFields) → (Bucket → BucketFields) → Prop
  | nil {balances} : CountRun purpose store [] balances balances
  | cons {line rest counted balances mid balances'} : line.counted = some counted →
      CountStep purpose (line.bucketIn store) counted balances mid →
      CountRun purpose store rest mid balances' →
      CountRun purpose store (line :: rest) balances balances'

theorem postLines_count {ctx : Context 28 12} {env : Env} {db db' : Database} {doc : Document}
    {lines : List Line} {store : Id} (hsteady : Steady db.balances)
    (hstore : doc.storeId = some store)
    (h : postLines ctx env .stockCounts doc .post lines db = .ok db') :
    CountRun doc.purpose store lines db.balances db'.balances := by
  induction lines generalizing db with
  | nil =>
      simp only [postLines, List.foldlM_nil, pure_eq_ok] at h
      exact h ▸ .nil
  | cons line rest ih =>
      simp only [postLines, List.foldlM_cons, bind_eq_ok] at h
      obtain ⟨mid, hline, hrest⟩ := h
      obtain ⟨counted, hcounted, hstep⟩ := postLine_count hsteady hstore hline
      exact .cons hcounted hstep (ih hstep.steady hrest)

section Run

variable {purpose : Purpose} {store : Id} {lines : List Line}
  {balances balances' : Bucket → BucketFields}

/-- Every line leaves what it counted, and a later line of the bucket counted the same. -/
theorem CountRun.kept (h : CountRun purpose store lines balances balances')
    (hsteady : Steady balances)
    (hlines : ∀ line ∈ lines, line.counted = some (balances (line.bucketIn store) .quantityOnHand) ∨
      Countable purpose (balances (line.bucketIn store)))
    (hagree : ∀ line ∈ lines, ∀ other ∈ lines, line.bucketIn store = other.bucketIn store →
      line.counted = other.counted) :
    (∀ k f, BucketField.IsQuantity f → f ≠ .quantityOnHand → balances' k f = balances k f) ∧
      (∀ line ∈ lines, line.counted = some (balances' (line.bucketIn store) .quantityOnHand)) ∧
      ∀ k, (∀ line ∈ lines, line.bucketIn store ≠ k) →
        balances' k .quantityOnHand = balances k .quantityOnHand := by
  induction h with
  | nil => exact ⟨fun _ _ _ _ => rfl, by simp, fun _ _ => rfl⟩
  | @cons line rest counted balances mid balances' hcounted hstep _ ih =>
      have hfirst : counted = balances (line.bucketIn store) .quantityOnHand ∨
          Countable purpose (balances (line.bucketIn store)) := by
        refine (hlines line List.mem_cons_self).imp_left fun heq => ?_
        exact Option.some.inj (hcounted.symm.trans heq)
      have hkept : ∀ k f, BucketField.IsQuantity f → mid k f =
          if k = line.bucketIn store ∧ f = .quantityOnHand then counted else balances k f :=
        fun k f hf => hstep.kept hfirst (lowest_nonneg.1 (hsteady.enough _)).2.2.1 k hf
      have hlater : ∀ later ∈ rest,
          later.counted = some (mid (later.bucketIn store) .quantityOnHand) ∨
            Countable purpose (mid (later.bucketIn store)) := by
        intro later hlater
        by_cases hsame : later.bucketIn store = line.bucketIn store
        · left
          rw [hagree later (List.mem_cons_of_mem _ hlater) line List.mem_cons_self hsame, hcounted,
            hkept _ _ rfl, if_pos ⟨hsame, rfl⟩]
        · have hstays : ∀ f, BucketField.IsQuantity f →
              mid (later.bucketIn store) f = balances (later.bucketIn store) f :=
            fun f hf => by rw [hkept _ f hf, if_neg fun hboth => hsame hboth.1]
          rw [hstays _ rfl, Countable, hstays _ rfl]
          exact hlines later (List.mem_cons_of_mem _ hlater)
      obtain ⟨hothers, hrest, helsewhere⟩ := ih hstep.steady hlater fun later hlater other hother =>
        hagree later (List.mem_cons_of_mem _ hlater) other (List.mem_cons_of_mem _ hother)
      refine ⟨fun k f hf hne => ?_, fun later hlater => ?_, fun k hk => ?_⟩
      · rw [hothers k f hf hne, hkept k f hf, if_neg fun hboth => hne hboth.2]
      · rcases List.mem_cons.1 hlater with rfl | hmem
        · -- either a later line of the bucket says the same, or none touches the bucket
          by_cases hagain : ∃ other ∈ rest, other.bucketIn store = later.bucketIn store
          · obtain ⟨other, hother, hsame⟩ := hagain
            rw [← hagree other (List.mem_cons_of_mem _ hother) later List.mem_cons_self hsame,
              hrest other hother, hsame]
          · rw [helsewhere _ fun other hother hsame => hagain ⟨other, hother, hsame⟩,
              hkept _ _ rfl, if_pos ⟨rfl, rfl⟩, hcounted]
        · exact hrest later hmem
      · rw [helsewhere k fun other hother => hk other (List.mem_cons_of_mem _ hother),
          hkept k _ rfl, if_neg fun hboth => hk line List.mem_cons_self hboth.1.symm]

theorem CountRun.onHand_of_quarantine (h : CountRun purpose store lines balances balances')
    (hpurpose : purpose.ofQuarantine) (k : Bucket) :
    balances' k .quantityOnHand = balances k .quantityOnHand := by
  induction h with
  | nil => rfl
  | cons _ hstep _ ih =>
      rw [ih, hstep.moved k _ rfl]
      simp [countChanges, Changes.fields, hpurpose]

/-- Stock is taken out of quarantine with every difference while there is some. -/
theorem CountRun.disposed (h : CountRun purpose store lines balances balances')
    (hsteady : Steady balances) (hpurpose : purpose.disposes) (k : Bucket) :
    balances' k .quantityQuarantined ≤ balances k .quantityQuarantined ∧
      (balances' k .quantityQuarantined = balances k .quantityQuarantined →
        0 < balances k .quantityQuarantined →
        balances' k .quantityOnHand = balances k .quantityOnHand) := by
  induction h with
  | nil => exact ⟨le_rfl, fun _ _ => rfl⟩
  | @cons line rest counted balances mid balances' _ hstep _ ih =>
      obtain ⟨hle, hsame⟩ := ih hstep.steady
      by_cases hk : line.bucketIn store = k
      · subst hk
        have hnonneg := (lowest_nonneg.1 (hsteady.enough (line.bucketIn store))).2.2.1
        obtain ⟨hquarantined, honHand⟩ := hstep.disposed hpurpose
        have htaken := le_min (abs_nonneg (counted - balances (line.bucketIn store) .quantityOnHand))
          hnonneg
        refine ⟨by linarith, fun hequal hpos => ?_⟩
        -- nothing was taken, so there was no difference
        have hzero : min |counted - balances (line.bucketIn store) .quantityOnHand|
            (balances (line.bucketIn store) .quantityQuarantined) = 0 := by linarith
        have hdelta : counted = mid (line.bucketIn store) .quantityOnHand := honHand.symm
        have hnone : counted - balances (line.bucketIn store) .quantityOnHand = 0 := by
          rcases min_choice |counted - balances (line.bucketIn store) .quantityOnHand|
            (balances (line.bucketIn store) .quantityQuarantined) with hleft | hright
          · exact abs_eq_zero.1 (hleft.symm.trans hzero)
          · linarith
        rw [hsame (by linarith) (by linarith), ← hdelta]
        linarith
      · have hstays : ∀ f, BucketField.IsQuantity f → mid k f = balances k f :=
          fun f hf => by rw [hstep.moved k f hf, if_neg hk, add_zero]
        rw [hstays _ rfl] at hle hsame
        rw [hstays _ rfl] at hsame
        exact ⟨hle, hsame⟩

/-- The lines of one bucket counted the same. -/
def Agreeing (store : Id) (lines : List Line) : Prop :=
  ∀ line ∈ lines, ∀ other ∈ lines, line.bucketIn store = other.bucketIn store →
    line.counted = other.counted

/-- A line found what the system knew, or its difference goes to the quantity on hand. -/
def Counts (purpose : Purpose) (store : Id) (balances : Bucket → BucketFields) (line : Line) : Prop :=
  line.counted = some (balances (line.bucketIn store) .quantityOnHand) ∨
    Countable purpose (balances (line.bucketIn store))

theorem CountRun.holds_iff (h : CountRun purpose store lines balances balances')
    (hsteady : Steady balances) :
    (∀ line ∈ lines, CountHolds balances balances' (line.bucketIn store) line) ↔
      (∀ line ∈ lines, Counts purpose store balances line) ∧ Agreeing store lines := by
  constructor
  · intro hall
    refine ⟨fun line hline => ?_, fun line hline other hother hsame => ?_⟩
    · by_contra hnot
      obtain ⟨hchanged, huncountable⟩ := not_or.1 hnot
      have hdifferent : balances' (line.bucketIn store) .quantityOnHand ≠
          balances (line.bucketIn store) .quantityOnHand := by
        intro hstays
        exact hchanged (by rw [(hall line hline).onHand, hstays])
      have hplain : ¬ purpose.ofQuarantine :=
        fun hpurpose => hdifferent (h.onHand_of_quarantine hpurpose _)
      have hquarantined : ¬ (purpose.disposes →
          balances (line.bucketIn store) .quantityQuarantined = 0) :=
        fun hzero => huncountable ⟨hplain, hzero⟩
      obtain ⟨hpurpose, hsome⟩ := Classical.not_imp.1 hquarantined
      have hnonneg := (lowest_nonneg.1 (hsteady.enough (line.bucketIn store))).2.2.1
      exact hdifferent ((h.disposed hsteady hpurpose _).2
        ((hall line hline).others _ (by simp [otherQuantities]))
        (lt_of_le_of_ne hnonneg (Ne.symm hsome)))
    · rw [(hall line hline).onHand, (hall other hother).onHand, hsame]
  · rintro ⟨hlines, hagree⟩ line hline
    obtain ⟨hothers, honHand, -⟩ := h.kept hsteady hlines hagree
    refine ⟨honHand line hline, fun f hf => ?_⟩
    simp only [otherQuantities, List.mem_cons, List.not_mem_nil, or_false] at hf
    rcases hf with rfl | rfl | rfl <;> exact hothers _ _ rfl (by simp)

end Run

/-! ## The document -/

theorem postDocument_count {ctx : Context 28 12} {env : Env} {db db' : Database} {doc : Document}
    (hsteady : Steady db.balances) (h : postDocument ctx env db .stockCounts doc .post = .ok db') :
    ∀ store ∈ doc.storeId, CountRun doc.purpose store (db.linesOf doc.id) db.balances
      db'.balances := by
  intro store hstore
  simp only [postDocument, bind_eq_ok, ensure_eq_ok, exists_const, found_eq_ok,
    Except.ok.injEq] at h
  obtain ⟨-, _, -, _, -, -, s, hlines, posted, -, rfl⟩ := h
  have hrun : CountRun doc.purpose store (db.linesOf doc.id) db.balances s.balances :=
    postLines_count hsteady hstore hlines
  exact hrun

/-- A count that is posted for a purpose leaves in every bucket what was counted, and the other
quantities as they were, if and only if no difference was posted for a purpose of quarantine or
taken out of quarantined stock and the lines of a bucket counted the same. -/
theorem count_posted {ctx : Context 28 12} {env : Env} {db db' : Database} {id : Id}
    {doc : Document} {body : ActionBody} (h : Reachable ctx db)
    (hdoc : db.document .stockCounts id = some doc)
    (hpost : action ctx env db .stockCounts id .post body = .ok db') :
    (∀ store ∈ doc.storeId, ∀ line ∈ db.linesOf id,
        CountHolds db.balances db'.balances (line.bucketIn store) line) ↔
      ∀ store ∈ doc.storeId, (∀ line ∈ db.linesOf id,
          line.counted = some (db.balances (line.bucketIn store) .quantityOnHand) ∨
            doc.status ≠ .posted ∧ Countable doc.purpose (db.balances (line.bucketIn store))) ∧
        Agreeing store (db.linesOf id) := by
  obtain rfl : doc.id = id := Table.key_of_find? (Database.document_eq_some.1 hdoc).1
  refine forall₂_congr fun store hstore => ?_
  simp only [action, bind_eq_ok, found_eq_ok, hdoc, Option.some.injEq, exists_eq_left'] at hpost
  split at hpost
  · next hposted =>
    obtain rfl := Except.ok.inj hpost
    have hstatus : doc.status = .posted := (Option.some.inj hposted).symm
    constructor
    · intro hall
      refine ⟨fun line hline => .inl (hall line hline).onHand, fun line hline other hother hsame => ?_⟩
      rw [(hall line hline).onHand, (hall other hother).onHand, hsame]
    · rintro ⟨hlines, -⟩ line hline
      exact ⟨(hlines line hline).resolve_right fun hboth => hboth.1 hstatus, fun _ _ => rfl⟩
  · next hfresh =>
    have hstatus : doc.status ≠ .posted := fun heq => hfresh (heq ▸ rfl)
    have hrun := postDocument_count (Reachable.balanced h).steady hpost store hstore
    simpa only [Counts, hstatus, ne_eq, not_false_eq_true, true_and] using
      hrun.holds_iff (Reachable.balanced h).steady

namespace Sample

/-- A count of the received item for a purpose, up to its approval. -/
def counting (purpose : Purpose) (counted : ℚ) : Request :=
  ⟨env 3, [.documentSave .stockCounts none { document (line one) with purpose },
    .action .stockCounts 2 .start {}, .action .stockCounts 2 .submit { quantities := fun _ => some counted },
    .action .stockCounts 2 .approve {}]⟩

/-- Five units were received, and four of them have been found. -/
def miscount (purpose : Purpose) : Database :=
  serveAll pythonContext .empty (received ++ [counting purpose 4])

def postMiscount (purpose : Purpose) : Outcome Database :=
  action pythonContext (env 4) (miscount purpose) .stockCounts 2 .post {}

end Sample

/-- A count for no purpose of its own takes the missing unit off. -/
theorem count_posted_four : ∃ db', Sample.postMiscount .other = .ok db' ∧
    ∃ line ∈ (Sample.miscount .other).linesOf 2,
      CountHolds (Sample.miscount .other).balances db'.balances (line.bucketIn 1) line := by
  obtain ⟨db', hpost, -⟩ := exists_of_any (x := Sample.postMiscount .other) (p := fun _ => true)
    (by decide +kernel)
  obtain ⟨doc, hdoc, hfields⟩ := (Option.any_eq_true _ _).1
    (show ((Sample.miscount .other).document .stockCounts 2).any (fun doc =>
      doc.storeId = some 1 ∧ doc.status ≠ .posted ∧ doc.purpose = .other) = true by decide +kernel)
  obtain ⟨hstore, hstatus, hpurpose⟩ := of_decide_eq_true hfields
  have hline : ∃ line, line ∈ (Sample.miscount .other).linesOf 2 :=
    List.exists_mem_of_ne_nil _ (by decide +kernel)
  obtain ⟨line, hline⟩ := hline
  refine ⟨db', hpost, line, hline, ?_⟩
  refine (count_posted (reachable_serveAll _ _) hdoc hpost).2 (fun store hstore' => ?_) 1 hstore
    line hline
  obtain rfl : 1 = store := Option.some.inj (hstore.symm.trans hstore')
  refine ⟨fun line _ => .inr ⟨hstatus, ?_⟩, ?_⟩
  · simp [Countable, Purpose.ofQuarantine, Purpose.disposes, hpurpose]
  · unfold Agreeing
    decide +kernel

/-- For the purpose of quarantine the missing unit goes into quarantine and stays on hand. -/
theorem count_posted_fails : ¬ ∀ (db db' : Database) (doc : Document) (env : Env) (id : Id)
    (body : ActionBody), Reachable pythonContext db → db.document .stockCounts id = some doc →
      action pythonContext env db .stockCounts id .post body = .ok db' →
        ∀ store ∈ doc.storeId, ∀ line ∈ db.linesOf id,
          CountHolds db.balances db'.balances (line.bucketIn store) line := by
  intro hall
  obtain ⟨db', hpost, hfive⟩ := exists_of_any (x := Sample.postMiscount .quarantine)
    (p := fun db' => db'.balances Sample.bucket .quantityOnHand = 5) (by decide +kernel)
  obtain ⟨doc, hdoc, hstore⟩ := (Option.any_eq_true _ _).1
    (show ((Sample.miscount .quarantine).document .stockCounts 2).any (fun doc =>
      doc.storeId = some 1) = true by decide +kernel)
  obtain ⟨line, hline, hbucket, hfour⟩ : ∃ line ∈ (Sample.miscount .quarantine).linesOf 2,
      line.bucketIn 1 = Sample.bucket ∧ line.counted = some 4 := by decide +kernel
  have hholds := hall _ db' doc (Sample.env 4) 2 {} (reachable_serveAll _ _) hdoc hpost 1
    (of_decide_eq_true hstore) line hline
  rw [hbucket] at hholds
  have hequal := hholds.onHand
  rw [of_decide_eq_true hfive, hfour] at hequal
  norm_num at hequal

end Cestos.Inventory
